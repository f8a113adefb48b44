import MipsGloss.Assembly.Operand
import MipsGloss.Text.Numeral

namespace MipsGloss.Listing

/-! A disassembly listing has two kinds of lines that matter. A header gives the
address and the label of a block:

    00400000 <main>:

and an instruction gives an address, an encoded word and a line of assembly:

    400000:  8f a4 00 08  lw a0,8(sp)
    400000:  8fa40008     lw a0,8(sp)

The word is written as four bytes or as one number. Columns are separated by
gaps; every other line is passed over. -/

/-- The encoded word of an instruction line, in its two spellings. -/
inductive Encoded where
  | number (digits : List Char)
  | bytes (first second third fourth : List Char)
  deriving DecidableEq, Repr

inductive Line where
  | header (address label : List Char)
  | instruction (address : List Char) (encoded : Encoded)
      (mnemonic operands : List Char)
  | other
  deriving DecidableEq, Repr

/-- Passes over a gap of at least one character. -/
def skipGap? : List Char → Option (List Char)
  | [] => none
  | character :: rest =>
    if Text.isGap character then some (rest.dropWhile Text.isGap) else none

/-- Takes exactly `count` hexadecimal digits. -/
def takeHex? (count : Nat) (characters : List Char) :
    Option (List Char × List Char) :=
  let digits := characters.take count
  if digits.length = count ∧ digits.all Text.isHexDigit then
    some (digits, characters.drop count)
  else none

/-- Takes as many hexadecimal digits as there are, but at least one. -/
def takeAddress? (characters : List Char) : Option (List Char × List Char) :=
  match characters.takeWhile Text.isHexDigit with
  | [] => none
  | digits => some (digits, characters.dropWhile Text.isHexDigit)

/-- Takes two hexadecimal digits and the gap behind them. -/
def takeByte? (characters : List Char) : Option (List Char × List Char) := do
  let (digits, rest) ← takeHex? 2 characters
  let rest ← skipGap? rest
  some (digits, rest)

def takeBytes? (characters : List Char) : Option (Encoded × List Char) := do
  let (first, rest) ← takeByte? characters
  let (second, rest) ← takeByte? rest
  let (third, rest) ← takeByte? rest
  let (fourth, rest) ← takeHex? 2 rest
  some (.bytes first second third fourth, rest)

def takeNumber? (characters : List Char) : Option (Encoded × List Char) := do
  let (digits, rest) ← takeHex? 8 characters
  some (.number digits, rest)

def takeEncoded? (characters : List Char) : Option (Encoded × List Char) :=
  (takeBytes? characters).or (takeNumber? characters)

/-! A mnemonic starts with a small letter and goes on with small letters and
digits. Suffixes of small letters and digits may follow, each behind a dot. -/

def isSmall (character : Char) : Bool := 'a' ≤ character && character ≤ 'z'

def isSmallOrDigit (character : Char) : Bool :=
  isSmall character || Text.isDecimalDigit character

/-- Whether the characters begin with one that may stand behind a dot. -/
def startsSuffix : List Char → Bool
  | character :: _ => isSmallOrDigit character
  | [] => false

/-- Splits off the longest continuation of a mnemonic. A dot belongs to it only
with a character behind it. -/
def spanMnemonic : List Char → List Char × List Char
  | [] => ([], [])
  | character :: rest =>
    if isSmallOrDigit character || (character == '.' && startsSuffix rest) then
      let (taken, left) := spanMnemonic rest
      (character :: taken, left)
    else ([], character :: rest)

def takeMnemonic? : List Char → Option (List Char × List Char)
  | [] => none
  | character :: rest =>
    if isSmall character then
      let (taken, left) := spanMnemonic rest
      some (character :: taken, left)
    else none

def header? (characters : List Char) : Option Line := do
  let (address, rest) ← takeAddress? characters
  let rest ← skipGap? rest
  match rest with
  | '<' :: inner =>
    let label := inner.takeWhile (· != '>')
    if label ≠ [] ∧ inner.dropWhile (· != '>') = ['>', ':'] then
      some (.header address label)
    else none
  | _ => none

def instruction? (characters : List Char) : Option Line := do
  let (address, rest) ← takeAddress? characters
  match rest with
  | ':' :: rest =>
    let rest ← skipGap? rest
    let (encoded, rest) ← takeEncoded? rest
    let rest ← skipGap? rest
    let (mnemonic, rest) ← takeMnemonic? rest
    some (.instruction address encoded mnemonic (rest.dropWhile Text.isGap))
  | _ => none

def Line.read (characters : List Char) : Line :=
  let characters := Text.trimCharacters characters
  ((header? characters).or (instruction? characters)).getD .other

end MipsGloss.Listing
