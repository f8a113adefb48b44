import MipsGloss.Json.Value

namespace MipsGloss.Json

/-! The reader takes one value from the front of a text and leaves the rest. -/

def isSpace (character : Char) : Bool :=
  [' ', '\t', '\n', '\r'].contains character

def skipSpace (characters : List Char) : List Char := characters.dropWhile isSpace

/-! A string is read in two steps. First its pieces are told apart: characters
that stand for themselves or are escaped by a letter, and code units that are
escaped by number. Then two code units that form a surrogate pair become one
character; a surrogate on its own becomes the replacement character. -/

inductive TextUnit where
  | plain (character : Char)
  | coded (code : Nat)
  deriving DecidableEq, Repr

def letterEscapes : List (Char × Char) :=
  [('\x22', '\x22'), ('\\', '\\'), ('/', '/'), ('b', '\x08'), ('f', '\x0c'),
   ('n', '\n'), ('r', '\r'), ('t', '\t')]

/-- Reads the units of a string up to its closing quote. -/
def readUnits : List Char → Option (List TextUnit × List Char)
  | [] => none
  | '\x22' :: rest => some ([], rest)
  | '\\' :: 'u' :: first :: second :: third :: fourth :: rest =>
    let digits := [first, second, third, fourth]
    if digits.all Text.isHexDigit then
      (readUnits rest).map fun (units, rest) =>
        (.coded (Text.numeralValue 16 digits) :: units, rest)
    else none
  | '\\' :: letter :: rest =>
    match letterEscapes.lookup letter with
    | some character =>
      (readUnits rest).map fun (units, rest) => (.plain character :: units, rest)
    | none => none
  | character :: rest =>
    if character.toNat < 0x20 ∨ character = '\\' then none
    else
      (readUnits rest).map fun (units, rest) => (.plain character :: units, rest)

def isHighSurrogate (code : Nat) : Bool := 0xd800 ≤ code && code < 0xdc00

def isLowSurrogate (code : Nat) : Bool := 0xdc00 ≤ code && code < 0xe000

def replacement : Char := '\ufffd'

def ofCode (code : Nat) : Char :=
  if isHighSurrogate code || isLowSurrogate code then replacement
  else Char.ofNat code

def joinUnits : List TextUnit → List Char
  | [] => []
  | .plain character :: rest => character :: joinUnits rest
  | .coded high :: .coded low :: rest =>
    if isHighSurrogate high && isLowSurrogate low then
      Char.ofNat (0x10000 + (high - 0xd800) * 0x400 + (low - 0xdc00)) :: joinUnits rest
    else ofCode high :: joinUnits (.coded low :: rest)
  | .coded code :: rest => ofCode code :: joinUnits rest

def readString (characters : List Char) : Option (String × List Char) :=
  (readUnits characters).map fun (units, rest) =>
    (String.ofList (joinUnits units), rest)

/-! A number is an optional minus sign, a whole part without needless zeros, an
optional fraction and an optional exponent. -/

/-- Takes as many decimal digits as there are, but at least one. -/
def takeDigits? (characters : List Char) : Option (List Char × List Char) :=
  match characters.takeWhile Text.isDecimalDigit with
  | [] => none
  | digits => some (digits, characters.dropWhile Text.isDecimalDigit)

def takeWhole? : List Char → Option (List Char × List Char)
  | '0' :: rest => some (['0'], rest)
  | characters => takeDigits? characters

def takeFraction? : List Char → Option (List Char × List Char)
  | '.' :: rest => (takeDigits? rest).map fun (digits, rest) => ('.' :: digits, rest)
  | characters => some ([], characters)

def takeSign : List Char → List Char × List Char
  | '+' :: rest => (['+'], rest)
  | '-' :: rest => (['-'], rest)
  | characters => ([], characters)

def takeExponent? : List Char → Option (List Char × List Char)
  | character :: rest =>
    if character = 'e' ∨ character = 'E' then
      let (sign, rest) := takeSign rest
      (takeDigits? rest).map fun (digits, rest) => (character :: sign ++ digits, rest)
    else some ([], character :: rest)
  | [] => some ([], [])

def readNumber (characters : List Char) : Option (String × List Char) := do
  let (sign, rest) :=
    match characters with
    | '-' :: rest => (['-'], rest)
    | _ => ([], characters)
  let (whole, rest) ← takeWhole? rest
  let (fraction, rest) ← takeFraction? rest
  let (exponent, rest) ← takeExponent? rest
  some (String.ofList (sign ++ whole ++ fraction ++ exponent), rest)

mutual

/-- Reads the value that the characters begin with. The fuel bounds the number
of steps; two steps for each character and one more are enough. -/
def readValue (fuel : Nat) (characters : List Char) : Option (Value × List Char) :=
  match fuel with
  | 0 => none
  | fuel + 1 =>
    match skipSpace characters with
    | 'n' :: 'u' :: 'l' :: 'l' :: rest => some (.null, rest)
    | 't' :: 'r' :: 'u' :: 'e' :: rest => some (.boolean true, rest)
    | 'f' :: 'a' :: 'l' :: 's' :: 'e' :: rest => some (.boolean false, rest)
    | '\x22' :: rest => (readString rest).map fun (text, rest) => (.string text, rest)
    | '[' :: rest =>
      match skipSpace rest with
      | ']' :: rest => some (.array [], rest)
      | _ => (readItems fuel rest).map fun (items, rest) => (.array items, rest)
    | '\x7b' :: rest =>
      match skipSpace rest with
      | '\x7d' :: rest => some (.object [], rest)
      | _ => (readMembers fuel rest).map fun (members, rest) => (.object members, rest)
    | characters =>
      (readNumber characters).map fun (spelling, rest) => (.number spelling, rest)

/-- Reads the items of an array, up to and with its closing bracket. -/
def readItems (fuel : Nat) (characters : List Char) :
    Option (List Value × List Char) :=
  match fuel with
  | 0 => none
  | fuel + 1 =>
    match readValue fuel characters with
    | none => none
    | some (item, rest) =>
      match skipSpace rest with
      | ']' :: rest => some ([item], rest)
      | ',' :: rest => (readItems fuel rest).map fun (items, rest) => (item :: items, rest)
      | _ => none

/-- Reads the members of an object, up to and with its closing brace. -/
def readMembers (fuel : Nat) (characters : List Char) :
    Option (List (String × Value) × List Char) :=
  match fuel with
  | 0 => none
  | fuel + 1 =>
    match skipSpace characters with
    | '\x22' :: rest =>
      match readString rest with
      | none => none
      | some (name, rest) =>
        match skipSpace rest with
        | ':' :: rest =>
          match readValue fuel rest with
          | none => none
          | some (value, rest) =>
            match skipSpace rest with
            | '\x7d' :: rest => some ([(name, value)], rest)
            | ',' :: rest =>
              (readMembers fuel rest).map fun (members, rest) =>
                ((name, value) :: members, rest)
            | _ => none
        | _ => none
    | _ => none

end

/-- The first value of a text, however deep it is, and what follows it. -/
def readAny (text : String) : Option (Value × List Char) :=
  let characters := text.toList
  readValue (2 * characters.length + 1) characters

/-- The deepest that arrays and objects can stand inside of each other. -/
def depthLimit : Nat := 10000

/-- The first value of a text, unless it is too deep, and what follows it. -/
def read (text : String) : Option (Value × List Char) :=
  (readAny text).filter fun (value, _) => value.depth ≤ depthLimit

end MipsGloss.Json
