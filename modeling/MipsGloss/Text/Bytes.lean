import MipsGloss.Text.Numeral

namespace MipsGloss.Text

/-! Bytes as text. A byte that is not part of the UTF-8 form of a character
becomes the replacement character, which is two or more of them for a form that
is broken off. -/

def replacement : Char := '\ufffd'

/-- How many bytes follow the first one of a character, and what the first one
adds to its code. -/
def leadingByte? (byte : Nat) : Option (Nat × Nat) :=
  if byte < 0x80 then some (0, byte)
  else if 0xc2 ≤ byte ∧ byte < 0xe0 then some (1, byte - 0xc0)
  else if 0xe0 ≤ byte ∧ byte < 0xf0 then some (2, byte - 0xe0)
  else if 0xf0 ≤ byte ∧ byte < 0xf5 then some (3, byte - 0xf0)
  else none

/-- The least code that takes the given number of further bytes. -/
def leastCode (further : Nat) : Nat :=
  match further with
  | 0 => 0
  | 1 => 0x80
  | 2 => 0x800
  | _ => 0x10000

/-- The character that bytes begin with, and how many bytes follow the first one
of it. -/
def firstCharacter? : List Nat → Option (Char × Nat)
  | [] => none
  | byte :: rest =>
    match leadingByte? byte with
    | none => none
    | some (further, bits) =>
      let bytes := rest.take further
      let code := bytes.foldl (fun code byte => code * 0x40 + byte % 0x40) bits
      if bytes.length = further ∧ bytes.all (fun byte => byte / 0x40 == 2) ∧
          leastCode further ≤ code ∧ code.isValidChar then
        some (Char.ofNat code, further)
      else none

/-- The characters of bytes, of which the first few belong to the character
before them. -/
def charactersOfBytes (bytes : List Nat) (passed : Nat) : List Char :=
  match bytes with
  | [] => []
  | byte :: rest =>
    match passed with
    | passed + 1 => charactersOfBytes rest passed
    | 0 =>
      match firstCharacter? (byte :: rest) with
      | some (character, further) => character :: charactersOfBytes rest further
      | none => replacement :: charactersOfBytes rest 0

def ofBytes (bytes : List Nat) : String := String.ofList (charactersOfBytes bytes 0)

/-- The bytes of a text. -/
def bytes (text : String) : List Nat := text.toUTF8.toList.map UInt8.toNat

/-! Bytes in base 64. Three of them are four digits, and what is missing in the
last group is written as equals signs. -/

def base64Value? (character : Char) : Option Nat :=
  if 'A' ≤ character ∧ character ≤ 'Z' then some (character.toNat - 65)
  else if 'a' ≤ character ∧ character ≤ 'z' then some (character.toNat - 71)
  else if isDecimalDigit character then some (character.toNat + 4)
  else if character = '+' then some 62
  else if character = '/' then some 63
  else none

/-- The first bytes of a group of four digits. -/
def base64Group? (count : Nat) (digits : List Char) : Option (List Nat) :=
  (digits.mapM base64Value?).map fun values =>
    let total := (values ++ [0, 0]).take 4 |>.foldl (fun total value => total * 64 + value) 0
    [total / 0x10000, total / 0x100 % 0x100, total % 0x100].take count

def base64Groups? : List Char → Option (List Nat)
  | [] => some []
  | [first, second, '=', '='] => base64Group? 1 [first, second]
  | [first, second, third, '='] => base64Group? 2 [first, second, third]
  | first :: second :: third :: fourth :: rest => do
    let group ← base64Group? 3 [first, second, third, fourth]
    return group ++ (← base64Groups? rest)
  | _ => none

/-- The bytes that a text gives in base 64. Ends of lines do not count. -/
def ofBase64? (text : String) : Option (List Nat) :=
  base64Groups? (text.toList.filter fun character => character != '\r' && character != '\n')

end MipsGloss.Text
