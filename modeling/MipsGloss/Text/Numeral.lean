namespace MipsGloss.Text

/-! Positional numerals. A digit is read in either letter case and written in
lower case. -/

def digitValue? (character : Char) : Option Nat :=
  if '0' ≤ character ∧ character ≤ '9' then some (character.toNat - 48)
  else if 'a' ≤ character ∧ character ≤ 'f' then some (character.toNat - 87)
  else if 'A' ≤ character ∧ character ≤ 'F' then some (character.toNat - 55)
  else none

def isHexDigit (character : Char) : Bool := (digitValue? character).isSome

def isBinaryDigit (character : Char) : Bool :=
  character == '0' || character == '1'

def isDecimalDigit (character : Char) : Bool :=
  '0' ≤ character && character ≤ '9'

/-- The value of a numeral, most significant digit first. A character that is
no digit counts as zero. -/
def numeralValue (base : Nat) (digits : List Char) : Nat :=
  digits.foldl (fun total digit => total * base + (digitValue? digit).getD 0) 0

def hexDigits (value : Nat) : List Char := Nat.toDigits 16 value

/-- Hexadecimal digits, filled up with leading zeros to the given width. -/
def paddedHexDigits (width value : Nat) : List Char :=
  let digits := hexDigits value
  List.replicate (width - digits.length) '0' ++ digits

def decimal (value : Nat) : String := String.ofList (Nat.toDigits 10 value)

end MipsGloss.Text
