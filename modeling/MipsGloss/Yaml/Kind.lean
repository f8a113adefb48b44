import MipsGloss.Text.Bytes
import MipsGloss.Yaml.Node

namespace MipsGloss.Yaml

/-! A scalar without quotes may be more than a text: null, a truth value, a
number or a time. What it is follows from its spelling. A tag can ask for one of
these kinds, and then the spelling has to be one of that kind. -/

inductive Kind where
  | null
  | boolean
  | integer
  /-- A whole number that takes all of sixty-four bits. -/
  | largeInteger
  | float
  | time
  | text
  deriving DecidableEq, Repr

namespace Kind

def nullWords : List String := ["", "~", "null", "Null", "NULL"]

def booleanWords : List String := ["true", "True", "TRUE", "false", "False", "FALSE"]

def floatWords : List String :=
  [".nan", ".NaN", ".NAN", ".inf", ".Inf", ".INF", "+.inf", "+.Inf", "+.INF",
   "-.inf", "-.Inf", "-.INF"]

/-! Whole numbers have a sign, a base and digits. -/

def unsigned : List Char → List Char
  | '+' :: rest => rest
  | '-' :: rest => rest
  | characters => characters

/-- The value of digits in a base, if they are digits of it. -/
def digitsValue? (base : Nat) (digits : List Char) : Option Nat :=
  if digits.all fun digit => (Text.digitValue? digit).any fun value => value < base then
    some (Text.numeralValue base digits)
  else none

/-- The value of a number whose base follows from its first characters. A zero
ahead of other digits makes it octal. -/
def magnitude? : List Char → Option Nat
  | [] => none
  | '0' :: letter :: digit :: rest =>
    match [('b', 2), ('B', 2), ('o', 8), ('O', 8), ('x', 16), ('X', 16)].lookup letter with
    | some base => digitsValue? base (digit :: rest)
    | none => digitsValue? 8 (letter :: digit :: rest)
  | '0' :: rest => digitsValue? 8 rest
  | characters => digitsValue? 10 characters

def ofMagnitude? (negative hasSign : Bool) (value : Nat) : Option Kind :=
  if value < 0x8000000000000000 ∨ (negative ∧ value = 0x8000000000000000) then some .integer
  else if !hasSign ∧ value < 0x10000000000000000 then some .largeInteger
  else none

/-- A whole number in a given base, with a sign or without. -/
def signedIn? (base : Nat) (characters : List Char) : Option Kind :=
  let digits := unsigned characters
  if digits.isEmpty then none
  else
    (digitsValue? base digits).bind
      (ofMagnitude? (characters.head? == some '-') (digits != characters))

def integer? (characters : List Char) : Option Kind :=
  let digits := unsigned characters
  let negative := characters.head? == some '-'
  ((magnitude? digits).bind (ofMagnitude? negative (digits != characters))).or
    (match characters with
    | '0' :: 'b' :: rest => signedIn? 2 rest
    | '0' :: 'o' :: rest => signedIn? 8 rest
    | '-' :: '0' :: 'b' :: rest => signedIn? 2 ('-' :: rest)
    | '-' :: '0' :: 'o' :: rest => signedIn? 8 ('-' :: rest)
    | _ => none)

/-! A float has digits, a point among them or not, and perhaps an exponent. It
has to lie in the range of sixty-four bits. -/

structure Decimal where
  digits : List Char
  exponent : Int
  deriving Repr

def takeDigits (characters : List Char) : List Char × List Char :=
  characters.span Text.isDecimalDigit

/-- Reads an exponent, which is zero where there is none. -/
def exponent? : List Char → Option Int
  | [] => some 0
  | mark :: rest =>
    let digits := unsigned rest
    if (mark = 'e' ∨ mark = 'E') ∧ !digits.isEmpty ∧ digits.all Text.isDecimalDigit then
      let value : Int := Text.numeralValue 10 digits
      some (if rest.head? = some '-' then -value else value)
    else none

def decimal? (characters : List Char) : Option Decimal :=
  let (whole, rest) := takeDigits characters
  let (fraction, rest) :=
    match rest with
    | '.' :: rest => takeDigits rest
    | _ => ([], rest)
  if whole.isEmpty ∧ fraction.isEmpty then none
  else (exponent? rest).map fun exponent =>
    ⟨whole ++ fraction, exponent - fraction.length⟩

/-- The least number that is rounded to more than the largest float. -/
def floatLimit : Nat := Nat.pow 2 1024 - Nat.pow 2 970

def Decimal.inRange (decimal : Decimal) : Bool :=
  let digits := decimal.digits.dropWhile (· == '0')
  let value := Text.numeralValue 10 digits
  if digits.isEmpty || decimal.exponent + digits.length < 300 then true
  else if decimal.exponent + digits.length > 320 then false
  else if decimal.exponent < 0 then
    value < floatLimit * Nat.pow 10 decimal.exponent.natAbs
  else value * Nat.pow 10 decimal.exponent.natAbs < floatLimit

def isFloat (characters : List Char) : Bool :=
  (decimal? characters).any Decimal.inRange

/-- Whether every underscore stands between two digits. -/
def underscoresSeparate (afterDigit : Bool) : List Char → Bool
  | [] => true
  | '_' :: next :: rest =>
    afterDigit && Text.isDecimalDigit next && underscoresSeparate false (next :: rest)
  | character :: rest =>
    character != '_' && underscoresSeparate (Text.isDecimalDigit character) rest

def dropUnderscores (characters : List Char) : List Char :=
  characters.filter (· != '_')

/-! A time has a date, and perhaps a time of day, with a zone behind a letter T
and without one behind a space. -/

/-- Takes one or two digits. -/
def takeNumber? : List Char → Option (Nat × List Char)
  | first :: second :: rest =>
    if !Text.isDecimalDigit first then none
    else if Text.isDecimalDigit second then
      some (Text.numeralValue 10 [first, second], rest)
    else some (Text.numeralValue 10 [first], second :: rest)
  | [first] =>
    if Text.isDecimalDigit first then some (Text.numeralValue 10 [first], []) else none
  | [] => none

def expect? (character : Char) : List Char → Option (List Char)
  | [] => none
  | first :: rest => if first = character then some rest else none

def monthLength (year month : Nat) : Nat :=
  if month = 2 then
    (if year % 4 = 0 ∧ (year % 100 ≠ 0 ∨ year % 400 = 0) then 29 else 28)
  else if [4, 6, 9, 11].contains month then 30
  else 31

/-- Takes a date, whose year has four digits. -/
def takeDate? (characters : List Char) : Option (List Char) := do
  let digits := characters.take 4
  if digits.length < 4 ∨ !digits.all Text.isDecimalDigit then none
  else
    let rest ← expect? '-' (characters.drop 4)
    let (month, rest) ← takeNumber? rest
    let rest ← expect? '-' rest
    let (day, rest) ← takeNumber? rest
    let length := monthLength (Text.numeralValue 10 digits) month
    if 1 ≤ month ∧ month ≤ 12 ∧ 1 ≤ day ∧ day ≤ length then some rest else none

/-- Skips a fraction of a second, if there is one. -/
def dropFraction : List Char → List Char
  | mark :: digit :: rest =>
    if (mark = '.' ∨ mark = ',') ∧ Text.isDecimalDigit digit then
      rest.dropWhile Text.isDecimalDigit
    else mark :: digit :: rest
  | characters => characters

def takeClock? (characters : List Char) : Option (List Char) := do
  let (hour, rest) ← takeNumber? characters
  let rest ← expect? ':' rest
  let (minute, rest) ← takeNumber? rest
  let rest ← expect? ':' rest
  let (second, rest) ← takeNumber? rest
  if hour < 24 ∧ minute < 60 ∧ second < 60 then some (dropFraction rest) else none

def isZone : List Char → Bool
  | ['Z'] => true
  | [sign, hourTens, hourOnes, ':', minuteTens, minuteOnes] =>
    (sign == '+' || sign == '-') &&
      [hourTens, hourOnes, minuteTens, minuteOnes].all Text.isDecimalDigit &&
      Text.numeralValue 10 [hourTens, hourOnes] ≤ 24 &&
      Text.numeralValue 10 [minuteTens, minuteOnes] ≤ 60
  | _ => false

def isTime (characters : List Char) : Bool :=
  match takeDate? characters with
  | none => false
  | some [] => true
  | some (mark :: rest) =>
    match takeClock? rest with
    | none => false
    | some zone =>
      if mark = ' ' then zone.isEmpty else (mark == 'T' || mark == 't') && isZone zone

/-! The kind of a spelling. -/

/-- The kind of a number. -/
def ofNumber? (characters : List Char) : Option Kind :=
  let plain := dropUnderscores characters
  match integer? plain with
  | some kind => some kind
  | none => if isFloat (unsigned plain) then some .float else none

def ofText (isTimeWanted : Bool) (text : String) : Kind :=
  if nullWords.contains text then .null
  else if booleanWords.contains text then .boolean
  else if floatWords.contains text then .float
  else
    match text.toList with
    | [] => .null
    | first :: rest =>
      let characters := first :: rest
      if first = '.' then
        (if underscoresSeparate false characters && isFloat (dropUnderscores characters) then
          .float
        else .text)
      else if first = '+' ∨ first = '-' ∨ Text.isDecimalDigit first then
        (if isTimeWanted && isTime characters then .time
        else (ofNumber? characters).getD .text)
      else .text

/-- Whether a kind will do where another one is asked for. -/
def suits (wanted found : Kind) : Bool :=
  match wanted, found with
  | .integer, .largeInteger => true
  | .float, .integer => true
  | _, _ => wanted == found

end Kind

/-! The text of a scalar, by its tag. -/

def tagLead : List Char := "tag:yaml.org,2002:".toList

/-- The short form of a tag of the format itself. -/
def shortTag (tag : String) : String :=
  if tagLead.isPrefixOf tag.toList then
    "!!" ++ String.ofList (tag.toList.drop tagLead.length)
  else tag

def kindOfTag? (tag : String) : Option Kind :=
  [("!!null", Kind.null), ("!!bool", .boolean), ("!!int", .integer),
   ("!!float", .float), ("!!timestamp", .time)].lookup tag

/-- What a scalar says: nothing if it is null, and otherwise its text. There is
no answer where the spelling does not fit the tag. -/
def scalarText? (tag : String) (isPlain : Bool) (text : String) :
    Option (Option String) :=
  let tag := shortTag tag
  if tag = "" ∨ tag = "!" then
    some (if isPlain && Kind.nullWords.contains text then none else some text)
  else if tag = "!!binary" then
    (Text.ofBase64? text).map fun bytes => some (Text.ofBytes bytes)
  else
    match kindOfTag? tag with
    | none => some (some text)
    | some wanted =>
      let found := Kind.ofText (wanted == .time) text
      if wanted.suits found then some (if wanted = .null then none else some text)
      else none

/-- Whether a key takes in the entries of other mappings. -/
def isMergeKey : Node → Bool
  | .scalar tag isPlain text =>
    let tag := shortTag tag
    text == "<<" && (tag == "!!merge" || (isPlain && (tag == "" || tag == "!")))
  | _ => false

end MipsGloss.Yaml
