import MipsGloss.Shell.Arithmetic
import MipsGloss.Text.Numeral

namespace MipsGloss.Shell

/-! Formats are filled with words. A format is used again as long as words are
left, and words that are missing count as empty or zero. -/

namespace Format

def letterEscapes : List (Char × Char) :=
  [('a', '\x07'), ('b', '\x08'), ('e', '\x1b'), ('f', '\x0c'), ('n', '\n'), ('r', '\r'),
   ('t', '\t'), ('v', '\x0b'), ('\\', '\\')]

def isOctal (character : Char) : Bool := '0' ≤ character && character ≤ '7'

def ofOctal (digits : List Char) : Char := Char.ofNat (Text.numeralValue 8 digits % 256)

/-- The character of an escape, given what is behind its backslash. An unknown
escape is a backslash alone. -/
def takeEscape (characters : List Char) : Char × List Char :=
  match characters with
  | letter :: rest =>
    if isOctal letter then
      let digits := (characters.take 3).takeWhile isOctal
      (ofOctal digits, characters.drop digits.length)
    else
      match letterEscapes.lookup letter with
      | some character => (character, rest)
      | none => ('\\', characters)
  | [] => ('\\', [])

/-- Replaces the escapes in a word. Gives whether one of them ends all output. The
fuel bounds the number of characters. -/
def unescape : Nat → List Char → List Char × Bool
  | 0, _ => ([], false)
  | _, [] => ([], false)
  | fuel + 1, '\\' :: rest =>
    match rest with
    | 'c' :: _ => ([], true)
    | '0' :: digits =>
      let octal := (digits.take 3).takeWhile isOctal
      let (others, stops) := unescape fuel (digits.drop octal.length)
      (ofOctal octal :: others, stops)
    | _ =>
      let (character, rest) := takeEscape rest
      let (others, stops) := unescape fuel rest
      (character :: others, stops)
  | fuel + 1, character :: rest =>
    let (others, stops) := unescape fuel rest
    (character :: others, stops)

def unescapeText (text : String) : List Char × Bool :=
  unescape (text.length + 1) text.toList

/-- How a value is written. -/
structure Directive where
  flags : List Char
  width : Nat
  precision : Option Nat
  conversion : Char

namespace Directive

def has (directive : Directive) (flag : Char) : Bool := directive.flags.contains flag

/-- Fills a text up to the width of a directive. Zeros go behind the sign. -/
def padded (directive : Directive) (sign body : List Char) (withZeros : Bool) : List Char :=
  let missing := directive.width - (sign.length + body.length)
  if directive.has '-' then sign ++ body ++ List.replicate missing ' '
  else if withZeros then sign ++ List.replicate missing '0' ++ body
  else List.replicate missing ' ' ++ sign ++ body

def text (directive : Directive) (characters : List Char) : List Char :=
  let kept := characters.take (directive.precision.getD characters.length)
  directive.padded [] kept false

def signOf (directive : Directive) (negative : Bool) : List Char :=
  if negative then ['-']
  else if directive.has '+' then ['+']
  else if directive.has ' ' then [' ']
  else []

/-- Digits with at least as many of them as the precision says. -/
def digits (directive : Directive) (base value : Nat) : List Char :=
  let digits := if directive.precision = some 0 ∧ value = 0 then [] else Nat.toDigits base value
  List.replicate ((directive.precision.getD 1) - digits.length) '0' ++ digits

def withZeros (directive : Directive) : Bool := directive.has '0' && directive.precision.isNone

def signed (directive : Directive) (value : Int) : List Char :=
  directive.padded (directive.signOf (value < 0)) (directive.digits 10 value.natAbs)
    directive.withZeros

def unsigned (directive : Directive) (value : Int) : List Char :=
  let value := (value % (Nat.pow 2 64 : Nat)).toNat
  let marked := directive.has '#' && value != 0
  match directive.conversion with
  | 'o' =>
    let body := directive.digits 8 value
    directive.padded [] (if directive.has '#' && body.head? != some '0' then '0' :: body else body)
      directive.withZeros
  | 'x' =>
    directive.padded (if marked then ['0', 'x'] else []) (directive.digits 16 value)
      directive.withZeros
  | 'X' =>
    directive.padded (if marked then ['0', 'X'] else [])
      ((directive.digits 16 value).map Char.toUpper) directive.withZeros
  | _ => directive.padded [] (directive.digits 10 value) directive.withZeros

/-! Fractions are written from their exact value, and a half goes to the even
neighbour. -/

/-- A quotient to the nearest integer. -/
def rounded (numerator denominator : Nat) : Nat :=
  let quotient := numerator / denominator
  let rest := 2 * (numerator % denominator)
  if rest > denominator || (rest == denominator && quotient % 2 == 1) then quotient + 1
  else quotient

/-- A quotient with so many places behind the point. -/
def positional (numerator denominator places : Nat) : List Char :=
  let digits := Nat.toDigits 10 (rounded (numerator * Nat.pow 10 places) denominator)
  let digits := List.replicate (places + 1 - digits.length) '0' ++ digits
  let whole := digits.take (digits.length - places)
  if places = 0 then whole else whole ++ '.' :: digits.drop (digits.length - places)

/-- The power of ten that a quotient begins with. The fuel bounds its size. -/
def exponentOf (numerator denominator : Nat) : Nat → Int
  | 0 => 0
  | fuel + 1 =>
    if numerator = 0 then 0
    else if numerator < denominator then exponentOf (numerator * 10) denominator fuel - 1
    else if 10 * denominator ≤ numerator then exponentOf numerator (denominator * 10) fuel + 1
    else 0

/-- The digits of a quotient in front of a power of ten, and the power. -/
def scaled (numerator denominator places : Nat) : Nat × Int :=
  let exponent := exponentOf numerator denominator 700
  let shift := (places : Int) - exponent
  let value :=
    if shift ≥ 0 then rounded (numerator * Nat.pow 10 shift.toNat) denominator
    else rounded numerator (denominator * Nat.pow 10 (-shift).toNat)
  if value ≥ Nat.pow 10 (places + 1) then (value / 10, exponent + 1) else (value, exponent)

def exponentText (exponent : Int) : List Char :=
  let digits := Nat.toDigits 10 exponent.natAbs
  (if exponent < 0 then '-' else '+') :: (List.replicate (2 - digits.length) '0' ++ digits)

def scientific (numerator denominator places : Nat) : List Char :=
  let (value, exponent) := scaled numerator denominator places
  let digits := Nat.toDigits 10 value
  let digits := List.replicate (places + 1 - digits.length) '0' ++ digits
  let mantissa := if places = 0 then digits else digits.take 1 ++ '.' :: digits.drop 1
  mantissa ++ 'e' :: exponentText exponent

def dropZeros (characters : List Char) : List Char :=
  if characters.contains '.' then
    let kept := (characters.reverse.dropWhile (· == '0')).reverse
    if kept.getLast? = some '.' then kept.dropLast else kept
  else characters

/-- The shorter of the two ways to write a quotient. -/
def general (keepsZeros : Bool) (numerator denominator digits : Nat) : List Char :=
  let digits := max 1 digits
  let (_, exponent) := scaled numerator denominator (digits - 1)
  let trim (characters : List Char) : List Char :=
    if keepsZeros then characters else dropZeros characters
  if -4 ≤ exponent ∧ exponent < digits then
    trim (positional numerator denominator ((digits : Int) - 1 - exponent).toNat)
  else
    let written := scientific numerator denominator (digits - 1)
    trim (written.takeWhile (· != 'e')) ++ written.dropWhile (· != 'e')

/-- The exact value of a number with sixty-four bits, as a quotient. -/
def exact (value : Float) : Bool × Nat × Nat :=
  let bits := value.toBits.toNat
  let fraction := bits % Nat.pow 2 52
  let exponent := bits / Nat.pow 2 52 % 2048
  let mantissa := if exponent = 0 then fraction else fraction + Nat.pow 2 52
  let power : Int := (if exponent = 0 then 1 else (exponent : Int)) - 1075
  let negative := bits / Nat.pow 2 63 == 1
  if power ≥ 0 then (negative, mantissa * Nat.pow 2 power.toNat, 1)
  else (negative, mantissa, Nat.pow 2 (-power).toNat)

def float (directive : Directive) (value : Float) : List Char :=
  let (negative, numerator, denominator) := exact value
  let precision := directive.precision.getD 6
  let body :=
    match directive.conversion.toLower with
    | 'f' => positional numerator denominator precision
    | 'e' => scientific numerator denominator precision
    | _ => general (directive.has '#') numerator denominator precision
  let body := if directive.conversion.isUpper then body.map Char.toUpper else body
  directive.padded (directive.signOf negative) body (directive.has '0')

end Directive

/-! A numeral in a word may be a character behind a quote. -/

/-- How far a word is a numeral, and whether its value can be held. -/
inductive Verdict where
  | complete
  | broken
  | missing
  | excessive
  deriving DecidableEq

def verdictOf (taken rest : List Char) : Verdict :=
  if rest.isEmpty then .complete else if taken.isEmpty then .missing else .broken

def splitSign (characters : List Char) : Bool × List Char :=
  match characters with
  | '-' :: rest => (true, rest)
  | '+' :: rest => (false, rest)
  | rest => (false, rest)

def integer (word : String) : Int × Verdict :=
  match word.toList with
  | '\x27' :: rest => (((rest.headD '\x00').toNat : Int), .complete)
  | '\x22' :: rest => (((rest.headD '\x00').toNat : Int), .complete)
  | characters =>
    let (negative, digits) := splitSign (characters.dropWhile Arithmetic.isSpace)
    if (digits.head?.map Text.isDecimalDigit).getD false then
      let (value, rest) := Arithmetic.takeNumeral digits
      let value : Int := if negative then -(value : Int) else value
      (value, verdictOf digits rest)
    else (0, if characters.isEmpty then .complete else .missing)

def decimalNumber (word : String) : Float × Verdict :=
  let characters := word.toList
  let (negative, rest) := splitSign (characters.dropWhile Arithmetic.isSpace)
  let (whole, rest) := rest.span Text.isDecimalDigit
  let (fraction, rest) :=
    match rest with
    | '.' :: rest => rest.span Text.isDecimalDigit
    | rest => ([], rest)
  if whole.isEmpty && fraction.isEmpty then
    (0.0, if characters.isEmpty then .complete else .missing)
  else
    let (exponent, rest) :=
      match rest with
      | mark :: behind =>
        let (negative, digits) := splitSign behind
        if (mark = 'e' ∨ mark = 'E') ∧ (digits.head?.map Text.isDecimalDigit).getD false then
          let (digits, rest) := digits.span Text.isDecimalDigit
          let value : Int := Text.numeralValue 10 digits
          ((if negative then -value else value), rest)
        else (0, rest)
      | [] => (0, [])
    let power := exponent - fraction.length
    let mantissa := Text.numeralValue 10 (whole ++ fraction)
    let value := Float.ofScientific mantissa (power < 0) power.natAbs
    (if negative then -value else value, if rest.isEmpty then .complete else .broken)

/-- A format on the way: what is written, what was wrong, the words left, and
whether all output has ended. -/
structure Progress where
  written : List Char
  faults : List (String × Verdict)
  words : List String
  consumed : Bool
  stopped : Bool

namespace Progress

def next (progress : Progress) : Option String × Progress :=
  match progress.words with
  | [] => (none, progress)
  | word :: rest => (some word, { progress with words := rest, consumed := true })

def write (progress : Progress) (characters : List Char) : Progress :=
  { progress with written := progress.written ++ characters }

def blame (progress : Progress) (word : String) (fault : Verdict) : Progress :=
  if fault = .complete then progress
  else { progress with faults := progress.faults ++ [(word, fault)] }

/-- A number within bounds. -/
def number (progress : Progress) (least greatest : Int) : Int × Progress :=
  match progress.next with
  | (none, progress) => (0, progress)
  | (some word, progress) =>
    let (value, fault) := integer word
    if value < least then (least, progress.blame word .excessive)
    else if greatest < value then (greatest, progress.blame word .excessive)
    else (value, progress.blame word fault)

end Progress

def isFlag (character : Char) : Bool := ['#', '-', '+', ' ', '0'].contains character

/-- A count in a directive, which may be given as a word. -/
def takeCount (progress : Progress) (characters : List Char) :
    Option Nat × List Char × Progress :=
  match characters with
  | '*' :: rest =>
    let (value, progress) := progress.number 0 Arithmetic.largest
    (some value.toNat, rest, progress)
  | _ =>
    let (digits, rest) := characters.span Text.isDecimalDigit
    (if digits.isEmpty then none else some (Text.numeralValue 10 digits), rest, progress)

/-- Carries out one directive. Gives nothing if it is unknown. -/
def perform? (directive : Directive) (progress : Progress) : Option Progress :=
  match directive.conversion with
  | 's' =>
    let (word, progress) := progress.next
    some (progress.write (directive.text (word.getD "").toList))
  | 'b' =>
    let (word, progress) := progress.next
    let (characters, stops) := unescapeText (word.getD "")
    some { progress.write (directive.text characters) with stopped := stops }
  | 'c' =>
    let (word, progress) := progress.next
    let character := (word.getD "").toList.headD '\x00'
    some (progress.write (directive.padded [] [character] false))
  | conversion =>
    if ['d', 'i'].contains conversion then
      let (value, progress) := progress.number (-Arithmetic.largest - 1) Arithmetic.largest
      some (progress.write (directive.signed value))
    else if ['o', 'u', 'x', 'X'].contains conversion then
      let greatest : Int := 2 * Arithmetic.largest + 1
      let (value, progress) := progress.number (-greatest) greatest
      some (progress.write (directive.unsigned value))
    else if ['e', 'E', 'f', 'F', 'g', 'G'].contains conversion then
      match progress.next with
      | (none, progress) => some (progress.write (directive.float 0.0))
      | (some word, progress) =>
        let (value, fault) := decimalNumber word
        some ((progress.blame word fault).write (directive.float value))
    else none

/-- The complaint that ends a format. -/
inductive Failure where
  | missingConversion
  | invalidDirective (text : String)

/-- Goes through a format once. The fuel bounds its length. -/
def fillOnce : Nat → List Char → Progress → Progress × Option Failure
  | 0, _, progress => (progress, none)
  | _, [], progress => (progress, none)
  | fuel + 1, '\\' :: rest, progress =>
    let (character, rest) := takeEscape rest
    fillOnce fuel rest (progress.write [character])
  | fuel + 1, '%' :: '%' :: rest, progress => fillOnce fuel rest (progress.write ['%'])
  | fuel + 1, '%' :: rest, progress =>
    let (flags, behind) := rest.span isFlag
    let (width, behind, progress) := takeCount progress behind
    let (precision, behind, progress) :=
      match behind with
      | '.' :: behind =>
        let (precision, behind, progress) := takeCount progress behind
        (some (precision.getD 0), behind, progress)
      | behind => (none, behind, progress)
    match behind with
    | [] => (progress, some .missingConversion)
    | conversion :: behind =>
      match perform? ⟨flags, width.getD 0, precision, conversion⟩ progress with
      | some progress =>
        if progress.stopped then (progress, none) else fillOnce fuel behind progress
      | none =>
        let text := '%' :: rest.take (rest.length - behind.length)
        (progress, some (.invalidDirective (String.ofList text)))
  | fuel + 1, character :: rest, progress => fillOnce fuel rest (progress.write [character])

/-- Goes through a format until no words are left. -/
def fillRepeatedly (format : List Char) : Nat → Progress → Progress × Option Failure
  | 0, progress => (progress, none)
  | fuel + 1, progress =>
    match fillOnce (format.length + 1) format progress with
    | (progress, some failure) => (progress, some failure)
    | (progress, none) =>
      if progress.stopped || progress.words.isEmpty || !progress.consumed then (progress, none)
      else fillRepeatedly format fuel progress

def fill (format : String) (words : List String) : Progress × Option Failure :=
  fillRepeatedly format.toList (words.length + 1) ⟨[], [], words, false, false⟩

end Format

end MipsGloss.Shell
