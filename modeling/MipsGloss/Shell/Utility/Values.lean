import MipsGloss.Shell.Condition
import MipsGloss.Shell.Format
import MipsGloss.Shell.Regex
import MipsGloss.Shell.Utility.Lines

namespace MipsGloss.Shell.Utility

/-! Utilities that write or check values. -/

def succeed : Utility := fun call => call.answer "" 0

def failing : Utility := fun call => call.answer "" 1

/-- Writes its arguments. Escapes count only if they are asked for. -/
def echoWords (newline escapes : Bool) : List String → List Char
  | word :: rest =>
    let letters := word.toList.drop 1
    if word.toList.head? = some '-' ∧ !letters.isEmpty ∧ letters.all ['n', 'e', 'E'].contains then
      let escapes := letters.foldl (fun escapes letter =>
        if letter = 'e' then true else if letter = 'E' then false else escapes) escapes
      echoWords (newline && !letters.contains 'n') escapes rest
    else finish (word :: rest)
  | [] => finish []
where
  finish (words : List String) : List Char :=
    let ending := if newline then ['\n'] else []
    let text := " ".intercalate words
    if escapes then
      let (characters, stops) := Format.unescapeText text
      if stops then characters else characters ++ ending
    else text.toList ++ ending

def echo : Utility := fun call =>
  call.answer (String.ofList (echoWords true false call.arguments)) 0

def printf : Utility := fun call =>
  let words := if call.arguments.head? = some "--" then call.arguments.drop 1 else call.arguments
  match words with
  | [] => call.misuse 1 "missing operand"
  | format :: words =>
    let (progress, failure) := Format.fill format words
    let faults := progress.faults.map fun (word, verdict) =>
      (2, call.complaint (quote word ++ ": " ++
        (match verdict with
          | .missing => "expected a numeric value"
          | .excessive => "Numerical result out of range"
          | _ => "value not completely converted")))
    let failures :=
      match failure with
      | some (.invalidDirective text) =>
        [(2, call.complaint (text ++ ": invalid conversion specification"))]
      | some .missingConversion =>
        [(2, call.complaint "%: invalid conversion specification")]
      | none => []
    let excess :=
      match progress.words with
      | word :: _ =>
        if failure.isNone && !progress.consumed then
          [(2, call.complaint ("warning: ignoring excess arguments, starting with " ++ quote word))]
        else []
      | [] => []
    ⟨faults ++ [(1, String.ofList progress.written)] ++ failures ++ excess,
      if faults.isEmpty && failures.isEmpty then 0 else 1, call.disk, false⟩

def condition (call : Call) (words : List String) : Answer :=
  match Condition.evaluate call.disk (words.length + 1) words with
  | .ok true => call.answer "" 0
  | .ok false => call.answer "" 1
  | .error message =>
    call.refuse 2 (match words with
      | [operator, _] => quote operator ++ ": unary operator expected"
      | [_, operator, _] => quote operator ++ ": binary operator expected"
      | _ => message)

def test : Utility := fun call => condition call call.arguments

def bracket : Utility := fun call =>
  if call.arguments.getLast? = some "]" then condition call call.arguments.dropLast
  else call.refuse 2 "missing ']'"

/-! Parts of paths. -/

def trimSlashes (characters : List Char) : List Char :=
  let kept := (characters.reverse.dropWhile (· == '/')).reverse
  if kept.isEmpty && !characters.isEmpty then ['/'] else kept

def lastPart (characters : List Char) : List Char :=
  let trimmed := trimSlashes characters
  if trimmed = ['/'] then trimmed
  else (trimmed.reverse.takeWhile (· != '/')).reverse

def withoutSuffix (suffix characters : List Char) : List Char :=
  if suffix.isSuffixOf characters && suffix != characters then
    characters.take (characters.length - suffix.length)
  else characters

def basename : Utility := fun call =>
  call.withArguments ⟨['a', 'z'], ['s'], [("suffix", 's'), ("multiple", 'a')]⟩ 1 fun arguments =>
    let several := arguments.has 'a' || arguments.has 's'
    match arguments.operands with
    | [] => call.misuse 1 "missing operand"
    | path :: rest =>
      if several then
        let suffix := (arguments.value? 's').getD ""
        call.answer (unlines ((path :: rest).map fun path =>
          String.ofList (withoutSuffix suffix.toList (lastPart path.toList)))) 0
      else
        match rest with
        | [] => call.answer (String.ofList (lastPart path.toList) ++ "\n") 0
        | [suffix] =>
          call.answer (String.ofList (withoutSuffix suffix.toList (lastPart path.toList)) ++ "\n") 0
        | _ :: extra :: _ => call.misuse 1 ("extra operand " ++ quote extra)

def directoryPart (path : String) : String :=
  let trimmed := trimSlashes path.toList
  if trimmed = ['/'] then "/"
  else
    let ahead := (trimmed.reverse.dropWhile (· != '/')).reverse
    if ahead.isEmpty then "." else String.ofList (trimSlashes ahead)

def dirname : Utility := fun call =>
  call.withArguments ⟨['z'], [], []⟩ 1 fun arguments =>
    if arguments.operands.isEmpty then call.misuse 1 "missing operand"
    else call.answer (unlines (arguments.operands.map directoryPart)) 0

/-! Sequences of numbers, which may have places behind the point. -/

def decimalPlaces (text : String) : Nat := ((text.toList.dropWhile (· != '.')).drop 1).length

/-- A number times a power of ten. -/
def scaledNumber? (places : Nat) (text : String) : Option Int :=
  let (negative, characters) := Format.splitSign text.toList
  let (whole, rest) := characters.span Text.isDecimalDigit
  let (fraction, rest) :=
    match rest with
    | '.' :: rest => rest.span Text.isDecimalDigit
    | rest => ([], rest)
  if rest.isEmpty && !(whole.isEmpty && fraction.isEmpty) then
    let digits := whole ++ fraction ++ List.replicate (places - fraction.length) '0'
    let value : Int := Text.numeralValue 10 digits
    some (if negative then -value else value)
  else none

def scaledText (places : Nat) (value : Int) : String :=
  let digits := Nat.toDigits 10 value.natAbs
  let digits := List.replicate (places + 1 - digits.length) '0' ++ digits
  let sign := if value < 0 then ['-'] else []
  let whole := digits.take (digits.length - places)
  let fraction := digits.drop (digits.length - places)
  String.ofList (sign ++ whole ++ (if places = 0 then [] else '.' :: fraction))

def progression (step last : Int) : Nat → Int → List Int
  | 0, _ => []
  | fuel + 1, value =>
    if (step > 0 && value > last) || (step < 0 && value < last) then []
    else value :: progression step last fuel (value + step)

def zeroPadded (width : Nat) (text : String) : String :=
  let (negative, digits) := Format.splitSign text.toList
  let sign := if negative then ['-'] else []
  String.ofList (sign ++ List.replicate (width - text.length) '0' ++ digits)

def seq : Utility := fun call =>
  let isOption (argument : String) : Bool :=
    match argument.toList with
    | '-' :: second :: _ => !(Text.isDecimalDigit second || second == '.')
    | _ => false
  let (_, negatives) := call.arguments.span isOption
  let numbersFrom := call.arguments.findIdx fun argument =>
    match argument.toList with
    | '-' :: second :: _ => Text.isDecimalDigit second || second == '.'
    | _ => false
  let arguments :=
    if numbersFrom < call.arguments.length && !negatives.isEmpty then
      call.arguments.take numbersFrom ++ "--" :: call.arguments.drop numbersFrom
    else call.arguments
  { call with arguments }.withArguments ⟨['w'], ['s', 'f'],
      [("separator", 's'), ("equal-width", 'w')]⟩ 1 fun arguments =>
    let operands := arguments.operands.filter (· != "--")
    let (first, step, last) :=
      match operands with
      | [last] => ("1", "1", last)
      | [first, last] => (first, "1", last)
      | first :: step :: last :: _ => (first, step, last)
      | [] => ("", "", "")
    if operands.isEmpty then call.misuse 1 "missing operand"
    else if operands.length > 3 then
      call.misuse 1 ("extra operand " ++ quote (operands[3]?.getD ""))
    else
      match operands.find? fun operand => (scaledNumber? 0 operand).isNone with
      | some operand => call.misuse 1 ("invalid floating point argument: " ++ quote operand)
      | none =>
        let places := max (decimalPlaces first) (decimalPlaces step)
        let scale := max places (decimalPlaces last)
        let read (text : String) : Int := (scaledNumber? scale text).getD 0
        if read step = 0 then
          call.misuse 1 ("invalid Zero increment value: " ++ quote step)
        else
          let count := ((read last - read first) / read step + 1).toNat
          let values := progression (read step) (read last) (count + 1) (read first)
          let texts := values.map fun value =>
            scaledText places (value / (Nat.pow 10 (scale - places) : Nat))
          let widest := texts.foldl (fun widest (text : String) => max widest text.length) 0
          let texts := if arguments.has 'w' then texts.map (zeroPadded widest) else texts
          let separator := (arguments.value? 's').getD "\n"
          call.answer (if texts.isEmpty then "" else separator.intercalate texts ++ "\n") 0

/-! Expressions over words. -/

namespace Expr

abbrev Evaluator := StateT (List String) (Except String)

def integer? (word : String) : Option Int :=
  let (negative, digits) :=
    match word.toList with
    | '-' :: rest => (true, rest)
    | rest => (false, rest)
  if !digits.isEmpty && digits.all Text.isDecimalDigit then
    let value : Int := Text.numeralValue 10 digits
    some (if negative then -value else value)
  else none

def isNull (word : String) : Bool := word == "" || integer? word == some 0

/-- The length of a match at the start of a text, or its first group. -/
def matched (text source : String) : Evaluator String :=
  match Regex.read ⟨false, false⟩ source with
  | .error message => throw message
  | .ok regex =>
    let found := Regex.longest (regex.behind ⟨none, text.toList, text.length, []⟩)
    let hasGroup := (source.splitOn "\\(").length > 1
    match found with
    | some place =>
      if hasGroup then return String.ofList ((place.groups.lookup 1).getD [])
      else return Text.decimal (text.length - place.left)
    | none => return if hasGroup then "" else "0"

def missing : List String → String → String
  | _, last => "syntax error: missing argument after " ++ quote last

def next (last : String) : Evaluator String := do
  match ← get with
  | [] => throw (missing [] last)
  | word :: rest =>
    set rest
    return word

def simple (inner : Evaluator String) (last : String) : Evaluator String := do
  let word ← next last
  match word with
  | "(" =>
    let value ← inner
    match ← get with
    | ")" :: rest =>
      set rest
      return value
    | _ => throw ("syntax error: expecting ')' after " ++ quote value)
  | "length" =>
    if (← get).isEmpty then return word
    else return Text.decimal (← next word).length
  | "match" =>
    let text ← next word
    matched text (← next text)
  | "index" =>
    let text ← next word
    let characters ← next text
    let position := text.toList.findIdx characters.toList.contains
    return Text.decimal (if position < text.length then position + 1 else 0)
  | "substr" =>
    let text ← next word
    let start ← next text
    let count ← next start
    match integer? start, integer? count with
    | some start, some count =>
      if start ≤ 0 || count ≤ 0 then return ""
      else return String.ofList ((text.toList.drop (start.toNat - 1)).take count.toNat)
    | _, _ => return ""
  | "+" => next word
  | word => return word

def compare (operator left right : String) : Bool :=
  let order :=
    match integer? left, integer? right with
    | some first, some second => compareOfLessAndEq first second
    | _, _ => compareOfLessAndEq left right
  match operator with
  | "<" => order == .lt
  | "<=" => order != .gt
  | "=" => order == .eq
  | "==" => order == .eq
  | "!=" => order != .eq
  | ">=" => order != .lt
  | _ => order == .gt

def combine (operator left right : String) : Evaluator String := do
  match operator with
  | ":" => matched left right
  | "|" => return if isNull left then (if isNull right then "0" else right) else left
  | "&" => return if isNull left || isNull right then "0" else left
  | operator =>
    if ["<", "<=", "=", "==", "!=", ">=", ">"].contains operator then
      return if compare operator left right then "1" else "0"
    else
      match integer? left, integer? right with
      | some first, some second =>
        match operator with
        | "+" => return Arithmetic.decimal (first + second)
        | "-" => return Arithmetic.decimal (first - second)
        | "*" => return Arithmetic.decimal (first * second)
        | operator =>
          if second = 0 then throw "division by zero"
          else
            return Arithmetic.decimal
              (if operator = "/" then first.tdiv second else first.tmod second)
      | _, _ => throw "non-integer argument"

def levels : List (List String) :=
  [["|"], ["&"], ["<", "<=", "=", "==", "!=", ">=", ">"], ["+", "-"], ["*", "/", "%"], [":"]]

def chain (operators : List String) (operand : String → Evaluator String) :
    Nat → String → Evaluator String
  | 0, left => return left
  | fuel + 1, left => do
    match ← get with
    | operator :: rest =>
      if operators.contains operator then
        set rest
        let right ← operand operator
        chain operators operand fuel (← combine operator left right)
      else return left
    | [] => return left

def level (fuel : Nat) (inner : Evaluator String) (last : String) :
    List (List String) → Evaluator String
  | [] => simple inner last
  | operators :: rest => do
    let first ← level fuel inner last rest
    chain operators (fun operator => level fuel inner operator rest) fuel first

def expression : Nat → Evaluator String
  | 0 => throw "syntax error"
  | fuel + 1 => level (fuel + 1) (expression fuel) "(" levels

end Expr

def expr : Utility := fun call =>
  let words := if call.arguments.head? = some "--" then call.arguments.drop 1 else call.arguments
  if words.isEmpty then call.misuse 2 "missing operand"
  else
    match (Expr.expression (words.length + 2)).run words with
    | .error message => call.refuse 2 message
    | .ok (value, []) => call.answer (value ++ "\n") (if Expr.isNull value then 1 else 0)
    | .ok (_, extra :: _) =>
      call.refuse 2 ("syntax error: unexpected argument " ++ quote extra)

/-! Bytes in base 64. -/

def base64Digits : List Char :=
  "ABCDEFGHIJKLMNOPQRSTUVWXYZabcdefghijklmnopqrstuvwxyz0123456789+/".toList

def base64Digit (value : Nat) : Char := base64Digits[value % 64]?.getD 'A'

def toBase64 : List Nat → List Char
  | [] => []
  | [first] => [base64Digit (first / 4), base64Digit (first * 16), '=', '=']
  | [first, second] =>
    [base64Digit (first / 4), base64Digit (first * 16 + second / 16),
     base64Digit (second * 4), '=']
  | first :: second :: third :: rest =>
    base64Digit (first / 4) :: base64Digit (first % 4 * 16 + second / 16) ::
      base64Digit (second % 16 * 4 + third / 64) :: base64Digit third :: toBase64 rest

/-- Breaks characters into lines of a width. The fuel bounds their number. -/
def wrapped (width : Nat) : Nat → List Char → List Char
  | 0, _ => []
  | _, [] => []
  | fuel + 1, characters =>
    characters.take width ++ '\n' :: wrapped width fuel (characters.drop width)

/-- The whole bytes in the bits of some digits. -/
def ofDigits64 (digits : List Char) : List Nat :=
  let value := digits.foldl (fun value digit =>
    value * 64 + (base64Digits.findIdx? (· == digit)).getD 0) 0
  let count := digits.length * 6 / 8
  let whole := value / Nat.pow 2 (digits.length * 6 - count * 8)
  (List.range count).map fun index => whole / Nat.pow 256 (count - 1 - index) % 256

/-- The bytes behind digits, which stand in groups of four, and whether all is
well with them. The fuel bounds the number of groups. -/
def ofBase64 : Nat → List Char → List Nat × Bool
  | 0, _ => ([], true)
  | _, [] => ([], true)
  | fuel + 1, characters =>
    let group := characters.take 4
    let digits := group.takeWhile base64Digits.contains
    let isWhole := group.length == 4 && digits.length ≥ 2 &&
      (group.drop digits.length).all (· == '=')
    if isWhole then
      let (bytes, isValid) := ofBase64 fuel (characters.drop 4)
      (ofDigits64 digits ++ bytes, isValid)
    else (ofDigits64 digits, false)

def base64 : Utility := fun call =>
  call.withArguments ⟨['d', 'i'], ['w'], [("decode", 'd'), ("wrap", 'w')]⟩ 1 fun arguments =>
    let width := ((arguments.value? 'w').bind String.toNat?).getD 76
    match arguments.operands with
    | _ :: extra :: _ => call.misuse 1 ("extra operand " ++ quote extra)
    | operands =>
      let path := operands.headD "-"
      let readsInput := path == "-"
      match call.content path with
      | .error .isDirectory => call.refuse 1 "read error: Is a directory"
      | .error obstacle => call.refuse 1 (Call.plainly path obstacle)
      | .ok text =>
        if arguments.has 'd' then
          let characters := text.toList.filter (· != '\n')
          let (bytes, isValid) := ofBase64 (characters.length + 1) characters
          let written := (1, String.ofList (bytes.map Char.ofNat))
          let writes :=
            if isValid then [written] else [written, (2, call.complaint "invalid input")]
          ⟨writes, if isValid then 0 else 1, call.disk, readsInput⟩
        else
          let digits := toBase64 (text.toList.map Char.toNat)
          let shown := if width = 0 then digits else wrapped width (digits.length + 1) digits
          { call.answer (String.ofList shown) 0 with readsInput }

def sleep : Utility := fun call =>
  call.withArguments ⟨[], [], []⟩ 1 fun arguments =>
    let isTime (word : String) : Bool :=
      match word.toList with
      | [] => false
      | first :: rest => Text.isDecimalDigit first && rest.all fun character =>
          Text.isDecimalDigit character || ['.', 's', 'm', 'h', 'd'].contains character
    if arguments.operands.isEmpty then call.misuse 1 "missing operand"
    else
      match arguments.operands.find? (!isTime ·) with
      | some word => call.misuse 1 ("invalid time interval " ++ quote word)
      | none => call.answer "" 0

end MipsGloss.Shell.Utility
