import MipsGloss.Shell.Pattern
import MipsGloss.Shell.Utility

namespace MipsGloss.Shell.Utility

/-! Utilities that work on the lines of a text. -/

def paddedLeft (width : Nat) (text : String) : String :=
  String.ofList (List.replicate (width - text.length) ' ') ++ text

/-- The marks that stand for a character that cannot be seen. -/
def visible (character : Char) : List Char :=
  let code := character.toNat
  let low (code : Nat) : List Char :=
    if code < 32 then ['^', Char.ofNat (code + 64)]
    else if code = 127 then ['^', '?']
    else [Char.ofNat code]
  if code < 128 then low code else 'M' :: '-' :: low (code - 128)

structure Showing where
  numbered : Bool
  onlyFilled : Bool
  squeezed : Bool
  ends : Bool
  tabs : Bool
  hidden : Bool

/-- Shows the lines of a text, from a line number on. The last line of an open text
has no newline. -/
def showLines (showing : Showing) (isOpen : Bool) (number : Nat) (afterEmpty : Bool) :
    List String → List String
  | [] => []
  | line :: rest =>
    let isEmpty := line == ""
    if showing.squeezed && afterEmpty && isEmpty then showLines showing isOpen number true rest
    else
      let counts := if showing.onlyFilled then !isEmpty else showing.numbered
      let mark := if counts then paddedLeft 6 (Text.decimal number) ++ "\t" else ""
      let shown := line.toList.flatMap fun character =>
        if character = '\t' then (if showing.tabs then ['^', 'I'] else [character])
        else if showing.hidden then visible character
        else [character]
      let ending := if showing.ends && !(isOpen && rest.isEmpty) then "$" else ""
      (mark ++ String.ofList shown ++ ending) ::
        showLines showing isOpen (if counts then number + 1 else number) isEmpty rest

def cat : Utility := fun call =>
  call.withArguments ⟨['n', 'b', 's', 'E', 'T', 'A', 'e', 't', 'v', 'u'], [], []⟩ 1
    fun arguments =>
      let all := arguments.has 'A'
      let showing : Showing :=
        { numbered := arguments.has 'n'
          onlyFilled := arguments.has 'b'
          squeezed := arguments.has 's'
          ends := all || arguments.has 'E' || arguments.has 'e'
          tabs := all || arguments.has 'T' || arguments.has 't'
          hidden := all || arguments.has 'e' || arguments.has 't' || arguments.has 'v' }
      let isPlain := !(showing.numbered || showing.onlyFilled || showing.squeezed ||
        showing.ends || showing.tabs || showing.hidden)
      if isPlain then
        call.each arguments.operands 1 fun path =>
          (call.content path).mapError (Call.plainly path)
      else
        call.whole arguments.operands 1 Call.plainly fun text =>
          let isOpen := text.toList.getLast? != some '\n'
          let shown := "\n".intercalate (showLines showing isOpen 1 false (linesOf text))
          if isOpen then shown else shown ++ "\n"

/-! The beginning and the end of a text. -/

/-- A count of lines or bytes, with the sign in front of it. -/
def count? (text : String) : Option (Option Char × Nat) :=
  let (sign, digits) :=
    match text.toList with
    | '+' :: rest => (some '+', rest)
    | '-' :: rest => (some '-', rest)
    | rest => (none, rest)
  if !digits.isEmpty && digits.all Text.isDecimalDigit then
    some (sign, Text.numeralValue 10 digits)
  else none

/-- The old way to give a count of lines, right behind the dash. -/
def modernCount (arguments : List String) : List String :=
  match arguments with
  | first :: rest =>
    match first.toList with
    | '-' :: digits =>
      if !digits.isEmpty && digits.all Text.isDecimalDigit then
        ("-n" ++ String.ofList digits) :: rest
      else arguments
    | _ => arguments
  | [] => []

def headOf (inBytes : Bool) (sign : Option Char) (count : Nat) (text : String) : String :=
  let characters := text.toList
  let total := if inBytes then characters.length else lineCount characters
  let kept := if sign = some '-' then total - count else count
  String.ofList (if inBytes then characters.take kept else takeLines kept characters)

def tailOf (inBytes : Bool) (sign : Option Char) (count : Nat) (text : String) : String :=
  let characters := text.toList
  let total := if inBytes then characters.length else lineCount characters
  let passed := if sign = some '+' then count - 1 else total - count
  String.ofList (if inBytes then characters.drop passed
    else characters.drop (takeLines passed characters).length)

/-- Shows a part of each file, under its name if there are several. -/
def excerpts (call : Call) (operands : List String) (part : String → String) : Answer :=
  let paths := Call.paths operands
  let step (done : List (Nat × String) × Bool) (path : String) : List (Nat × String) × Bool :=
    match call.content path with
    | .error .isDirectory =>
      (done.1 ++ [(2, call.complaint ("error reading " ++ quote path ++ ": Is a directory"))],
        done.2)
    | .error obstacle =>
      (done.1 ++ [(2, call.complaint ("cannot open " ++ quote path ++ " for reading: " ++
        description obstacle))], done.2)
    | .ok text =>
      let name := if path = "-" then "standard input" else path
      let heading :=
        if paths.length > 1 then
          (if done.2 then "\n" else "") ++ "==> " ++ name ++ " <==\n"
        else ""
      (done.1 ++ [(1, heading ++ part text)], true)
  let writes := (paths.foldl step ([], false)).1
  { writes
    status := if writes.all (·.1 == 1) then 0 else 1
    disk := call.disk
    readsInput := paths.contains "-" }

def excerpt (part : Bool → Option Char → Nat → String → String) : Utility := fun call =>
  let call := { call with arguments := modernCount call.arguments }
  call.withArguments ⟨['q', 'v', 'f'], ['n', 'c'], [("lines", 'n'), ("bytes", 'c')]⟩ 1
    fun arguments =>
      let inBytes := arguments.has 'c'
      let given := (arguments.value? (if inBytes then 'c' else 'n')).getD "10"
      match count? given with
      | some (sign, count) =>
        excerpts call arguments.operands (part inBytes sign count)
      | none =>
        call.refuse 1 ("invalid number of " ++ (if inBytes then "bytes" else "lines") ++ ": " ++
          quote given)

def head : Utility := excerpt headOf

def tail : Utility := excerpt tailOf

/-! Counting. -/

def wordCount (characters : List Char) : Nat :=
  (characters.foldl (fun (count, inWord) character =>
    let isSpace := [' ', '\t', '\n', '\x0b', '\x0c', '\r'].contains character
    (if isSpace || inWord then count else count + 1, !isSpace)) (0, false)).1

def longestLine (characters : List Char) : Nat :=
  (Text.lines characters).foldl (fun longest line => max longest line.length) 0

def wc : Utility := fun call =>
  call.withArguments ⟨['l', 'w', 'c', 'm', 'L'], [],
      [("lines", 'l'), ("words", 'w'), ("bytes", 'c'), ("chars", 'm')]⟩ 1 fun arguments =>
    let plain := arguments.options.isEmpty
    let counts (characters : List Char) : List Nat :=
      (if plain || arguments.has 'l' then [characters.count '\n'] else []) ++
      (if plain || arguments.has 'w' then [wordCount characters] else []) ++
      (if arguments.has 'm' then [characters.length] else []) ++
      (if plain || arguments.has 'c' then [characters.length] else []) ++
      (if arguments.has 'L' then [longestLine characters] else [])
    let paths := Call.paths arguments.operands
    let results := paths.map fun path => (path, call.content path)
    let size : Nat := results.foldl (fun total (_, result) =>
      match result with
      | .ok text => total + text.length
      | .error _ => total) 0
    let isRegular := results.all fun (path, result) =>
      match result with
      | .ok _ => path != "-" || call.inputIsFile
      | .error obstacle => obstacle != .isDirectory
    let width :=
      if (counts []).length = 1 ∧ paths.length = 1 then 1
      else max (Text.decimal size).length (if isRegular then 1 else 7)
    let line (numbers : List Nat) (name : String) : String :=
      " ".intercalate (numbers.map fun number => paddedLeft width (Text.decimal number)) ++
        name ++ "\n"
    let label (path : String) : String :=
      if arguments.operands.isEmpty then "" else " " ++ path
    let writes := results.flatMap fun (path, result) =>
      match result with
      | .ok text => [(1, line (counts text.toList) (label path))]
      | .error .isDirectory =>
        [(2, call.complaint (path ++ ": Is a directory")),
         (1, line ((counts []).map fun _ => 0) (label path))]
      | .error obstacle => [(2, call.complaint (Call.plainly path obstacle))]
    let totals := results.foldl (fun totals (_, result) =>
      match result with
      | .ok text => List.zipWith (· + ·) totals (counts text.toList)
      | .error _ => totals) ((counts []).map fun _ => 0)
    { writes := writes ++ (if paths.length > 1 then [(1, line totals " total")] else [])
      status := if writes.all (·.1 == 1) then 0 else 1
      disk := call.disk
      readsInput := paths.contains "-" }

/-! Translating characters. -/

def escapedCharacters : List (Char × Char) :=
  [('n', '\n'), ('t', '\t'), ('r', '\r'), ('a', '\x07'), ('b', '\x08'), ('f', '\x0c'),
   ('v', '\x0b'), ('\\', '\\')]

def isOctal (character : Char) : Bool := '0' ≤ character && character ≤ '7'

/-- The first character of a set, which may be escaped. -/
def takeCharacter? : List Char → Option (Char × List Char)
  | [] => none
  | '\\' :: rest =>
    match rest with
    | [] => some ('\\', [])
    | letter :: behind =>
      if isOctal letter then
        let digits := (rest.take 3).takeWhile isOctal
        some (Char.ofNat (Text.numeralValue 8 digits % 256), rest.drop digits.length)
      else some ((escapedCharacters.lookup letter).getD letter, behind)
  | character :: rest => some (character, rest)

def charactersBetween (first last : Char) : List Char :=
  (List.range (last.toNat + 1 - first.toNat)).map fun step => Char.ofNat (first.toNat + step)

/-- The characters of a set. The fuel bounds its length. -/
def characterSet : Nat → List Char → List Char
  | 0, _ => []
  | _, [] => []
  | fuel + 1, characters =>
    let named :=
      match characters with
      | '[' :: ':' :: rest => Pattern.takeClass? rest
      | _ => none
    match named with
    | some (ranges, size) =>
      ((ranges.flatMap fun (first, last) => charactersBetween first last).mergeSort (· ≤ ·)) ++
        characterSet fuel (characters.drop (size + 2))
    | none =>
      match takeCharacter? characters with
      | none => []
      | some (first, '-' :: rest) =>
        match takeCharacter? rest with
        | some (last, rest) => charactersBetween first last ++ characterSet fuel rest
        | none => [first, '-']
      | some (first, rest) => first :: characterSet fuel rest

def squeeze (squeezed : List Char) (last : Option Char) : List Char → List Char
  | [] => []
  | character :: rest =>
    if last = some character ∧ squeezed.contains character then squeeze squeezed last rest
    else character :: squeeze squeezed (some character) rest

def substitute (source target : List Char) (character : Char) : Char :=
  let position := source.length - 1 - (source.reverse.idxOf character)
  if source.contains character then
    (target[position]?).getD (target.getLast?.getD character)
  else character

def tr : Utility := fun call =>
  call.withArguments ⟨['c', 'C', 'd', 's', 't'], [],
      [("delete", 'd'), ("complement", 'c'), ("squeeze-repeats", 's')]⟩ 1 fun arguments =>
    let deletes := arguments.has 'd'
    let squeezes := arguments.has 's'
    let complemented := arguments.has 'c' || arguments.has 'C'
    let setOf (text : String) : List Char := characterSet (text.length + 1) text.toList
    let sourceOf (text : String) : List Char :=
      if complemented then (charactersBetween '\x00' '\xff').filter fun character =>
        !(setOf text).contains character
      else setOf text
    let finish (text : List Char) : Answer :=
      { call.answer (String.ofList text) 0 with readsInput := true }
    let characters := call.input.toList
    match arguments.operands with
    | [] => call.misuse 1 "missing operand"
    | [source] =>
      let source' := sourceOf source
      if deletes && !squeezes then finish (characters.filter (!source'.contains ·))
      else if squeezes && !deletes then finish (squeeze source' none characters)
      else if deletes then
        ⟨[(2, call.complaint ("missing operand after " ++ quote source) ++
          "Two strings must be given when both deleting and squeezing repeats.\n" ++
          call.hint)], 1, call.disk, false⟩
      else
        ⟨[(2, call.complaint ("missing operand after " ++ quote source) ++
          "Two strings must be given when translating.\n" ++ call.hint)], 1, call.disk, false⟩
    | [source, target] =>
      let source := sourceOf source
      let target' := setOf target
      if deletes && squeezes then
        finish (squeeze target' none (characters.filter (!source.contains ·)))
      else if deletes then call.misuse 1 ("extra operand " ++ quote target)
      else if target'.isEmpty then
        call.refuse 1 "when not truncating set1, string2 must be non-empty"
      else
        let replaced := characters.map (substitute source target')
        finish (if squeezes then squeeze target' none replaced else replaced)
    | _ :: second :: third :: _ =>
      call.misuse 1 ("extra operand " ++ quote (if deletes && !squeezes then second else third))

/-! Cutting out columns. -/

/-- A list of ranges of numbers; a range may be open at its end. -/
def numberRanges? (text : String) : Option (List (Nat × Option Nat)) :=
  (text.splitOn ",").mapM fun range =>
    match range.splitOn "-" with
    | [single] => single.toNat?.map fun number => (number, some number)
    | [first, last] =>
      match first.toNat?, last.toNat? with
      | some first, some last => some (first, some last)
      | some first, none => if last = "" then some (first, none) else none
      | none, some last => if first = "" then some (1, some last) else none
      | none, none => none
    | _ => none

def inNumberRanges (ranges : List (Nat × Option Nat)) (number : Nat) : Bool :=
  ranges.any fun (first, last) =>
    decide (first ≤ number) && (last.map fun last => decide (number ≤ last)).getD true

/-- What is at the chosen positions of a list, counted from one. -/
def chosen {α : Type} (isChosen : Nat → Bool) (items : List α) : List α :=
  (items.zipIdx.filter fun (_, index) => isChosen (index + 1)).map (·.1)

def cut : Utility := fun call =>
  call.withArguments ⟨['s', 'n', 'C'], ['d', 'f', 'c', 'b', 'O'],
      [("delimiter", 'd'), ("fields", 'f'), ("characters", 'c'), ("bytes", 'b'),
       ("complement", 'C'), ("output-delimiter", 'O'), ("only-delimited", 's')]⟩ 1
    fun arguments =>
      let positions := (arguments.value? 'c').or (arguments.value? 'b')
      let isChosen (ranges : List (Nat × Option Nat)) (number : Nat) : Bool :=
        inNumberRanges ranges number != arguments.has 'C'
      let delimiter := (arguments.value? 'd').getD "\t"
      if delimiter.length > 1 then
        call.misuse 1 "the delimiter must be a single character"
      else match positions, arguments.value? 'f' with
      | none, none =>
        call.misuse 1 "you must specify a list of bytes, characters, or fields"
      | some _, some _ => call.misuse 1 "only one type of list may be specified"
      | some list, none =>
        match numberRanges? list with
        | none => call.misuse 1 "invalid byte/character position"
        | some ranges =>
          call.whole arguments.operands 1 Call.plainly fun text =>
            unlines ((linesOf text).map fun line =>
              String.ofList (chosen (isChosen ranges) line.toList))
      | none, some list =>
        match numberRanges? list with
        | none => call.misuse 1 "invalid field value"
        | some ranges =>
          let joint := (arguments.value? 'O').getD delimiter
          call.whole arguments.operands 1 Call.plainly fun text =>
            unlines ((linesOf text).filterMap fun line =>
              match line.splitOn delimiter with
              | [_] => if arguments.has 's' then none else some line
              | fields => some (joint.intercalate (chosen (isChosen ranges) fields)))

/-! Sorting and comparing lines. -/

/-- A number at the start of a text, as a numerator over a power of ten. -/
def leadingNumber (text : String) : Int × Nat :=
  let characters := text.toList.dropWhile fun character => character == ' ' || character == '\t'
  let (negative, characters) :=
    match characters with
    | '-' :: rest => (true, rest)
    | rest => (false, rest)
  let (whole, rest) := characters.span Text.isDecimalDigit
  let fraction :=
    match rest with
    | '.' :: rest => rest.takeWhile Text.isDecimalDigit
    | _ => []
  let value : Int := Text.numeralValue 10 (whole ++ fraction)
  (if negative then -value else value, fraction.length)

def numberBefore (left right : String) : Bool :=
  let (first, places) := leadingNumber left
  let (second, places') := leadingNumber right
  first * Nat.pow 10 places' < second * Nat.pow 10 places

structure SortKey where
  start : Nat
  startCharacter : Nat
  finish : Option Nat
  flags : List Char

/-- A key of the form `first[.character][flags][,last]`. -/
def sortKey? (text : String) : Option SortKey :=
  let (position, last) :=
    match text.splitOn "," with
    | [position] => (position.toList, none)
    | [position, last] => (position.toList, some last.toList)
    | _ => ([], none)
  let (digits, rest) := position.span Text.isDecimalDigit
  let (character, rest) :=
    match rest with
    | '.' :: rest => rest.span Text.isDecimalDigit
    | rest => ([], rest)
  let lastDigits := (last.map (·.takeWhile Text.isDecimalDigit))
  let lastFlags := (last.map (·.dropWhile Text.isDecimalDigit)).getD []
  if digits.isEmpty then none
  else
    some ⟨Text.numeralValue 10 digits, max 1 (Text.numeralValue 10 character),
      lastDigits.map (Text.numeralValue 10), rest ++ lastFlags⟩

/-- The fields of a line. Without a delimiter a field begins with the blanks ahead
of it. -/
def blankFields (current : List Char) (inWord : Bool) : List Char → List (List Char)
  | [] => if current.isEmpty then [] else [current.reverse]
  | character :: rest =>
    let isBlank := character == ' ' || character == '\t'
    if isBlank && inWord then current.reverse :: blankFields [character] false rest
    else blankFields (character :: current) (!isBlank) rest

def keyText (delimiter : Option String) (key : SortKey) (line : String) : String :=
  let fields :=
    match delimiter with
    | some delimiter => line.splitOn delimiter
    | none => (blankFields [] false line.toList).map String.ofList
  let chosen := (fields.take (key.finish.getD fields.length)).drop (key.start - 1)
  let text := (delimiter.getD "").intercalate chosen
  String.ofList (text.toList.drop (key.startCharacter - 1))

def lowered (text : String) : String := String.ofList (text.toList.map Char.toUpper)

def dictionaryText (text : String) : String :=
  String.ofList (text.toList.filter fun character =>
    character.isAlphanum || character == ' ' || character == '\t')

/-- Compares two texts the way that flags ask for. -/
def before (flags : List Char) (left right : String) : Bool :=
  let prepare (text : String) : String :=
    let text := if flags.contains 'b' then
      String.ofList (text.toList.dropWhile fun character => character == ' ' || character == '\t')
      else text
    let text := if flags.contains 'd' then dictionaryText text else text
    if flags.contains 'f' then lowered text else text
  if flags.contains 'n' then numberBefore left right else prepare left < prepare right

/-- Compares two lines by keys, the first that differ deciding. -/
def beforeByKeys (delimiter : Option String) (flags : List Char) :
    List SortKey → String → String → Ordering
  | [], _, _ => .eq
  | key :: rest, left, right =>
    let flags := if key.flags.isEmpty then flags else key.flags
    let first := keyText delimiter key left
    let second := keyText delimiter key right
    let turn (order : Ordering) : Ordering := if flags.contains 'r' then order.swap else order
    if before flags first second then turn .lt
    else if before flags second first then turn .gt
    else beforeByKeys delimiter flags rest left right

def dropRepeats (same : String → String → Bool) : List String → List String
  | [] => []
  | [line] => [line]
  | first :: second :: rest =>
    if same first second then dropRepeats same (first :: rest)
    else first :: dropRepeats same (second :: rest)

def sort : Utility := fun call =>
  call.withArguments ⟨['n', 'r', 'u', 'f', 'b', 'd', 's', 'i'], ['k', 't', 'o'],
      [("numeric-sort", 'n'), ("reverse", 'r'), ("unique", 'u'), ("key", 'k')]⟩ 2
    fun arguments =>
      let flags := (arguments.options.map (·.1)).filter ['n', 'r', 'f', 'b', 'd'].contains
      let keys := (arguments.values 'k').filterMap sortKey?
      let delimiter := arguments.value? 't'
      let keys := if keys.isEmpty then [⟨1, 1, none, []⟩] else keys
      let order (left right : String) : Ordering := beforeByKeys delimiter flags keys left right
      let reversed := flags.contains 'r'
      let le (left right : String) : Bool :=
        match order left right with
        | .lt => true
        | .gt => false
        | .eq =>
          if arguments.has 'u' || arguments.has 's' then true
          else if reversed then right ≤ left else left ≤ right
      let missing := (Call.paths arguments.operands).filterMap fun path =>
        match call.content path with
        | .error obstacle => some (path, obstacle)
        | .ok _ => none
      match missing with
      | (path, .isDirectory) :: _ => call.refuse 2 ("read failed: " ++ path ++ ": Is a directory")
      | (path, obstacle) :: _ => call.refuse 2 ("cannot read: " ++ Call.plainly path obstacle)
      | [] =>
        call.whole arguments.operands 2 Call.plainly fun text =>
          let sorted := (linesOf text).mergeSort le
          unlines (if arguments.has 'u' then
            dropRepeats (fun left right => order left right == .eq) sorted else sorted)

/-- Runs of equal lines, with their lengths. -/
def runs (same : String → String → Bool) : List String → List (String × Nat)
  | [] => []
  | line :: rest =>
    match runs same rest with
    | (next, count) :: others =>
      if same line next then (line, count + 1) :: others else (line, 1) :: (next, count) :: others
    | [] => [(line, 1)]

def uniq : Utility := fun call =>
  call.withArguments ⟨['c', 'd', 'u', 'i'], [], [("count", 'c'), ("repeated", 'd')]⟩ 1
    fun arguments =>
      let same (left right : String) : Bool :=
        if arguments.has 'i' then lowered left == lowered right else left == right
      match arguments.operands with
      | _ :: second :: third :: _ =>
        call.misuse 1 ("extra operand " ++ quote (if second = "" then second else third))
      | operands =>
        call.whole (operands.take 1) 1
          (fun path obstacle =>
            if obstacle = .isDirectory then "error reading " ++ quote path ++ ": Is a directory"
            else Call.plainly path obstacle) fun text =>
          let kept := (runs same (linesOf text)).filter fun (_, count) =>
            (!arguments.has 'd' || count > 1) && (!arguments.has 'u' || count == 1)
          unlines (kept.map fun (line, count) =>
            if arguments.has 'c' then paddedLeft 7 (Text.decimal count) ++ " " ++ line else line)

/-! Turning lines around and joining them. -/

def rev : Utility := fun call =>
  match OptionTable.readFrom ⟨[], [], []⟩ none call.arguments with
  | .error fault =>
    ⟨[(2, call.complaint fault.message ++ Call.hintFor "rev")], 1, call.disk, false⟩
  | .ok arguments =>
    call.whole arguments.operands 1
      (fun path obstacle => "cannot open " ++ path ++ ": " ++ description obstacle) fun text =>
        let turned := "\n".intercalate ((linesOf text).map fun line =>
          String.ofList line.toList.reverse)
        if text.toList.getLast? = some '\n' then turned ++ "\n" else turned

/-- The lines of a text with their newlines. -/
def wholeLines (text : String) : List String :=
  let lines := linesOf text
  if text.toList.getLast? = some '\n' || lines.isEmpty then lines.map (· ++ "\n")
  else lines.dropLast.map (· ++ "\n") ++ [lines.getLast?.getD ""]

def tac : Utility := fun call =>
  call.withArguments ⟨[], [], []⟩ 1 fun arguments =>
    call.each arguments.operands 1 fun path =>
      match call.content path with
      | .ok text => .ok (String.join (wholeLines text).reverse)
      | .error .isDirectory => .error (path ++ ": read error: Is a directory")
      | .error obstacle =>
        .error ("failed to open " ++ quote path ++ " for reading: " ++ description obstacle)

def nl : Utility := fun call =>
  call.withArguments ⟨[], ['b', 'w', 's', 'd'], []⟩ 1 fun arguments =>
    let all := arguments.value? 'b' == some "a"
    let width := ((arguments.value? 'w').bind String.toNat?).getD 6
    let joint := (arguments.value? 's').getD "\t"
    call.whole arguments.operands 1 Call.plainly fun text =>
      unlines ((linesOf text).foldl (fun (shown, number) line =>
        if all || line != "" then
          (shown ++ [paddedLeft width (Text.decimal number) ++ joint ++ line], number + 1)
        else (shown ++ [String.ofList (List.replicate (width + joint.length) ' ') ++ line], number))
        ([], 1)).1

/-- Joins columns line by line, as long as one of them has lines. -/
def pasteRows (delimiters : List String) : Nat → List (List String) → List String
  | 0, _ => []
  | fuel + 1, columns =>
    if columns.all (·.isEmpty) then []
    else
      let cells := columns.map fun column => column.headD ""
      let row := cells.zipIdx.map fun (cell, index) =>
        if index = 0 then cell
        else (delimiters[(index - 1) % max 1 delimiters.length]?).getD "" ++ cell
      String.join row :: pasteRows delimiters fuel (columns.map List.tail)

def paste : Utility := fun call =>
  call.withArguments ⟨['s'], ['d'], [("delimiters", 'd'), ("serial", 's')]⟩ 1 fun arguments =>
    let delimiters := (characterSet 1000 ((arguments.value? 'd').getD "\t").toList).map
      String.singleton
    let contents := (Call.paths arguments.operands).map fun path => (path, call.content path)
    let missing := contents.filterMap fun
      | (path, .error obstacle) => some (Call.plainly path obstacle)
      | (_, .ok _) => none
    match missing with
    | message :: _ => call.refuse 1 message
    | [] =>
      let columns := contents.map fun
        | (_, .ok text) => linesOf text
        | (_, .error _) => []
      let rows :=
        if arguments.has 's' then
          columns.map fun column =>
            String.join (column.zipIdx.map fun (cell, index) =>
              if index = 0 then cell
              else (delimiters[(index - 1) % max 1 delimiters.length]?).getD "" ++ cell)
        else
          let longest := columns.foldl (fun longest column => max longest column.length) 0
          pasteRows delimiters (longest + 1) columns
      { call.answer (unlines rows) 0 with
        readsInput := (Call.paths arguments.operands).contains "-" }

/-- Copies the input to files and goes on with it. -/
def tee : Utility := fun call =>
  call.withArguments ⟨['a', 'i'], [], [("append", 'a')]⟩ 1 fun arguments =>
    let text := toDiskText call.input
    let step (done : Disk × List (Nat × String)) (path : String) : Disk × List (Nat × String) :=
      let before :=
        if arguments.has 'a' then
          match done.1.read (toDiskText path) with
          | .ok content => content
          | .error _ => ""
        else ""
      match store done.1 (toDiskText path) (before ++ text) with
      | .ok disk => (disk, done.2)
      | .error obstacle => (done.1, done.2 ++ [(2, call.complaint (Call.plainly path obstacle))])
    let (disk, complaints) := arguments.operands.foldl step (call.disk, [])
    { writes := complaints ++ [(1, call.input)]
      status := if complaints.isEmpty then 0 else 1
      disk
      readsInput := true }

end MipsGloss.Shell.Utility
