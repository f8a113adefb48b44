import MipsGloss.Shell.Regex
import MipsGloss.Shell.Utility.Lines

namespace MipsGloss.Shell.Utility

/-! Editing a text line by line with a script of short commands. -/

namespace Sed

inductive Address where
  | line (number : Nat)
  | last
  | steps (first step : Nat)
  | regex (regex : Regex)
  | further (count : Nat)
  | multiple (number : Nat)

/-- A piece of what stands in the place of a match: a text, a group, or a change
of letter case from here on. -/
inductive Piece where
  | text (characters : List Char)
  | group (number : Nat)
  | casing (mode : Char)

structure Substitution where
  regex : Regex
  pieces : List Piece
  everywhere : Bool
  firstCount : Nat
  prints : Bool
  /-- The file that the line is written to, too. -/
  copy : Option String

inductive Action where
  | opening
  | closing
  | label (name : String)
  | jump (letter : Char) (name : String)
  | simple (letter : Char)
  | quit (letter : Char) (status : Nat)
  | write (letter : Char) (text : String)
  | show (width : Nat)
  | readFile (path : String)
  | writeFile (path : String)
  | substitute (substitution : Substitution)
  | transliterate (source target : List Char)

structure Instruction where
  first : Option Address
  second : Option Address
  negated : Bool
  action : Action

/-! Reading. -/

structure Source where
  rest : List Char
  style : Regex.Style
  total : Nat
  /-- The sizes of the expressions that the script is put together of. -/
  sizes : List Nat
  /-- The last regular expression, which an empty one stands for. -/
  last : Option Regex

/-- A mistake in a script, with the status it leads to. -/
structure Fault where
  status : Nat
  message : String

abbrev Parse := StateT Source (Except Fault)

/-- The number of the expression that a position lies in, and the position there. -/
def locate (number position : Nat) : List Nat → Nat × Nat
  | [] => (number, position)
  | [_] => (number, position)
  | size :: rest =>
    if position ≤ size then (number, position)
    else locate (number + 1) (position - size - 1) rest

def failAt {α : Type} (number position : Nat) (message : String) : Parse α :=
  throw ⟨1, "-e expression #" ++ Text.decimal number ++ ", char " ++ Text.decimal position ++
    ": " ++ message⟩

/-- Complains about the script up to here. -/
def fail {α : Type} (message : String) : Parse α := do
  let source ← get
  let (number, position) := locate 1 (source.total - source.rest.length) source.sizes
  failAt number position message

def setRest (rest : List Char) : Parse Unit := modify fun source => { source with rest }

def skip (test : Char → Bool) : Parse Unit := do
  setRest ((← get).rest.dropWhile test)

def isGap (character : Char) : Bool := character == ' ' || character == '\t'

/-- What stands ahead of a delimiter, and what behind it. A delimiter behind a
backslash belongs to the text, which then lacks the backslash, and one in brackets
does in an expression. -/
def splitDelimited (delimiter : Char) (inBrackets : Option Bool) :
    List Char → Option (List Char × List Char)
  | [] => none
  | '\\' :: character :: rest =>
    (splitDelimited delimiter inBrackets rest).map fun (taken, left) =>
      if character = delimiter ∧ !(inBrackets.isNone && character == '&') then
        (character :: taken, left)
      else ('\\' :: character :: taken, left)
  | character :: rest =>
    if character = delimiter ∧ inBrackets ≠ some true then some ([], rest)
    else
      let next :=
        match inBrackets with
        | none => none
        | some inside =>
          if inside then some (character != ']') else some (character == '[')
      (splitDelimited delimiter next rest).map fun (taken, left) => (character :: taken, left)

def takeDelimited (delimiter : Char) (isRegex : Bool) (complaint : String) : Parse (List Char) := do
  match splitDelimited delimiter (if isRegex then some false else none) (← get).rest with
  | some (taken, rest) =>
    setRest rest
    return taken
  | none =>
    setRest []
    fail complaint

/-- Reads a regular expression. An empty one stands for the one before it. -/
def readRegex (ignoreCase : Bool) (characters : List Char) : Parse Regex := do
  let source ← get
  if characters.isEmpty then
    match source.last with
    | some regex => return regex
    | none => failAt 1 0 "no previous regular expression"
  else
    match Regex.read { source.style with ignoreCase } (String.ofList characters) with
    | .ok regex =>
      set { source with last := some regex }
      return regex
    | .error message => fail message

def takeNumber? : Parse (Option Nat) := do
  let (digits, rest) := (← get).rest.span Text.isDecimalDigit
  if digits.isEmpty then return none
  else
    setRest rest
    return some (Text.numeralValue 10 digits)

def takeRegexAddress (delimiter : Char) : Parse Address := do
  let source ← takeDelimited delimiter true "unterminated address regex"
  match (← get).rest with
  | 'I' :: rest =>
    setRest rest
    return .regex (← readRegex true source)
  | 'M' :: rest =>
    setRest rest
    return .regex (← readRegex false source)
  | _ => return .regex (← readRegex false source)

def takeAddress? : Parse (Option Address) := do
  match (← get).rest with
  | '$' :: rest =>
    setRest rest
    return some .last
  | '/' :: rest =>
    setRest rest
    return some (← takeRegexAddress '/')
  | '\\' :: delimiter :: rest =>
    setRest rest
    return some (← takeRegexAddress delimiter)
  | '+' :: rest =>
    setRest rest
    return some (.further ((← takeNumber?).getD 0))
  | '~' :: rest =>
    setRest rest
    return some (.multiple ((← takeNumber?).getD 0))
  | _ =>
    match ← takeNumber? with
    | none => return none
    | some number =>
      match (← get).rest with
      | '~' :: rest =>
        setRest rest
        return some (.steps number ((← takeNumber?).getD 0))
      | _ => return some (.line number)

def caseModes : List Char := ['U', 'L', 'u', 'l', 'E']

def letterEscapes : List (Char × Char) :=
  [('a', '\x07'), ('f', '\x0c'), ('n', '\n'), ('r', '\r'), ('t', '\t'), ('v', '\x0b')]

/-- The character that one behind a backslash stands for. -/
def escaped (character : Char) : Char := (letterEscapes.lookup character).getD character

/-- The pieces of a replacement. -/
def pieces : List Char → List Piece
  | [] => []
  | '&' :: rest => .group 0 :: pieces rest
  | '\\' :: character :: rest =>
    if Text.isDecimalDigit character then .group (character.toNat - 48) :: pieces rest
    else if caseModes.contains character then .casing character :: pieces rest
    else .text [escaped character] :: pieces rest
  | character :: rest => .text [character] :: pieces rest

def highestGroup (pieces : List Piece) : Nat :=
  pieces.foldl (fun highest piece =>
    match piece with
    | .group number => max highest number
    | _ => highest) 0

structure Flags where
  everywhere : Bool
  prints : Bool
  ignoreCase : Bool
  firstCount : Option Nat
  copy : Option String

/-- The path at the end of a line. -/
def takePath : Parse String := do
  skip isGap
  let (path, rest) := (← get).rest.span (· != '\n')
  if path.isEmpty then fail "missing filename in r/R/w/W commands"
  setRest rest
  return String.ofList path

def multiple {α : Type} (option : String) : Parse α :=
  fail ("multiple " ++ option ++ " options to \x60s' command")

def takeFlags : Nat → Flags → Parse Flags
  | 0, flags => return flags
  | fuel + 1, flags => do
    match (← get).rest with
    | [] => return flags
    | letter :: rest =>
      if letter = 'g' then
        setRest rest
        if flags.everywhere then multiple "\x60g'"
        takeFlags fuel { flags with everywhere := true }
      else if letter = 'p' then
        setRest rest
        if flags.prints then multiple "\x60p'"
        takeFlags fuel { flags with prints := true }
      else if letter = 'i' ∨ letter = 'I' then
        setRest rest
        takeFlags fuel { flags with ignoreCase := true }
      else if letter = 'm' ∨ letter = 'M' then
        setRest rest
        takeFlags fuel flags
      else if letter = 'w' then
        setRest rest
        return { flags with copy := some (← takePath) }
      else
        match ← takeNumber? with
        | some number =>
          if flags.firstCount.isSome then multiple "number"
          if number = 0 then fail "number option to \x60s' command may not be zero"
          takeFlags fuel { flags with firstCount := some number }
        | none => return flags

def takeSubstitution : Parse Action := do
  match (← get).rest with
  | [] => fail "unterminated \x60s' command"
  | delimiter :: rest =>
    setRest rest
    let source ← takeDelimited delimiter true "unterminated \x60s' command"
    let replacement ← takeDelimited delimiter false "unterminated \x60s' command"
    let flags ← takeFlags ((← get).rest.length + 1) ⟨false, false, false, none, none⟩
    match (← get).rest with
    | [] => pure ()
    | character :: rest =>
      if !([';', '\n', '\x7d', ' ', '\t', '#'].contains character) then
        setRest rest
        fail "unknown option to \x60s'"
    let regex ← readRegex flags.ignoreCase source
    let pieces := pieces replacement
    if regex.groupCount < highestGroup pieces then
      fail ("invalid reference \\" ++ Text.decimal (highestGroup pieces) ++
        " on \x60s' command's RHS")
    return .substitute
      ⟨regex, pieces, flags.everywhere, flags.firstCount.getD 1, flags.prints, flags.copy⟩

def unescape : List Char → List Char
  | [] => []
  | '\\' :: character :: rest => escaped character :: unescape rest
  | character :: rest => character :: unescape rest

def takeTransliteration : Parse Action := do
  match (← get).rest with
  | [] => fail "unterminated \x60y' command"
  | delimiter :: rest =>
    setRest rest
    let source ← takeDelimited delimiter false "unterminated \x60y' command"
    let target ← takeDelimited delimiter false "unterminated \x60y' command"
    if (unescape source).length = (unescape target).length then
      return .transliterate (unescape source) (unescape target)
    else fail "strings for \x60y' command are different lengths"

/-- The text of a command that writes one, up to the end of its line. A backslash
keeps the end of a line in the text. -/
def splitText : List Char → List Char × List Char
  | [] => ([], [])
  | '\\' :: character :: rest =>
    let (taken, left) := splitText rest
    (character :: taken, left)
  | '\n' :: rest => ([], rest)
  | character :: rest =>
    let (taken, left) := splitText rest
    (character :: taken, left)

/-- The text that a command writes. It ends in a newline, unless the script ends
ahead of it. -/
def takeText : Parse String := do
  skip isGap
  let behind ←
    match (← get).rest with
    | '\\' :: rest =>
      setRest rest
      match rest.dropWhile isGap with
      | '\n' :: rest => setRest rest
      | _ => pure ()
      pure true
    | _ => pure false
  if (← get).rest.isEmpty then
    if behind then return "" else fail "expected \\ after \x60a', \x60c' or \x60i'"
  let (taken, rest) := splitText (← get).rest
  setRest rest
  return String.ofList taken ++ "\n"

def takeName : Parse String := do
  skip isGap
  let (name, rest) := (← get).rest.span fun character =>
    character != ';' && character != '\n' && character != '\x7d'
  setRest rest
  return String.ofList name

def simpleLetters : List Char :=
  ['=', 'd', 'D', 'g', 'G', 'h', 'H', 'n', 'N', 'p', 'P', 'x', 'z']

def takeAction : Parse Action := do
  match (← get).rest with
  | [] => fail "missing command"
  | letter :: rest =>
    setRest rest
    match letter with
    | '\x7b' => return .opening
    | '\x7d' => return .closing
    | 's' => takeSubstitution
    | 'y' => takeTransliteration
    | ':' =>
      skip isGap
      let (name, rest) := (← get).rest.span fun character =>
        character != ';' && character != '\n'
      if name.isEmpty then fail "\":\" lacks a label"
      setRest rest
      return .label (String.ofList name)
    | 'b' => return .jump letter (← takeName)
    | 't' => return .jump letter (← takeName)
    | 'T' => return .jump letter (← takeName)
    | 'q' =>
      skip isGap
      return .quit letter ((← takeNumber?).getD 0)
    | 'Q' =>
      skip isGap
      return .quit letter ((← takeNumber?).getD 0)
    | 'l' =>
      skip isGap
      return .show ((← takeNumber?).getD 70)
    | 'r' => return .readFile (← takePath)
    | 'w' => return .writeFile (← takePath)
    | 'a' => return .write letter (← takeText)
    | 'i' => return .write letter (← takeText)
    | 'c' => return .write letter (← takeText)
    | letter =>
      if simpleLetters.contains letter then return .simple letter
      else fail ("unknown command: \x60" ++ String.singleton letter ++ "'")

def isSeparator (character : Char) : Bool :=
  isGap character || character == ';' || character == '\n'

def takeInstruction : Parse Instruction := do
  let first ← takeAddress?
  skip isGap
  let second ←
    match first, (← get).rest with
    | some _, ',' :: rest => do
      setRest rest
      skip isGap
      match ← takeAddress? with
      | some address => pure (some address)
      | none =>
        setRest ((← get).rest.drop 1)
        fail "unexpected \x60,'"
    | _, _ => pure none
  skip isGap
  let negated := (← get).rest.head? == some '!'
  if negated then
    setRest ((← get).rest.drop 1)
    skip isGap
    if (← get).rest.head? = some '!' then
      setRest ((← get).rest.drop 1)
      fail "multiple \x60!'s"
  let isZero := match first, second with
    | some (.line 0), some (.regex _) => false
    | some (.line 0), _ => true
    | _, _ => false
  if isZero then
    setRest ((← get).rest.drop 1)
    fail "invalid usage of line address 0"
  let action ← takeAction
  return ⟨first, second, negated, action⟩

def skipComment : Parse Unit := do
  match (← get).rest with
  | '#' :: rest => setRest (rest.dropWhile (· != '\n'))
  | _ => pure ()

/-- Takes instructions, given how many braces are open. -/
def takeInstructions : Nat → Nat → Parse (List Instruction)
  | 0, _ => return []
  | fuel + 1, depth => do
    skip isSeparator
    skipComment
    skip isSeparator
    match (← get).rest with
    | [] => if depth = 0 then return [] else failAt 1 0 "unmatched \x60\x7b'"
    | '#' :: _ => takeInstructions fuel depth
    | _ =>
      let instruction ← takeInstruction
      let depth ←
        match instruction.action with
        | .opening => pure (depth + 1)
        | .closing => if depth = 0 then fail "unexpected \x60\x7d'" else pure (depth - 1)
        | _ => pure depth
      skip isGap
      match instruction.action, (← get).rest with
      | .opening, _ => pure ()
      | .write _ _, _ => pure ()
      | _, character :: rest =>
        if !(isSeparator character || character == '\x7d' || character == '#') then
          setRest rest
          fail "extra characters after command"
      | _, [] => pure ()
      return instruction :: (← takeInstructions fuel depth)

/-- A jump whose label is not there. -/
def lostLabel? (instructions : List Instruction) : Option String :=
  let labels := instructions.filterMap fun instruction =>
    match instruction.action with
    | .label name => some name
    | _ => none
  instructions.findSome? fun instruction =>
    match instruction.action with
    | .jump _ name => if name = "" ∨ labels.contains name then none else some name
    | _ => none

def read (style : Regex.Style) (expressions : List String) : Except Fault (List Instruction) :=
  let characters := ("\n".intercalate expressions).toList
  match (takeInstructions (characters.length + 1) 0).run
      ⟨characters, style, characters.length, expressions.map String.length, none⟩ with
  | .ok (instructions, _) =>
    match lostLabel? instructions with
    | some name => .error ⟨4, "can't find label for jump to \x60" ++ name ++ "'"⟩
    | none => .ok instructions
  | .error fault => .error fault

/-! Editing. -/

structure Editor where
  pattern : List Char
  hold : List Char
  number : Nat
  rest : List (List Char)
  /-- What is written so far, the last piece first. -/
  output : List String
  queue : List String
  replaced : Bool
  /-- The instructions whose range has begun, with the line it ends at, if that is
  known. -/
  ranges : List (Nat × Option Nat)
  quiet : Bool
  /-- Whether the last line of the text has no newline. -/
  isOpen : Bool
  /-- Whether the line at work has none, and whether the line on hold has none. -/
  lacks : Bool
  holdLacks : Bool
  /-- Whether a newline is missing from the output. -/
  owes : Bool
  /-- What is written to files, the last piece first. -/
  files : List (String × String)
  disk : Disk

namespace Editor

def isLast (editor : Editor) : Bool := editor.rest.isEmpty

/-- Writes text behind the newline that is missing, if one is. -/
def put (editor : Editor) (text : String) : Editor :=
  { editor with
    output := (if editor.owes then "\n" ++ text else text) :: editor.output
    owes := false }

/-- Writes a line, which may lack its newline. -/
def emit (editor : Editor) (characters : List Char) : Editor :=
  if editor.lacks then { editor.put (String.ofList characters) with owes := true }
  else editor.put (String.ofList characters ++ "\n")

/-- Writes the line at work to a file. -/
def copyTo (editor : Editor) (path : String) : Editor :=
  if path = "/dev/stdout" then editor.emit editor.pattern
  else
    let line := String.ofList editor.pattern ++ (if editor.lacks then "" else "\n")
    { editor with files := (path, line) :: editor.files }

/-- Takes the next line of the text. -/
def advance (editor : Editor) (line : List Char) (rest : List (List Char)) : Editor :=
  { editor with
    pattern := line
    rest
    number := editor.number + 1
    lacks := rest.isEmpty && editor.isOpen }

def selectsOne (editor : Editor) : Address → Bool
  | .line number => editor.number == number
  | .last => editor.isLast
  | .steps first step =>
    if step = 0 then editor.number == first
    else decide (first ≤ editor.number) && (editor.number - first) % step == 0
  | .regex regex => (regex.find? (String.ofList editor.pattern)).isSome
  | .further _ => false
  | .multiple _ => false

/-- Whether an instruction applies, and the editor with its ranges brought up to
date. -/
def selects (editor : Editor) (index : Nat) (instruction : Instruction) : Bool × Editor :=
  match instruction.first, instruction.second with
  | none, _ => (!instruction.negated, editor)
  | some first, none => (editor.selectsOne first != instruction.negated, editor)
  | some first, some second =>
    let without := editor.ranges.filter (·.1 != index)
    match editor.ranges.lookup index with
    | some (some finish) =>
      let isOver := finish ≤ editor.number
      let inside := decide (editor.number ≤ finish)
      let editor := if isOver then { editor with ranges := without } else editor
      (inside != instruction.negated, editor)
    | some none =>
      let isOver := editor.selectsOne second
      (!instruction.negated, if isOver then { editor with ranges := without } else editor)
    | none =>
      if editor.selectsOne first then
        let finish :=
          match second with
          | .line number => some number
          | .further count => some (editor.number + count)
          | .multiple number =>
            some (if number = 0 then editor.number else (editor.number / number + 1) * number)
          | _ => none
        let single := (finish.map fun finish => decide (finish ≤ editor.number)).getD
          (match second with
            | .last => editor.isLast
            | _ => false)
        let ranges := if single then editor.ranges else (index, finish) :: editor.ranges
        (!instruction.negated, { editor with ranges })
      else (instruction.negated, editor)

end Editor

structure Casing where
  lasting : Char
  once : Option Char

def changed (mode : Char) (character : Char) : Char :=
  if mode = 'U' ∨ mode = 'u' then character.toUpper
  else if mode = 'L' ∨ mode = 'l' then character.toLower
  else character

def addText (state : List Char × Casing) (characters : List Char) : List Char × Casing :=
  characters.foldl (fun (done, casing) character =>
    match casing.once with
    | some mode => (changed mode character :: done, { casing with once := none })
    | none => (changed casing.lasting character :: done, casing)) state

/-- What stands in the place of a match. -/
def replacement (pieces : List Piece) (found : Regex.Match) : List Char :=
  (pieces.foldl (fun (state : List Char × Casing) piece =>
    match piece with
    | .text characters => addText state characters
    | .group 0 => addText state found.text
    | .group number => addText state ((found.groups.lookup number).getD [])
    | .casing mode =>
      if mode = 'u' ∨ mode = 'l' then (state.1, { state.2 with once := some mode })
      else (state.1, ⟨mode, none⟩)) ([], ⟨'E', none⟩)).1.reverse

/-- Replaces matches in a text, beginning with the given one of them. -/
def substituteIn (substitution : Substitution) :
    Nat → Nat → Option Char → Bool → List Char → List Char × Bool
  | 0, _, _, _, characters => (characters, false)
  | fuel + 1, count, previous, afterMatch, characters =>
    match Regex.search substitution.regex [] previous characters with
    | none => (characters, false)
    | some found =>
      let isRepeat := found.text.isEmpty && afterMatch && found.before.isEmpty
      let counts := !isRepeat
      let count := if counts then count + 1 else count
      let isChosen := counts &&
        (count == substitution.firstCount ||
          (substitution.everywhere && substitution.firstCount < count))
      let shown := if isChosen then replacement substitution.pieces found else found.text
      if isChosen && !substitution.everywhere then
        (found.before ++ shown ++ found.behind, true)
      else if found.text.isEmpty then
        match found.behind with
        | [] => (found.before ++ shown, isChosen)
        | character :: rest =>
          let (others, done) :=
            substituteIn substitution fuel count (some character) false rest
          (found.before ++ shown ++ character :: others, done || isChosen)
      else
        let (others, done) :=
          substituteIn substitution fuel count found.text.getLast? true found.behind
        (found.before ++ shown ++ others, done || isChosen)

/-- How the instructions end for a line. -/
inductive Ending where
  | finished
  | deleted
  | restarted
  | quit (status : Nat) (silent : Bool)

/-- The position behind the closing brace that belongs to an opening one. -/
def behindBlock (instructions : List Instruction) (depth : Nat) (position : Nat) : Nat → Nat
  | 0 => position
  | fuel + 1 =>
    match instructions[position]? with
    | none => position
    | some instruction =>
      match instruction.action with
      | .opening => behindBlock instructions (depth + 1) (position + 1) fuel
      | .closing =>
        if depth = 1 then position + 1
        else behindBlock instructions (depth - 1) (position + 1) fuel
      | _ => behindBlock instructions depth (position + 1) fuel

def labelPosition (instructions : List Instruction) (name : String) : Nat :=
  (instructions.findIdx? fun instruction =>
    match instruction.action with
    | .label other => other == name
    | _ => false).getD instructions.length

/-- Ends the output for a line. -/
def Editor.flush (editor : Editor) (printing : Bool) : Editor :=
  let editor := if printing && !editor.quiet then editor.emit editor.pattern else editor
  { editor.queue.foldl Editor.put editor with queue := [] }

/-- The characters of a line as an unambiguous text, each as a unit. -/
def visibleMarks (characters : List Char) : List (List Char) :=
  characters.map fun character =>
    match [('\x07', 'a'), ('\x08', 'b'), ('\x0c', 'f'), ('\n', 'n'), ('\r', 'r'), ('\t', 't'),
      ('\x0b', 'v'), ('\\', '\\')].lookup character with
    | some letter => ['\\', letter]
    | none =>
      let code := character.toNat
      if 32 ≤ code ∧ code < 127 then [character]
      else '\\' :: [code / 64 % 8, code / 8 % 8, code % 8].map Nat.digitChar

/-- Breaks a text into lines that are not wider than given. -/
def wrapShown (width : Nat) (units : List (List Char)) : List Char :=
  (units.foldl (fun (shown, column) unit =>
    if width > 0 ∧ width < column + unit.length then
      (shown ++ ['\\', '\n'] ++ unit, unit.length)
    else (shown ++ unit, column + unit.length)) ([], 0)).1

def simple (letter : Char) (editor : Editor) : Editor × Option Ending :=
  match letter with
  | '=' => (editor.put (Text.decimal editor.number ++ "\n"), none)
  | 'd' => (editor, some .deleted)
  | 'D' =>
    if editor.pattern.contains '\n' then
      ({ editor with pattern := (editor.pattern.dropWhile (· != '\n')).drop 1 }, some .restarted)
    else (editor, some .deleted)
  | 'g' => ({ editor with pattern := editor.hold, lacks := editor.holdLacks }, none)
  | 'G' =>
    ({ editor with
        pattern := editor.pattern ++ '\n' :: editor.hold
        lacks := editor.lacks && editor.holdLacks }, none)
  | 'h' => ({ editor with hold := editor.pattern, holdLacks := editor.lacks }, none)
  | 'H' =>
    ({ editor with
        hold := editor.hold ++ '\n' :: editor.pattern
        holdLacks := editor.lacks && editor.holdLacks }, none)
  | 'x' =>
    ({ editor with
        pattern := editor.hold
        hold := editor.pattern
        lacks := editor.holdLacks
        holdLacks := editor.lacks }, none)
  | 'z' => ({ editor with pattern := [] }, none)
  | 'p' => (editor.emit editor.pattern, none)
  | 'P' =>
    let line := editor.pattern.takeWhile (· != '\n')
    if editor.pattern.contains '\n' then (editor.put (String.ofList line ++ "\n"), none)
    else (editor.emit line, none)
  | 'n' =>
    match editor.rest with
    | [] => (editor, some (.quit 0 false))
    | line :: rest =>
      ((editor.flush true).advance line rest, none)
  | 'N' =>
    match editor.rest with
    | [] => (editor, some (.quit 0 false))
    | line :: rest =>
      let next := editor.advance line rest
      ({ next with pattern := editor.pattern ++ '\n' :: line }, none)
  | _ => (editor, none)

/-- Carries out instructions from a position on. -/
def execute (instructions : List Instruction) : Nat → Nat → Editor → Editor × Ending
  | 0, _, editor => (editor, .quit 1 true)
  | fuel + 1, position, editor =>
    match instructions[position]? with
    | none => (editor, .finished)
    | some instruction =>
      let (selected, editor) := editor.selects position instruction
      if !selected then
        match instruction.action with
        | .opening =>
          execute instructions fuel
            (behindBlock instructions 1 (position + 1) (instructions.length + 1)) editor
        | _ => execute instructions fuel (position + 1) editor
      else
        match instruction.action with
        | .opening => execute instructions fuel (position + 1) editor
        | .closing => execute instructions fuel (position + 1) editor
        | .label _ => execute instructions fuel (position + 1) editor
        | .jump letter name =>
          let target := if name = "" then instructions.length else labelPosition instructions name
          let jumps := letter == 'b' || editor.replaced == (letter == 't')
          let editor := if letter = 'b' then editor else { editor with replaced := false }
          execute instructions fuel (if jumps then target else position + 1) editor
        | .quit letter status => (editor, .quit status (letter == 'Q'))
        | .write letter text =>
          match letter with
          | 'i' => execute instructions fuel (position + 1) (editor.put text)
          | 'a' =>
            execute instructions fuel (position + 1)
              { editor with queue := editor.queue ++ [text] }
          | _ =>
            let inRange := (editor.ranges.lookup position).isSome && !instruction.negated
            (if inRange then editor else editor.put text, .deleted)
        | .show width =>
          let shown := wrapShown (width - 1) (visibleMarks editor.pattern)
          execute instructions fuel (position + 1) (editor.put (String.ofList shown ++ "$\n"))
        | .readFile path =>
          let content := ((editor.disk.read (toDiskText path)).toOption.map ofDiskText).getD ""
          execute instructions fuel (position + 1)
            (if content = "" then editor else { editor with queue := editor.queue ++ [content] })
        | .writeFile path => execute instructions fuel (position + 1) (editor.copyTo path)
        | .substitute substitution =>
          let (pattern, done) :=
            substituteIn substitution (editor.pattern.length + 2) 0 none false editor.pattern
          let editor := if done then { editor with pattern, replaced := true } else editor
          let editor := if done && substitution.prints then editor.emit pattern else editor
          let editor :=
            match substitution.copy with
            | some path => if done then editor.copyTo path else editor
            | none => editor
          execute instructions fuel (position + 1) editor
        | .transliterate source target =>
          execute instructions fuel (position + 1)
            { editor with
              pattern := editor.pattern.map fun character =>
                ((source.zip target).lookup character).getD character }
        | .simple letter =>
          match simple letter editor with
          | (editor, none) => execute instructions fuel (position + 1) editor
          | (editor, some ending) => (editor, ending)

/-- Edits line after line. -/
def cycles (instructions : List Instruction) (steps : Nat) : Nat → Bool → Editor → Editor × Nat
  | 0, _, editor => (editor, 1)
  | fuel + 1, restarted, editor =>
    let start :=
      if restarted then some editor
      else
        match editor.rest with
        | [] => none
        | line :: rest =>
          some { editor.advance line rest with replaced := false }
    match start with
    | none => (editor, 0)
    | some editor =>
      match execute instructions steps 0 editor with
      | (editor, .finished) => cycles instructions steps fuel false (editor.flush true)
      | (editor, .deleted) => cycles instructions steps fuel false (editor.flush false)
      | (editor, .restarted) => cycles instructions steps fuel true (editor.flush false)
      | (editor, .quit status silent) => (editor.flush (!silent), status)

/-- What editing a text leaves behind. -/
structure Result where
  written : String
  status : Nat
  files : List (String × String)

/-- The files that instructions write to. -/
def outputPaths (instructions : List Instruction) : List String :=
  instructions.filterMap fun instruction =>
    match instruction.action with
    | .writeFile path => some path
    | .substitute substitution => substitution.copy
    | _ => none

/-- Edits a whole text. A last line without a newline stays so. -/
def edit (instructions : List Instruction) (quiet : Bool) (disk : Disk) (text : String) :
    Result :=
  let lines := Text.lines text.toList
  let isOpen := text != "" && text.toList.getLast? != some '\n'
  let steps := (instructions.length + 1) * (lines.length + 2) * 20 + 1000
  let begun := (instructions.zipIdx.filter fun (entry : Instruction × Nat) =>
    match entry.1.first with
    | some (.line 0) => true
    | _ => false).map fun entry => (entry.2, none)
  let (editor, status) := cycles instructions steps (2 * text.length + 2) false
    { pattern := [], hold := [], number := 0, rest := lines, output := [], queue := []
      replaced := false, ranges := begun, quiet, isOpen, lacks := false, holdLacks := false
      owes := false, files := [], disk }
  let files := (outputPaths instructions).eraseDups.filter (· != "/dev/stdout") |>.map fun path =>
    (path, String.join ((editor.files.reverse.filter (·.1 == path)).map (·.2)))
  ⟨String.join editor.output.reverse, status, files⟩

def describe (path : String) : Obstacle → String
  | .isDirectory => "couldn't edit " ++ path ++ ": not a regular file"
  | obstacle => "can't read " ++ path ++ ": " ++ description obstacle

end Sed

def sed : Utility := fun call =>
  call.withArguments ⟨['n', 'E', 'r', 's', 'u', 'i', 'z'], ['e'],
      [("quiet", 'n'), ("silent", 'n'), ("expression", 'e'), ("regexp-extended", 'E'),
       ("in-place", 'i')]⟩ 1 fun arguments =>
    let (scripts, files) :=
      match arguments.values 'e', arguments.operands with
      | [], script :: files => ([script], files)
      | given, files => (given, files)
    let style : Regex.Style := ⟨arguments.has 'E' || arguments.has 'r', false⟩
    match Sed.read style scripts with
    | .error fault => call.refuse fault.status fault.message
    | .ok instructions =>
      let start := (scripts.headD "").toList ++ ['\n']
      let quiet := arguments.has 'n' || ['#', 'n', '\n'].isPrefixOf start
      let paths := Call.paths files
      let results := paths.map fun path => (path, call.content path)
      let complaints := results.filterMap fun
        | (path, .error .isDirectory) =>
          some (2, call.complaint ("read error on " ++ path ++ ": Is a directory"))
        | (path, .error obstacle) => some (2, call.complaint (Sed.describe path obstacle))
        | (_, .ok _) => none
      let status := if complaints.isEmpty then 0 else 2
      let keep (disk : Disk) (files : List (String × String)) : Disk :=
        files.foldl (fun disk (path, text) =>
          (store disk (toDiskText path) (toDiskText text)).toOption.getD disk) disk
      if arguments.has 'i' then
        let disk := results.foldl (fun disk (path, result) =>
          match result with
          | .ok text =>
            let edited := Sed.edit instructions quiet call.disk text
            keep disk (edited.files ++ [(path, edited.written)])
          | .error _ => disk) call.disk
        ⟨complaints, status, disk, false⟩
      else
        let texts := results.filterMap fun
          | (_, .ok text) => some text
          | (_, .error _) => none
        let joined := texts.dropLast.map fun text =>
          if text = "" ∨ text.toList.getLast? = some '\n' then text else text ++ "\n"
        let edited := Sed.edit instructions quiet call.disk
          (String.join joined ++ texts.getLast?.getD "")
        ⟨complaints ++ [(1, edited.written)], if edited.status = 0 then status else edited.status,
          keep call.disk edited.files, paths.contains "-"⟩

end MipsGloss.Shell.Utility
