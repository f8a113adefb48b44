import MipsGloss.Shell.Arithmetic
import MipsGloss.Shell.Pattern
import MipsGloss.Shell.Session

namespace MipsGloss.Shell

/-! Words are expanded into pieces, and pieces are put together into fields. What
stands outside of quotes and comes from an expansion is split at the characters
of the field separator. -/

inductive Piece where
  | fixed (marks : List Mark)
  | loose (text : List Char)
  | boundary

namespace Piece

/-- The text of pieces that are not to be split. -/
def joined (pieces : List Piece) : List Mark :=
  pieces.flatMap fun
    | .fixed marks => marks
    | .loose text => plainMarks text
    | .boundary => quotedMarks [' ']

def text (pieces : List Piece) : String := String.ofList ((joined pieces).map (·.character))

/-- A piece of an operand outside of quotes, which is split like a value. -/
def loosened (piece : Piece) : Piece :=
  match piece with
  | .fixed marks =>
    if !marks.isEmpty && marks.all (!·.quoted) then .loose (marks.map (·.character))
    else .fixed marks
  | piece => piece

end Piece

/-- Fields on the way: those that are complete, the one that goes on, and whether
white space has just ended one. -/
structure Fields where
  complete : List (List Mark)
  current : Option (List Mark)
  afterSpace : Bool

namespace Fields

def empty : Fields := ⟨[], none, false⟩

def push (fields : Fields) (marks : List Mark) : Fields :=
  { fields with current := some (fields.current.getD [] ++ marks), afterSpace := false }

def close (fields : Fields) (afterSpace : Bool) : Fields :=
  match fields.current with
  | some field => ⟨fields.complete ++ [field], none, afterSpace⟩
  | none => { fields with afterSpace := fields.afterSpace && afterSpace }

def isSpace (character : Char) : Bool := [' ', '\t', '\n'].contains character

/-- Adds a character that is split at separators. A separator that is no white
space ends a field even if nothing is in it. -/
def step (separators : List Char) (fields : Fields) (character : Char) : Fields :=
  if !separators.contains character then fields.push [⟨character, false⟩]
  else if isSpace character then fields.close true
  else if fields.current.isNone && fields.afterSpace then { fields with afterSpace := false }
  else (fields.push []).close false

def add (separators : List Char) (fields : Fields) (piece : Piece) : Fields :=
  match piece with
  | .fixed marks => fields.push marks
  | .loose text => text.foldl (step separators) fields
  | .boundary => fields.close false

def ofPieces (separators : List Char) (pieces : List Piece) : List (List Mark) :=
  ((pieces.foldl (add separators) empty).close false).complete

end Fields

/-! A field that is a pattern stands for the paths that match it. -/

namespace Glob

/-- The parts of a pattern between slashes. -/
def parts : List Mark → List (List Mark)
  | [] => [[]]
  | mark :: rest =>
    if mark.character = '/' then [] :: parts rest
    else
      match parts rest with
      | [] => [[mark]]
      | part :: others => (mark :: part) :: others

def sorted (names : List String) : List String :=
  names.mergeSort fun left right => left ≤ right

/-- The names in a directory that a part of a pattern matches. A leading dot has
to be matched by one. -/
def names (disk : Disk) (place : Place) (part : List Mark) : List String :=
  let pattern := Pattern.symbols part
  let isHidden (name : String) : Bool := name.toList.head? == some '.'
  let wantsHidden := (part.head?.map (·.character)) == some '.'
  sorted ((["." , ".."] ++ (disk.children place).map ofDiskText).filter fun name =>
    isHidden name == wantsHidden && Pattern.accepts pattern name.toList)

/-- The paths that match the parts of a pattern, each with its place. -/
def extend (disk : Disk) (isLast : Bool) (part : List Mark) (paths : List (String × Place)) :
    List (String × Place) :=
  paths.flatMap fun (path, place) =>
    let behind := if isLast then "" else "/"
    if Pattern.isActive part then
      if disk.entry place = .directory then
        (names disk place part).map fun name =>
          (path ++ name ++ behind, place.step (toDiskText name))
      else []
    else
      let name := String.ofList (part.map (·.character))
      [(path ++ name ++ behind, place.step (toDiskText name))]

def walk (disk : Disk) (paths : List (String × Place)) : List (List Mark) → List (String × Place)
  | [] => paths
  | [part] => extend disk true part paths
  | part :: rest => walk disk (extend disk false part paths) rest

def expand (disk : Disk) (field : List Mark) : List String :=
  let text := String.ofList (field.map (·.character))
  if !Pattern.isActive field then [text]
  else
    let parts := parts field
    let start : Place := if parts.head? = some [] then [""] else disk.directory
    let isFolder := parts.getLast? == some []
    let found := (walk disk [("", start)] parts).filter fun (_, place) =>
      if isFolder then disk.entry place == .directory else disk.entry place != .missing
    if found.isEmpty then [text] else found.map (·.1)

end Glob

/-- How the parts of a script are run. A text is run as the commands in it, given
the line that it starts on. -/
structure Interpreter where
  run : Command → Run Unit
  expand : Word → Run (List Piece)
  runText : List Char → Nat → Run Unit

/-- Runs a body to its end and then what was put off until there. -/
def Interpreter.finish (interpreter : Interpreter) (body : Run Unit) : Run Unit := do
  match ← Run.outcome body with
  | some (.killed signal) => throw (.killed signal)
  | _ =>
    let session ← get
    match session.traps.lookup "EXIT" with
    | none => return ()
    | some action =>
      set { session with
        traps := session.traps.filter (·.1 != "EXIT")
        command := none
        tested := false }
      match ← Run.outcome (interpreter.runText action.toList 1) with
      | some (.killed signal) => throw (.killed signal)
      | some .exit => return ()
      | _ => Run.setStatus session.status

/-- Runs a body in a subshell, which has no traps at first. -/
def Interpreter.apart (interpreter : Interpreter) (body : Run Unit) : Run Unit :=
  Run.isolate do
    modify fun session => { session with traps := [], loops := 0 }
    interpreter.finish body

namespace Expansion

open Run

def separators : Run String := do
  return ((← get).values.lookup "IFS").getD " \t\n"

def dropNewlines (text : String) : String :=
  String.ofList (text.toList.reverse.dropWhile (· == '\n')).reverse

/-- A value as pieces, which are split unless they are quoted. -/
def ofValue (quoted : Bool) (value : String) : List Piece :=
  if quoted then [.fixed (quotedMarks value.toList)] else [.loose value.toList]

/-- The arguments as pieces. In quotes a star joins them into one. -/
def ofArguments (name : String) (quoted : Bool) : Run (List Piece) := do
  let arguments := (← get).arguments
  if quoted && name == "*" then
    let separator := String.ofList ((← separators).toList.take 1)
    return [.fixed (quotedMarks (separator.intercalate arguments).toList)]
  else
    return (arguments.map (ofValue quoted)).intersperse [.boundary] |>.flatten

/-! A tilde at the start of a word stands for the home directory. In the value of a
variable it does so behind a colon, too. -/

def superuserHome : String := "/root"

/-- The directory that a tilde with a name behind it stands for. -/
def home? (name : List Char) : Run (Option String) := do
  if name.isEmpty then return (← get).values.lookup "HOME"
  else return if name = "root".toList then some superuserHome else none

/-- Replaces a tilde at the start of some characters. They have to end there, or a
slash has to follow the name. -/
def tildeParts (characters : List Char) (isLast : Bool) : Run Word := do
  match characters with
  | '~' :: rest =>
    let (name, behind) := rest.span (· != '/')
    match ← home? name with
    | some home =>
      if behind.isEmpty && !isLast then return [.text characters false]
      else return [.text home.toList true, .text behind false]
    | none => return [.text characters false]
  | _ => return [.text characters false]

def colonParts : List Char → List (List Char)
  | [] => [[]]
  | character :: rest =>
    match colonParts rest with
    | [] => [[character]]
    | part :: others =>
      if character = ':' then [] :: part :: others else (character :: part) :: others

/-- Replaces the tilde that a word starts with. -/
def withHome (word : Word) : Run Word := do
  match word with
  | .text characters false :: rest => return (← tildeParts characters rest.isEmpty) ++ rest
  | _ => return word

/-- Replaces the tildes in the value of a variable. -/
def valueWithHome (word : Word) : Run Word := do
  match word with
  | .text characters false :: rest =>
    let parts := colonParts characters
    let replaced ← parts.mapM fun part =>
      tildeParts part (rest.isEmpty || parts.getLast? != some part)
    return (replaced.intersperse [.text [':'] false]).flatten ++ rest
  | _ => return word

/-! Parameters have operations with operands. -/

def operandText (interpreter : Interpreter) (operand : Word) : Run String := do
  return Piece.text (← interpreter.expand operand)

/-- The pieces of an operand that stands in the place of a value. -/
def operandPieces (interpreter : Interpreter) (operand : Word) (quoted : Bool) :
    Run (List Piece) := do
  let pieces ← interpreter.expand (← withHome operand)
  if quoted then return if pieces.isEmpty then [.fixed []] else pieces
  else return pieces.map Piece.loosened

def ofParameter (interpreter : Interpreter) (name : String) (operation : Operation)
    (operand : Word) (quoted : Bool) : Run (List Piece) := do
  let isList := name == "@" || name == "*"
  let arguments := (← get).arguments
  let value ←
    if isList then
      pure (if arguments.isEmpty then none else some (" ".intercalate arguments))
    else value? name
  let plain : Run (List Piece) := do
    if isList then ofArguments name quoted else return ofValue quoted (value.getD "")
  let isAbsent (orEmpty : Bool) : Bool := value.isNone || (orEmpty && value == some "")
  let need : Run Unit := do
    if value.isNone && !isList && (← hasOption 'u') then
      abort (name ++ ": parameter not set")
  match operation with
  | .plain =>
    need
    plain
  | .length =>
    need
    return ofValue quoted (Text.decimal (value.getD "").length)
  | .default orEmpty =>
    if isAbsent orEmpty then operandPieces interpreter operand quoted else plain
  | .alternative orEmpty =>
    if isAbsent orEmpty then return if quoted then [.fixed []] else []
    else operandPieces interpreter operand quoted
  | .assign orEmpty =>
    if isAbsent orEmpty then
      let text ← operandText interpreter operand
      if isName name then
        assign name text
        return ofValue quoted text
      else abort (name ++ ": bad variable name")
    else plain
  | .require orEmpty =>
    if isAbsent orEmpty then
      let text ← operandText interpreter operand
      abort (name ++ ": " ++ (if text = "" then "parameter not set" else text))
    else plain
  | .cutStart longest =>
    need
    let pattern := Pattern.symbols (Piece.joined (← interpreter.expand (← withHome operand)))
    return ofValue quoted
      (String.ofList (Pattern.cutStart longest pattern (value.getD "").toList))
  | .cutEnd longest =>
    need
    let pattern := Pattern.symbols (Piece.joined (← interpreter.expand (← withHome operand)))
    return ofValue quoted
      (String.ofList (Pattern.cutEnd longest pattern (value.getD "").toList))
  | .invalid => abort "Bad substitution"

/-- The output of commands, without the newlines at its end. -/
def ofCommand (interpreter : Interpreter) (source : List Char) (line : Nat) : Run String := do
  let before := (← get).status
  let text ← capture do
    modify fun session => { session with traps := [], loops := 0, tested := false }
    interpreter.finish (interpreter.runText source line)
  modify fun session => { session with substituted := some session.status, status := before }
  return dropNewlines (String.ofList (text.toList.filter (· != '\x00')))

def ofArithmetic (interpreter : Interpreter) (expression : Word) : Run String := do
  let source ← operandText interpreter expression
  let session ← get
  match Arithmetic.evaluate session.values source with
  | .ok (value, values) =>
    set { session with
      values := values.foldr (fun (name, value) kept =>
        (name, value) :: kept.filter (·.1 != name)) [] }
    return value
  | .error complaint => abort (complaint.message source)

def ofPart (interpreter : Interpreter) : Part → Run (List Piece)
  | .text characters quoted =>
    return [.fixed (characters.map fun character => ⟨character, quoted⟩)]
  | .parameter name operation operand quoted =>
    ofParameter interpreter name operation operand quoted
  | .command source line quoted => do
    return ofValue quoted (← ofCommand interpreter source line)
  | .arithmetic expression quoted => do
    return ofValue quoted (← ofArithmetic interpreter expression)

def ofWord (interpreter : Interpreter) (word : Word) : Run (List Piece) :=
  word.foldlM (fun pieces part => do return pieces ++ (← ofPart interpreter part)) []

/-! Words of a command become fields, and all other words become single texts. -/

def text (interpreter : Interpreter) (word : Word) : Run String := do
  return Piece.text (← interpreter.expand (← withHome word))

def pattern (interpreter : Interpreter) (word : Word) : Run (List Pattern.Symbol) := do
  return Pattern.symbols (Piece.joined (← interpreter.expand word))

/-- The value that a word gives to a variable. -/
def value (interpreter : Interpreter) (word : Word) : Run String := do
  text interpreter (← valueWithHome word)

def fields (interpreter : Interpreter) (words : List Word) : Run (List String) :=
  words.foldlM (fun found word => do
    let pieces ← interpreter.expand (← withHome word)
    let fields := Fields.ofPieces (← separators).toList pieces
    if ← hasOption 'f' then
      return found ++ fields.map fun field => String.ofList (field.map (·.character))
    else
      let disk := (← get).disk
      return found ++ fields.flatMap (Glob.expand disk)) []

end Expansion

end MipsGloss.Shell
