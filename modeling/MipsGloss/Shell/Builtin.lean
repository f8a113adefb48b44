import MipsGloss.Shell.Condition
import MipsGloss.Shell.Expansion
import MipsGloss.Shell.Format
import MipsGloss.Shell.Program
import MipsGloss.Shell.Reader
import MipsGloss.Shell.Signal

namespace MipsGloss.Shell

/-! Commands of the shell itself. Some of them are special: a mistake in one ends
the script. -/

namespace Builtin

open Run

/-- Complains about a command, which fails or ends the script. -/
def fault (name message : String) : Run Unit := do
  complain message
  if specialCommands.contains name then exit 2 else setStatus 2

def succeed : Run Unit := setStatus 0

/-- Writes output, and fails where that is not possible. -/
def output (name text : String) (status : Nat) : Run Unit := do
  if ← write 1 text then setStatus status
  else
    complain (name ++ ": I/O error")
    setStatus 1

def echo (words : List String) : Run Unit := do
  if (← get).dialect = .large then
    output "echo" (String.ofList (Utility.echoWords true false words)) 0
    return ()
  let (words, ending) :=
    match words with
    | "-n" :: words => (words, [])
    | words => (words, ['\n'])
  let (characters, stops) := Format.unescapeText (" ".intercalate words)
  output "echo" (String.ofList (if stops then characters else characters ++ ending)) 0

def printf (words : List String) : Run Unit := do
  match if words.head? = some "--" then words.drop 1 else words with
  | [] => fault "printf" "usage: printf format [arg ...]"
  | format :: words =>
    let (progress, failure) := Format.fill format words
    progress.faults.forM fun (word, verdict) =>
      complain (word ++ ": " ++
        (match verdict with
          | .missing => "expected numeric value"
          | .excessive => "Numerical result out of range"
          | _ => "not completely converted"))
    match failure with
    | some (.invalidDirective text) =>
      let _ ← write 1 (String.ofList progress.written)
      fault "printf" (text ++ ": invalid directive")
    | some .missingConversion =>
      let _ ← write 1 (String.ofList progress.written)
      fault "printf" "missing format character"
    | none =>
      output "printf" (String.ofList progress.written) (if progress.faults.isEmpty then 0 else 1)

def condition (name : String) (words : List String) : Run Unit := do
  match Condition.evaluate (← get).disk (words.length + 1) words with
  | .ok true => setStatus 0
  | .ok false => setStatus 1
  | .error message => fault name message

def bracket (words : List String) : Run Unit :=
  if words.getLast? = some "]" then condition "[" words.dropLast
  else fault "[" "missing ]"

/-- A number that is not negative. -/
def natural? (word : String) : Option Nat :=
  if !word.toList.isEmpty && word.toList.all Text.isDecimalDigit then
    some (Text.numeralValue 10 word.toList)
  else none

def exitWith (words : List String) : Run Unit := do
  match words with
  | [] => throw .exit
  | word :: _ =>
    match natural? word with
    | some status => exit (status % 256)
    | none => fault "exit" ("Illegal number: " ++ word)

def giveBack (words : List String) : Run Unit := do
  match words with
  | [] => throw .finish
  | word :: _ =>
    match natural? word with
    | some status =>
      setStatus (status % 256)
      throw .finish
    | none => fault "return" ("Illegal number: " ++ word)

/-- Ends some loops, or turns of them, as far as there are any. -/
def endLoop (name : String) (stop : Nat → Stop) (words : List String) : Run Unit := do
  let count := (words.head?.map natural?).getD (some 1)
  match count with
  | some (count + 1) =>
    let loops := (← get).loops
    if loops > 0 then throw (stop (min (count + 1) loops)) else succeed
  | _ => fault name ("Illegal number: " ++ words.headD "")

def changeDirectory (words : List String) : Run Unit := do
  let words := words.filter fun word => word != "-P" && word != "-L" && word != "--"
  let session ← get
  let goal := (words.head?.or (session.values.lookup "HOME")).getD "/"
  let path := if goal = "-" then (session.values.lookup "OLDPWD").getD "" else goal
  match session.disk.locate (toDiskText path) with
  | .ok place =>
    if session.disk.entry place = .directory then
      let before := ofDiskText (Place.text session.disk.directory)
      set { session with disk := session.disk.enter place }
      assign "OLDPWD" before
      assign "PWD" (ofDiskText (Place.text place))
      if goal = "-" then
        let _ ← write 1 (ofDiskText (Place.text place) ++ "\n")
      succeed
    else fault "cd" ("can't cd to " ++ goal)
  | .error _ => fault "cd" ("can't cd to " ++ goal)

/-- The name and the value of an argument that assigns. -/
def splitAssignment (word : String) : String × Option String :=
  let (name, rest) := word.toList.span (· != '=')
  (String.ofList name, if rest.isEmpty then none else some (String.ofList (rest.drop 1)))

/-- Puts a value into single quotes. -/
def quoted (value : String) : String :=
  "'" ++ "'\"'\"'".intercalate (value.splitOn "'") ++ "'"

/-- Declares variables in one way or another. -/
def declare (command : String) (act : String → Run Unit) (words : List String) : Run Unit := do
  succeed
  words.forM fun word => do
    let (name, value) := splitAssignment word
    if !isName name then fault command (name ++ ": bad variable name")
    else
      match value with
      | some value => assign name value
      | none => pure ()
      act name

/-- Lists the variables that were declared in some way. -/
def listDeclared (command : String) (names : List String) : Run Unit := do
  let session ← get
  let lines := (Glob.sorted names).map fun name =>
    match session.values.lookup name with
    | some value => command ++ " " ++ name ++ "=" ++ quoted value ++ "\n"
    | none => command ++ " " ++ name ++ "\n"
  output command (String.join lines) 0

def exportNames (words : List String) : Run Unit := do
  match words with
  | [] => listDeclared "export" (← get).exported
  | ["-p"] => listDeclared "export" (← get).exported
  | words =>
    declare "export" (fun name => modify fun session =>
      { session with exported := (name :: session.exported).eraseDups }) words

def fixNames (words : List String) : Run Unit := do
  match words with
  | [] => listDeclared "readonly" (← get).fixed
  | ["-p"] => listDeclared "readonly" (← get).fixed
  | words =>
    declare "readonly" (fun name => modify fun session =>
      { session with fixed := (name :: session.fixed).eraseDups }) words

def localNames (words : List String) : Run Unit := do
  match (← get).scopes with
  | [] => fault "local" "not in a function"
  | _ =>
    succeed
    words.forM fun word => do
      let (name, value) := splitAssignment word
      if !isName name then fault "local" (name ++ ": bad variable name")
      else
        modify fun session =>
          match session.scopes with
          | scope :: rest =>
            { session with scopes := ((name, session.values.lookup name) :: scope) :: rest }
          | [] => session
        match value with
        | some value => assign name value
        | none => pure ()

def unset (words : List String) : Run Unit := do
  succeed
  let ofFunctions := words.head? == some "-f"
  let names := if ofFunctions || words.head? == some "-v" then words.drop 1 else words
  names.forM fun name => do
    if ofFunctions then
      modify fun session =>
        { session with functions := session.functions.filter (·.1 != name) }
    else if (← get).fixed.contains name then fault "unset" (name ++ ": is read only")
    else unassign name

/-- The options of the shell. The last ones have a letter that cannot be written. -/
def longOptions : List (String × Char) :=
  [("errexit", 'e'), ("noglob", 'f'), ("ignoreeof", 'I'), ("interactive", 'i'),
   ("monitor", 'm'), ("noexec", 'n'), ("stdin", 's'), ("xtrace", 'x'), ("verbose", 'v'),
   ("vi", 'V'), ("emacs", 'E'), ("noclobber", 'C'), ("allexport", 'a'), ("notify", 'b'),
   ("nounset", 'u'), ("privileged", 'p'), ("nolog", '\x01'), ("debug", '\x02')]

def knownOptions : List Char := longOptions.map (·.2)

/-- The option under which a pipeline fails if any of its commands does. -/
def pipelineOption : Char := '\x03'

/-- Lists the options and whether they are set. -/
def listOptions : Run Unit := do
  let options := (← get).options
  let lines := longOptions.map fun (name, letter) =>
    name ++ String.ofList (List.replicate (16 - name.length) ' ') ++
      (if options.contains letter then "on" else "off")
  output "set" (unlines ("Current option settings" :: lines)) 0

def switchOption (on : Bool) (option : Char) : Run Unit :=
  modify fun session =>
    let others := session.options.filter (· != option)
    { session with options := if on then others ++ [option] else others }

/-- The letter of an option that has a name. Only the large shell looks at every
command of a pipeline. -/
def optionNamed? (dialect : Dialect) (name : String) : Option Char :=
  match dialect, name with
  | .large, "pipefail" => some pipelineOption
  | _, _ => longOptions.lookup name

/-- Sets the options with the given letters. One of them takes a name from the
words. Gives the words that are left. -/
def setLetters (sign : Char) (words : List String) : List Char → Run (List String)
  | [] => return words
  | letter :: letters => do
    if letter = 'o' then
      match words with
      | [] =>
        listOptions
        setLetters sign [] letters
      | name :: rest =>
        match optionNamed? (← get).dialect name with
        | some option =>
          switchOption (sign == '-') option
          setLetters sign rest letters
        | none =>
          fault "set" ("Illegal option " ++ String.singleton sign ++ "o " ++ name)
          return rest
    else if knownOptions.contains letter then
      switchOption (sign == '-') letter
      setLetters sign words letters
    else
      fault "set" ("Illegal option " ++ String.ofList [sign, letter])
      return words

/-- Sets options, and arguments where there are some behind them. The fuel bounds
the number of words. -/
def setOptionsWithin : Nat → List String → Run Unit
  | 0, _ => return ()
  | _, [] => return ()
  | fuel + 1, word :: rest => do
    let store (words : List String) : Run Unit :=
      modify fun session => { session with arguments := words, status := 0 }
    match word.toList with
    | ['-', '-'] => store rest
    | ['-'] =>
      switchOption false 'x'
      switchOption false 'v'
      store rest
    | sign :: letter :: letters =>
      if sign = '-' ∨ sign = '+' then
        setOptionsWithin fuel (← setLetters sign rest (letter :: letters))
      else store (word :: rest)
    | _ => store (word :: rest)

def setOptions (words : List String) : Run Unit := do
  succeed
  setOptionsWithin (words.length + 1) words

def shift (words : List String) : Run Unit := do
  let session ← get
  match (words.head?.map natural?).getD (some 1) with
  | some count =>
    if session.arguments.length < count then fault "shift" "can't shift that many"
    else set { session with arguments := session.arguments.drop count, status := 0 }
  | none => fault "shift" ("Illegal number: " ++ words.headD "")

def setTrap (words : List String) : Run Unit := do
  let store (action : Option String) (signals : List String) : Run Unit := do
    succeed
    signals.forM fun signal => do
      match Signal.number? signal with
      | none =>
        let _ ← write 2 ("trap: " ++ signal ++ ": bad trap\n")
        setStatus 1
      | some number =>
        let name := Signal.name number
        modify fun session =>
          let others := session.traps.filter (·.1 != name)
          { session with
            traps := match action with
              | some action => (name, action) :: others
              | none => others }
  match if words.head? = some "--" then words.drop 1 else words with
  | [] =>
    let traps := (← get).traps
    output "trap" (String.join (Signal.names.filterMap fun name =>
      (traps.lookup name).map fun action =>
        "trap -- " ++ quoted action ++ " " ++ name ++ "\n")) 0
  | "-" :: signals => store none signals
  | [signal] => store none [signal]
  | action :: signals => store (some action) signals

/-- Sends a signal to the script itself. -/
def deliver (interpreter : Interpreter) (signal : Nat) : Run Unit := do
  let session ← get
  match session.traps.lookup (Signal.name signal) with
  | some action =>
    if signal = 9 then throw (.killed signal)
    succeed
    if action != "" then
      interpreter.runText action.toList session.line
  | none => if Signal.isHarmless signal then succeed else throw (.killed signal)

def killUsage : String :=
  "Usage: kill [-s sigspec | -signum | -sigspec] [pid | job]... or\nkill -l [exitstatus]"

def kill (interpreter : Interpreter) (words : List String) : Run Unit := do
  let send (signal : Nat) (targets : List String) : Run Unit := do
    if targets.isEmpty then fault "kill" killUsage
    else
      targets.forM fun target => do
        if target = processNumber then deliver interpreter signal
        else if (natural? target).isNone then fault "kill" ("Illegal number: " ++ target)
        else
          complain "No such process\n"
          setStatus 1
  match words with
  | [] => fault "kill" killUsage
  | "-l" :: [] => output "kill" (unlines (Signal.names.drop 1)) 0
  | "-l" :: number :: _ =>
    match natural? number with
    | some number => output "kill" (Signal.name (number % 128) ++ "\n") 0
    | none => fault "kill" ("invalid signal number or exit status: " ++ number)
  | "-s" :: signal :: targets =>
    match Signal.number? signal with
    | some signal => send signal targets
    | none => fault "kill" ("invalid signal number or name: " ++ signal)
  | "--" :: targets => send 15 targets
  | word :: rest =>
    match word.toList with
    | '-' :: letters =>
      match Signal.number? (String.ofList letters) with
      | some signal => send signal rest
      | none => fault "kill" ("Illegal option -" ++ String.ofList (letters.take 1))
    | _ => send 15 words

/-! Reading a line into variables. -/

/-- A line with the quotes of its backslashes taken out. Gives whether it goes on
with the next line. -/
def unquoteLine : List Char → List Mark × Bool
  | [] => ([], false)
  | ['\\'] => ([], true)
  | '\\' :: character :: rest =>
    let (marks, goesOn) := unquoteLine rest
    (⟨character, true⟩ :: marks, goesOn)
  | character :: rest =>
    let (marks, goesOn) := unquoteLine rest
    (⟨character, false⟩ :: marks, goesOn)

/-- Reads lines that belong together. The fuel bounds their number. -/
def readMarks (raw : Bool) : Nat → Run (List Mark × Bool)
  | 0 => return ([], false)
  | fuel + 1 => do
    let (line, ended) ← Run.readLine 0
    if raw then return (plainMarks line.toList, ended)
    else
      let (marks, goesOn) := unquoteLine line.toList
      if goesOn && ended then
        let (others, ended) ← readMarks raw fuel
        return (marks ++ others, ended)
      else return (marks, ended)

def isSeparator (separators : List Char) (mark : Mark) : Bool :=
  !mark.quoted && separators.contains mark.character

def isBlankSeparator (separators : List Char) (mark : Mark) : Bool :=
  isSeparator separators mark && Fields.isSpace mark.character

/-- Passes over the separator ahead of a field. -/
def passSeparator (separators : List Char) (marks : List Mark) : List Mark :=
  let rest := marks.dropWhile (isBlankSeparator separators)
  match rest with
  | mark :: behind =>
    if isSeparator separators mark then behind.dropWhile (isBlankSeparator separators) else rest
  | [] => []

/-- The values of as many variables as there are; the last one gets what is
left. -/
def splitValues (separators : List Char) : Nat → List Mark → List (List Mark)
  | 0, _ => []
  | 1, marks =>
    let kept := (marks.reverse.dropWhile (isBlankSeparator separators)).reverse
    let fields := kept.filter fun mark => isSeparator separators mark
    let single := fields.length == 1 && (kept.getLast?.map (isSeparator separators)).getD false
    [if single then kept.dropLast else kept]
  | count + 1, marks =>
    let (field, rest) := marks.span (!isSeparator separators ·)
    field :: splitValues separators count (passSeparator separators rest)

def readValues (words : List String) : Run Unit := do
  let (options, names) := words.span fun word => word.toList.head? == some '-'
  match names with
  | [] => fault "read" "arg count"
  | names =>
    let raw := options.any fun option => option.toList.contains 'r'
    let (marks, ended) ← readMarks raw 1000
    let separators := (← Expansion.separators).toList
    let marks := marks.dropWhile (isBlankSeparator separators)
    let values := splitValues separators names.length marks
    (names.zip values).forM fun (name, value) =>
      assign name (String.ofList (value.map (·.character)))
    setStatus (if ended then 0 else 1)

/-! Options of a script are taken from its arguments one letter at a time. -/

/-- The letters that can be options, and whether their faults are left to the
script. -/
structure Letters where
  known : List Char
  silent : Bool

namespace Letters

def ofText (text : String) : Letters :=
  match text.toList with
  | ':' :: known => ⟨known, true⟩
  | known => ⟨known, false⟩

/-- Whether a letter is an option, and whether it takes a value then. -/
def find? (letters : Letters) (letter : Char) : Option Bool :=
  match letters.known.dropWhile (· != letter) with
  | [] => none
  | _ :: behind => if letter = ':' then none else some (behind.head? == some ':')

end Letters

/-- Stores an option that was found. -/
def storeOption (name letter : String) (value : Option String) (index offset : Nat) :
    Run Unit := do
  match value with
  | some value => assign "OPTARG" value
  | none => unassign "OPTARG"
  assign "OPTIND" (Text.decimal index)
  assign name letter
  modify fun session => { session with letters := offset, status := 0 }

/-- Looks at the letter at an offset in an argument. The index is that of the next
argument. -/
def takeOption (letters : Letters) (name : String) (arguments : List String) (index offset : Nat)
    (characters : List Char) : Run Unit := do
  let letter := characters[offset]?.getD '-'
  let spelled := String.singleton letter
  let rest := characters.drop (offset + 1)
  let behind := if rest.isEmpty then 0 else offset + 1
  match letters.find? letter with
  | none =>
    if !letters.silent then
      let _ ← write 2 ("Illegal option -" ++ spelled ++ "\n")
    storeOption name "?" (if letters.silent then some spelled else none) index behind
  | some false => storeOption name spelled none index behind
  | some true =>
    if !rest.isEmpty then storeOption name spelled (some (String.ofList rest)) index 0
    else
      match arguments[index - 1]? with
      | some value => storeOption name spelled (some value) (index + 1) 0
      | none =>
        if letters.silent then storeOption name ":" (some spelled) index 0
        else
          let _ ← write 2 ("No arg for -" ++ spelled ++ " option\n")
          storeOption name "?" none index 0

def nextOption (words : List String) : Run Unit := do
  match words with
  | text :: name :: others =>
    let session ← get
    let arguments := if others.isEmpty then session.arguments else others
    let index := ((session.values.lookup "OPTIND").bind natural?).getD 1
    let take (index offset : Nat) (argument : String) : Run Unit :=
      takeOption (Letters.ofText text) name arguments index offset argument.toList
    let finish (index : Nat) : Run Unit := do
      assign "OPTIND" (Text.decimal index)
      assign name "?"
      modify fun session => { session with letters := 0, status := 1 }
    if session.letters > 0 then take index session.letters (arguments[index - 2]?.getD "")
    else
      match arguments[index - 1]? with
      | none => finish index
      | some argument =>
        if argument = "--" then finish (index + 1)
        else if argument.toList.head? = some '-' && argument.length > 1 then
          take (index + 1) 1 argument
        else finish index
  | _ => fault "getopts" "Usage: getopts optstring var [arg...]"

def printDirectory : Run Unit := do
  output "pwd" (ofDiskText (Place.text (← get).disk.directory) ++ "\n") 0

/-- The commands that look after jobs, of which there are none. -/
def noJob (name : String) : Run Unit := fault name "No current job"

def nameList : List String :=
  specialCommands ++
  ["[", "alias", "bg", "cd", "command", "echo", "false", "fg", "getopts", "hash", "jobs", "kill",
   "printf", "pwd", "read", "test", "true", "type", "ulimit", "umask", "unalias", "wait"]

/-- What a name stands for as a command. -/
def describe (name : String) (isShort : Bool) : Run Unit := do
  let session ← get
  let searchPath := (session.values.lookup "PATH").getD Launch.defaultSearchPath
  if keywords.contains name then
    output "type" (if isShort then name ++ "\n" else name ++ " is a shell keyword\n") 0
  else if (session.functions.lookup name).isSome then
    output "type" (if isShort then name ++ "\n" else name ++ " is a shell function\n") 0
  else if nameList.contains name then
    let kind := if specialCommands.contains name then "special shell builtin" else "shell builtin"
    output "type" (if isShort then name ++ "\n" else name ++ " is a " ++ kind ++ "\n") 0
  else
    match Launch.find? session.disk searchPath name with
    | some path =>
      output "type" (if isShort then path ++ "\n" else name ++ " is " ++ path ++ "\n") 0
    | none =>
      if !isShort then output "type" (name ++ ": not found\n") 127
      setStatus 127

/-- Carries out a command of the shell that runs no other command. -/
def perform (interpreter : Interpreter) (name : String) (words : List String) : Run Unit := do
  match name with
  | "false" => setStatus 1
  | "echo" => echo words
  | "printf" => printf words
  | "test" => condition "test" words
  | "[" => bracket words
  | "exit" => exitWith words
  | "return" => giveBack words
  | "break" => endLoop "break" .leave words
  | "continue" => endLoop "continue" .again words
  | "cd" => changeDirectory words
  | "pwd" => printDirectory
  | "export" => exportNames words
  | "readonly" => fixNames words
  | "local" => localNames words
  | "unset" => unset words
  | "set" => setOptions words
  | "shift" => shift words
  | "trap" => setTrap words
  | "kill" => kill interpreter words
  | "read" => readValues words
  | "getopts" => nextOption words
  | "type" =>
    succeed
    words.forM fun word => describe word false
  | "umask" => if words.isEmpty then output "umask" "0022\n" 0 else succeed
  | "ulimit" => if words.isEmpty then output "ulimit" "unlimited\n" 0 else succeed
  | "fg" => noJob "fg"
  | "bg" => noJob "bg"
  | _ => succeed

end Builtin

end MipsGloss.Shell
