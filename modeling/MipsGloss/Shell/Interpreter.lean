import MipsGloss.Shell.Builtin
import MipsGloss.Shell.Redirection

namespace MipsGloss.Shell

namespace Interpreter

open Run

/-! Whether a failure ends the script depends on whether anything looks at it. -/

/-- Runs something whose failure is looked at. -/
def examined (body : Run Unit) : Run Unit := do
  let tested := (← get).tested
  modify fun session => { session with tested := true }
  settle body fun session => { session with tested }

/-- Ends the script after a failure, if that was asked for. -/
def checkFailure : Run Unit := do
  let session ← get
  if session.status ≠ 0 && !session.tested && session.options.contains 'e' then throw .exit

/-! A script is read and run line by line, so that what a line says can change how
the next ones are run. -/

def syntaxFault {α : Type} (fault : Fault) : Run α := do
  modify fun session => { session with line := fault.line }
  abort fault.message

/-- The fuel bounds the number of lines. -/
def runLines (interpreter : Interpreter) : Nat → Cursor → Run Unit
  | 0, _ => return ()
  | fuel + 1, cursor => do
    match readLine.run cursor with
    | .error fault => syntaxFault fault
    | .ok (none, _) => return ()
    | .ok (some command, behind) =>
      modify fun session =>
        { session with documents := behind.documents, nextLine := behind.line }
      if ← hasOption 'v' then
        let passed := cursor.rest.take (cursor.rest.length - behind.rest.length)
        let _ ← write 2 (String.ofList passed)
      interpreter.run command
      runLines interpreter fuel { behind with documents := (← get).documents }

def runSource (interpreter : Interpreter) (source : List Char) (line : Nat) : Run Unit := do
  let documents := (← get).documents
  runLines interpreter (source.length + 1) ⟨source, line, none, [], documents⟩

/-! Programs are run as processes of their own. -/

/-- Runs a body as a process. A signal that ends it does not end the script. -/
def asProcess (body : Run Unit) : Run Unit := do
  match ← outcome (isolate body) with
  | some (.killed signal) =>
    let epitaph := Signal.epitaph signal
    if epitaph != "" then
      let _ ← write 2 (epitaph ++ "\n")
    setStatus (128 + signal)
  | _ => return ()

def runUtility (utility : Utility) (words : List String) : Run Unit := do
  let session ← get
  let program := words.headD ""
  let (input, isFile) :=
    match session.channels.lookup 0 with
    | some (.source number isFile) => (String.ofList (session.sources[number]?.getD []), isFile)
    | some (.device device) => (device.content, false)
    | _ => ("", false)
  let answer := utility ⟨program, words.drop 1, input, isFile, session.disk⟩
  if answer.readsInput then
    let _ ← readAll 0
  modify fun session => { session with disk := answer.disk, status := answer.status }
  let failed ← answer.writes.foldlM (fun failed (descriptor, text) => do
    let written ← write descriptor text
    return failed || !written) false
  if failed then
    let _ ← write 2 (program ++ ": write error: No space left on device\n")
    setStatus 1

/-- The options that a shell is called with, and the arguments behind them. -/
def shellOptions (options : List Char) : List String → Except String (List Char × List String)
  | [] => .ok (options, [])
  | word :: rest =>
    match word.toList with
    | ['-'] => .ok (options, rest)
    | ['-', '-'] => .ok (options, rest)
    | '-' :: letters =>
      match letters.find? fun letter => !(('c' :: Builtin.knownOptions).contains letter) with
      | some letter => .error ("Illegal option -" ++ String.singleton letter)
      | none => shellOptions (options ++ letters) rest
    | _ => .ok (options, word :: rest)

/-- Makes a session that of a new shell, which has nothing but the environment and
the open descriptors of the old one. -/
def renew (dialect : Dialect) (name : String) (session : Session) : Session :=
  { session with
    dialect
    name
    arguments := []
    values :=
      let own := [("IFS", " \t\n"), ("OPTIND", "1"), ("PS4", "+ "),
        ("PWD", ofDiskText (Place.text session.disk.directory))]
      own ++ session.values.filter fun (name, _) =>
        session.exported.contains name && (own.lookup name).isNone
    fixed := []
    functions := []
    traps := []
    options := []
    status := 0
    substituted := none
    line := 0
    nextLine := 1
    command := none
    letters := 0
    scopes := []
    loops := 0
    tested := false }

/-- Runs a shell, which gets its commands from an argument, a file or its input. -/
def runShell (interpreter : Interpreter) (dialect : Dialect) (words : List String) :
    Run Unit := do
  let program := words.headD ""
  modify (renew dialect program)
  match shellOptions [] (words.drop 1) with
  | .error message => abort message
  | .ok (options, rest) =>
    modify fun session => { session with options := options.filter (· != 'c') }
    if options.contains 'c' then
      match rest with
      | [] => abort "-c requires an argument"
      | source :: rest =>
        modify fun session =>
          { session with name := rest.headD program, arguments := rest.drop 1 }
        interpreter.finish (interpreter.runText source.toList 1)
    else
      match if options.contains 's' then none else rest.head? with
      | none =>
        modify fun session => { session with arguments := rest }
        let source ← readAll 0
        interpreter.finish (interpreter.runText source.toList 1)
      | some path =>
        match (← get).disk.read (toDiskText path) with
        | .error .isDirectory => setStatus 0
        | .error obstacle =>
          abort ("cannot open " ++ path ++ ": " ++ Redirection.openReason obstacle)
        | .ok content =>
          modify fun session => { session with name := path, arguments := rest.drop 1 }
          interpreter.finish (interpreter.runText (ofDiskText content).toList 1)

/-- The environment of a program that is run with changes to it: the changes, and
the words behind them. -/
def environmentChanges : List String → List (String × Option String) × List String
  | [] => ([], [])
  | word :: rest =>
    match Builtin.splitAssignment word with
    | (name, some value) =>
      let (changes, words) := environmentChanges rest
      ((name, some value) :: changes, words)
    | (_, none) => ([], word :: rest)

/-- What the options say about the environment. -/
def environmentOptions (session : Session) :
    List String → Except String (Session × List String)
  | "-i" :: rest => environmentOptions { session with values := [], exported := [] } rest
  | "-" :: rest => environmentOptions { session with values := [], exported := [] } rest
  | "-u" :: name :: rest => environmentOptions (session.restore [(name, none)]) rest
  | "-S" :: text :: rest => .ok (session, (text.splitOn " ").filter (· != "") ++ rest)
  | "--" :: rest => .ok (session, rest)
  | word :: rest =>
    match word.toList with
    | '-' :: 'S' :: text =>
      .ok (session, ((String.ofList text).splitOn " ").filter (· != "") ++ rest)
    | '-' :: letter :: _ =>
      .error ("invalid option -- " ++ quote (String.singleton letter))
    | _ => .ok (session, word :: rest)
  | [] => .ok (session, [])

/-- Where a variable stands among the others. -/
def variableOrder (name : String) : Nat :=
  let codes := name.toList.map Char.toNat
  (codes.headD 0 * 16 + codes.foldl (· + ·) 0) % 39

/-- The lines that show an environment: variables of the shell in its order, and
those that were added to it behind them. -/
def environmentText (session : Session) (changes : List (String × Option String)) : String :=
  let added := changes.map (·.1)
  let inherited := (session.values.reverse.filter fun (name, _) =>
    session.exported.contains name && !added.contains name).mergeSort
      fun left right => variableOrder left.1 ≤ variableOrder right.1
  let shown := inherited ++ changes.map fun (change : String × Option String) =>
    (change.1, change.2.getD "")
  unlines (shown.map fun (name, value) => name ++ "=" ++ value)

/-- Runs a program of the system. A program that runs another one does so through
`others`, which is given the name of the program and its words. -/
def runNamed (interpreter : Interpreter) (others : String → List String → Run Unit)
    (name : String) (words : List String) : Run Unit := do
  let program := words.headD ""
  match name with
  | "sh" => runShell interpreter .small words
  | "dash" => runShell interpreter .small words
  | "bash" => runShell interpreter .large words
  | "env" =>
    match environmentOptions (← get) (words.drop 1) with
    | .error message =>
      let _ ← write 2 (program ++ ": " ++ message ++ "\n" ++
        "Try '" ++ program ++ " --help' for more information.\n")
      setStatus 125
    | .ok (session, words) =>
      let (changes, words) := environmentChanges words
      let exported := (changes.map (·.1) ++ session.exported).eraseDups
      set { session.restore changes with exported }
      match words with
      | [] =>
        let _ ← write 1 (environmentText (← get) changes)
        setStatus 0
      | name :: _ =>
        let session ← get
        let searchPath := (session.values.lookup "PATH").getD Launch.defaultSearchPath
        let path := (Launch.find? session.disk searchPath name).getD name
        match Launch.ofPath session.disk Launch.depthLimit path words with
        | .ok launch => others launch.name launch.words
        | .error fault =>
          let reason := if fault = .denied then "Permission denied"
            else "No such file or directory"
          let _ ← write 2 (program ++ ": " ++ quote name ++ ": " ++ reason ++ "\n")
          setStatus (if fault = .denied then 126 else 127)
  | _ =>
    match utilities.lookup name with
    | some utility => runUtility utility words
    | none => setStatus 127

/-- Runs a program of the system. The fuel bounds how often one runs another in its
place. -/
def runLaunch (interpreter : Interpreter) : Nat → String → List String → Run Unit
  | 0, _, _ => setStatus 126
  | fuel + 1, name, words => runNamed interpreter (runLaunch interpreter fuel) name words

/-- Finds a program by the first of some words and runs it with them, in the way
that is given. -/
def runProgram (interpreter : Interpreter) (words : List String) (way : Run Unit → Run Unit) :
    Run Unit := do
  let session ← get
  let name := words.headD ""
  let searchPath := (session.values.lookup "PATH").getD Launch.defaultSearchPath
  let fail (reason : String) (status : Nat) : Run Unit := do
    complain (name ++ ": " ++ reason)
    setStatus status
  let path? :=
    if name.toList.contains '/' then some name
    else Launch.find? session.disk searchPath name
  match path? with
  | none =>
    let reason := if session.dialect = .large then "command not found" else "not found"
    fail (if name = "" then "Permission denied" else reason) 127
  | some path =>
    match Launch.ofPath session.disk Launch.depthLimit path words with
    | .ok launch => way (runLaunch interpreter Launch.depthLimit launch.name launch.words)
    | .error .format => way (runShell interpreter session.dialect ("sh" :: path :: words.drop 1))
    | .error .denied => fail "Permission denied" 126
    | .error _ => fail "not found" 127

/-! Some commands of the shell run others. -/

/-- Runs the commands in a file, which can give back a status. -/
def runFile (interpreter : Interpreter) (words : List String) : Run Unit := do
  match words with
  | [] => Builtin.fault "." "not enough arguments"
  | path :: _ =>
    let session ← get
    let searchPath := (session.values.lookup "PATH").getD Launch.defaultSearchPath
    let candidates := Launch.candidates searchPath path
    match candidates.find? fun path => (session.disk.look (toDiskText path)) matches .file _ with
    | none =>
      if path.toList.contains '/' then
        Builtin.fault "." ("cannot open " ++ path ++ ": No such file")
      else Builtin.fault "." (path ++ ": not found")
    | some path =>
      let content := (session.disk.read (toDiskText path)).toOption.getD ""
      set { session with command := some path, status := 0 }
      match ← outcome (interpreter.runText (ofDiskText content).toList 1) with
      | none => return ()
      | some .finish => return ()
      | some stop => throw stop

/-- Goes on as another program. -/
def become (interpreter : Interpreter) (words : List String) : Run Unit := do
  match words with
  | [] => setStatus 0
  | words =>
    runProgram interpreter words fun body => do
      modify fun session => { session with traps := [] }
      body
      throw .exit
    throw .exit

/-- Runs a command of the shell. -/
def runBuiltin (interpreter : Interpreter) (name : String) (words : List String) : Run Unit := do
  let before := (← get).command
  modify fun session => { session with command := some name }
  let body : Run Unit :=
    match name with
    | "eval" => do
      let source := (" ".intercalate words).toList
      if source.all Fields.isSpace then setStatus 0 else interpreter.runText source 1
    | "." => runFile interpreter words
    | "exec" => become interpreter words
    | _ => Builtin.perform interpreter name words
  settle body fun session => { session with command := before }

/-- Runs a command that is no function. -/
def runPlain (interpreter : Interpreter) (words : List String) : Run Unit := do
  match words with
  | [] => setStatus 0
  | name :: rest =>
    if Builtin.nameList.contains name then runBuiltin interpreter name rest
    else runProgram interpreter words asProcess

/-- Runs a command past the functions, or says what it stands for. -/
def runCommandWords (interpreter : Interpreter) (words : List String) : Run Unit := do
  match words with
  | "-v" :: rest =>
    match rest with
    | [] => setStatus 0
    | name :: _ => Builtin.describe name true
  | "-V" :: rest =>
    match rest with
    | [] => setStatus 0
    | name :: _ => Builtin.describe name false
  | "-p" :: rest => runPlain interpreter rest
  | "--" :: rest => runPlain interpreter rest
  | word :: rest =>
    match word.toList with
    | '-' :: letter :: _ =>
      modify fun session => { session with command := some "command" }
      complain ("Illegal option -" ++ String.singleton letter)
      modify fun session => { session with command := none, status := 2 }
    | _ => runPlain interpreter ((word :: rest).dropWhile (· == "command"))
  | [] => setStatus 0

/-- How deep functions can call each other. -/
def callLimit : Nat := 1000

/-- Calls a function, which has arguments and local variables of its own. -/
def call (interpreter : Interpreter) (body : Command) (arguments : List String) : Run Unit := do
  let before ← get
  if before.scopes.length ≥ callLimit then
    abort ("Maximum function recursion depth (" ++ Text.decimal callLimit ++ ") reached")
  set { before with arguments, scopes := [] :: before.scopes, loops := 0 }
  let body : Run Unit := do
    match ← outcome (interpreter.run body) with
    | none => return ()
    | some .finish => return ()
    | some stop => throw stop
  settle body fun session =>
    { session.restore (session.scopes.headD []) with
      arguments := before.arguments
      scopes := before.scopes
      loops := before.loops }

def runWords (interpreter : Interpreter) (words : List String) : Run Unit := do
  match words with
  | [] => setStatus 0
  | name :: rest =>
    match (← get).functions.lookup name with
    | some body => call interpreter body rest
    | none =>
      if name = "command" then runCommandWords interpreter rest
      else runPlain interpreter words

/-! A simple command is made of words, redirections and assignments, which are
looked at in this order. -/

/-- The words of a command, where those behind some names can assign. -/
def argumentsOf (interpreter : Interpreter) (words : List Word) : Run (List String) := do
  let name := ((words.head?.bind bareText?).getD "")
  if ["export", "local", "readonly"].contains name then
    words.foldlM (fun found word => do
      match assignment? word with
      | some (name, value) =>
        return found ++ [name ++ "=" ++ (← Expansion.value interpreter value)]
      | none => return found ++ (← Expansion.fields interpreter [word])) []
  else Expansion.fields interpreter words

def assignAll (interpreter : Interpreter) (assignments : List (String × Word)) :
    Run (List (String × String)) :=
  assignments.mapM fun (name, word) => do
    let value ← Expansion.value interpreter word
    assign name value
    return (name, value)

/-- Writes a command down before it is run, if that was asked for. -/
def trace (channel : Option Channel) (assignments : List (String × String))
    (words : List String) : Run Unit := do
  if ← hasOption 'x' then
    let mark := ((← get).values.lookup "PS4").getD "+ "
    let parts := assignments.map (fun (name, value) => name ++ "=" ++ value) ++ words
    let _ ← send channel (mark ++ " ".intercalate parts ++ "\n")

/-- Runs a body with assignments that end with it. -/
def assigned (interpreter : Interpreter) (assignments : List (String × Word))
    (body : List (String × String) → Run Unit) : Run Unit := do
  let before ← get
  let names := assignments.map (·.1)
  let saved := names.map fun name => (name, before.values.lookup name)
  let values ← assignAll interpreter assignments
  modify fun session => { session with exported := (names ++ session.exported).eraseDups }
  if assignments.isEmpty then body values
  else
    settle (body values) fun session =>
      { session.restore saved with exported := before.exported }

def runSimple (interpreter : Interpreter) (line : Nat) (assignments : List (String × Word))
    (words : List Word) (redirections : List Redirection) : Run Unit := do
  modify fun session => { session with line, substituted := none }
  let words ← argumentsOf interpreter words
  let channel := (← get).channels.lookup 2
  match words with
  | [] =>
    Redirection.around interpreter redirections (return ()) do
      let values ← assignAll interpreter assignments
      trace channel values []
      setStatus ((← get).substituted.getD 0)
  | ["exec"] =>
    let values ← assignAll interpreter assignments
    match ← Redirection.performAll interpreter redirections with
    | some message => abort message
    | none =>
      trace channel values words
      setStatus 0
  | name :: _ =>
    if specialCommands.contains name then
      Redirection.around interpreter redirections (throw .exit) do
        let values ← assignAll interpreter assignments
        trace channel values words
        runWords interpreter words
    else
      Redirection.around interpreter redirections (return ())
        (assigned interpreter assignments fun values => do
          trace channel values words
          runWords interpreter words)
  checkFailure

/-! Compound commands. -/

/-- Runs commands that write to the next one of them. The status is that of the
last one, or of the last one that fails where all are looked at. -/
def runPipeline (interpreter : Interpreter) (failure : Nat) : List Command → Run Unit
  | [] => return ()
  | [command] => do
    interpreter.apart (interpreter.run command)
    if (← get).status = 0 && (← hasOption Builtin.pipelineOption) then setStatus failure
  | command :: rest => do
    let (number, channel) ← addSink
    interpreter.apart do
      connect 1 channel
      interpreter.run command
    let session ← get
    let failure := if session.status = 0 then failure else session.status
    let source ← addSource (session.sinks[number]?.getD "") false
    let channels := (← get).channels
    connect 0 source
    settle (runPipeline interpreter failure rest) fun session => { session with channels }

/-- A turn of a loop. Gives whether the loop goes on behind it. -/
def turn (body : Run Bool) : Run Bool := do
  match ← ExceptT.lift body.run with
  | .ok goesOn => return goesOn
  | .error (.leave (count + 2)) => throw (.leave (count + 1))
  | .error (.leave _) => return false
  | .error (.again (count + 2)) => throw (.again (count + 1))
  | .error (.again _) => return true
  | .error stop => throw stop

def insideLoop (body : Run Unit) : Run Unit := do
  let loops := (← get).loops
  modify fun session => { session with loops := loops + 1 }
  settle body fun session => { session with loops }

/-- The most turns that a loop takes. -/
def turnLimit : Nat := 10000000

/-- Takes turns as long as the condition says so. The status is that of the last
turn. -/
def repeatWhile (interpreter : Interpreter) (whileFailing : Bool) (condition body : Command) :
    Nat → Nat → Run Unit
  | 0, status => setStatus status
  | fuel + 1, status => do
    let goesOn ← turn do
      examined (interpreter.run condition)
      let holds := (← get).status == 0
      if holds != whileFailing then
        interpreter.run body
        return true
      else
        setStatus status
        return false
    if goesOn then repeatWhile interpreter whileFailing condition body fuel (← get).status

def repeatEach (interpreter : Interpreter) (name : String) (body : Command) :
    List String → Run Unit
  | [] => return ()
  | value :: rest => do
    let goesOn ← turn do
      assign name value
      interpreter.run body
      return true
    if goesOn then repeatEach interpreter name body rest

/-- The commands behind the first pattern that matches. -/
def selectArm (interpreter : Interpreter) (text : List Char) :
    List (List Word × Command) → Run (Option Command)
  | [] => return none
  | (patterns, body) :: rest => do
    let found ← patterns.foldlM (fun found word => do
      if found then return true
      else return Pattern.accepts (← Expansion.pattern interpreter word) text) false
    if found then return some body else selectArm interpreter text rest

def runCommand (interpreter : Interpreter) (command : Command) : Run Unit := do
  if ← hasOption 'n' then return ()
  match command with
  | .simple line assignments words redirections =>
    runSimple interpreter line assignments words redirections
  | .pipeline commands =>
    runPipeline interpreter 0 commands
    checkFailure
  | .negation command =>
    examined (interpreter.run command)
    modify fun session => { session with status := if session.status = 0 then 1 else 0 }
  | .both first second =>
    examined (interpreter.run first)
    if (← get).status = 0 then interpreter.run second
  | .either first second =>
    examined (interpreter.run first)
    if (← get).status ≠ 0 then interpreter.run second
  | .sequence commands => commands.forM interpreter.run
  | .background command =>
    interpreter.apart do
      modify fun session => { session with tested := false }
      connect 0 (.device .null)
      interpreter.run command
    setStatus 0
  | .choice condition positive negative =>
    examined (interpreter.run condition)
    if (← get).status = 0 then interpreter.run positive
    else
      match negative with
      | some negative => interpreter.run negative
      | none => setStatus 0
  | .loop whileFailing condition body =>
    insideLoop (repeatWhile interpreter whileFailing condition body turnLimit 0)
  | .each line name values body =>
    modify fun session => { session with line }
    let values ←
      match values with
      | some words => Expansion.fields interpreter words
      | none => pure (← get).arguments
    setStatus 0
    insideLoop (repeatEach interpreter name body values)
  | .select line word arms =>
    modify fun session => { session with line }
    let text ← Expansion.text interpreter word
    match ← selectArm interpreter text.toList arms with
    | some body =>
      match body with
      | .sequence [] => setStatus 0
      | body => interpreter.run body
    | none => setStatus 0
  | .subshell command =>
    interpreter.apart (interpreter.run command)
    checkFailure
  | .redirected line command redirections =>
    modify fun session => { session with line }
    Redirection.around interpreter redirections (return ()) (interpreter.run command)
  | .define name body =>
    modify fun session =>
      { session with
        functions := (name, body) :: session.functions.filter (·.1 != name)
        status := 0 }

/-- What runs the parts of a script. The fuel bounds how deep they can stand inside
of each other, calls of functions included. -/
def ofFuel : Nat → Interpreter
  | 0 => ⟨fun _ => exit 2, fun _ => exit 2, fun _ _ => exit 2⟩
  | fuel + 1 =>
    let inner := ofFuel fuel
    ⟨runCommand inner, Expansion.ofWord inner, runSource inner⟩

end Interpreter

/-! A program that is started from outside of any script. -/

/-- How a program ends. -/
inductive Ending where
  | exited (status : Nat)
  | killed (signal : Nat)
  deriving DecidableEq

/-- What a program leaves behind. -/
structure Remains where
  output : String
  ending : Ending
  disk : Disk

/-- The deepest that the parts of a script can stand inside of each other. -/
def nestingLimit : Nat := 20000

/-- A session ahead of its first command. It reads nothing, and what it writes is
collected in one sink. -/
def Session.start (disk : Disk) (environment : List (String × String)) : Session :=
  { dialect := .small
    name := ""
    arguments := []
    values := environment
    exported := environment.map (·.1)
    fixed := []
    functions := []
    traps := []
    options := []
    status := 0
    substituted := none
    line := 0
    nextLine := 1
    command := none
    letters := 0
    channels := [(0, .device .null), (1, .sink 0), (2, .sink 0)]
    sources := []
    sinks := [""]
    documents := []
    scopes := []
    loops := 0
    tested := false
    disk }

/-- Runs the program at a path with some words, the first of which is the name that
it is called by. -/
def runAt (disk : Disk) (environment : List (String × String)) (path : String)
    (words : List String) : Except LaunchFault Remains :=
  let words := words.map ofDiskText
  if words.any (·.toList.contains '\x00') then .error .invalid
  else
    match Launch.ofPath disk Launch.depthLimit (ofDiskText path) words with
    | .error fault => .error fault
    | .ok launch =>
      let start := Session.start disk
        (environment.map fun (name, value) => (ofDiskText name, ofDiskText value))
      let interpreter := Interpreter.ofFuel nestingLimit
      let body := Interpreter.runLaunch interpreter Launch.depthLimit launch.name launch.words
      let (result, session) := body.run start
      .ok {
        output := toDiskText (session.sinks.headD "")
        ending := match result with
          | .error (.killed signal) => .killed signal
          | _ => .exited (session.status % 256)
        disk := (Run.afterSubshell start session).disk }

end MipsGloss.Shell
