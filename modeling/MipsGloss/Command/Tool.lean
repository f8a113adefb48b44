import MipsGloss.Shell.Interpreter

namespace MipsGloss

/-! A tool is a program that a command has run for it. It is found by its path, or
by its name in one of the directories of the search path. What it does once it is
started is not decided here. -/

/-- Starts the program at a path, in an environment and with the words that it is
called with, and gives what is left when it has ended. -/
abbrev Starter :=
  Disk → List (String × String) → String → List String →
    Except Shell.LaunchFault Shell.Remains

/-- Why a tool gives no result. -/
inductive ToolFailure where
  | exited (status : Nat)
  | killed (signal : Nat)
  | notStarted (path : String) (fault : Shell.LaunchFault)
  deriving DecidableEq, Repr

namespace ToolFailure

def signalNames : List (Nat × String) :=
  [(1, "hangup"), (2, "interrupt"), (3, "quit"), (4, "illegal instruction"),
   (5, "trace/breakpoint trap"), (6, "aborted"), (7, "bus error"),
   (8, "floating point exception"), (9, "killed"), (10, "user defined signal 1"),
   (11, "segmentation fault"), (12, "user defined signal 2"), (13, "broken pipe"),
   (14, "alarm clock"), (15, "terminated")]

def message : ToolFailure → String
  | .exited status => "exit status " ++ Text.decimal status
  | .killed signal =>
    "signal: " ++ (signalNames.lookup signal).getD ("signal " ++ Text.decimal signal)
  | .notStarted path fault => "fork/exec " ++ path ++ ": " ++ fault.reason

end ToolFailure

/-- What a tool leaves behind: what it wrote, the disk, and why it failed if it
did. -/
structure ToolAnswer where
  output : String
  disk : Disk
  failure : Option ToolFailure

namespace Tool

/-- A directory of the search path with a name behind it. -/
def join (folder name : String) : String :=
  if Place.isAbsolute folder then (Place.resolve [""] (folder ++ "/" ++ name)).text
  else (if folder = "" then "." else folder) ++ "/" ++ name

/-- The path of a tool. One that is found by its name has to be absolute. -/
def path? (disk : Disk) (searchPath tool : String) : Option String :=
  let isExecutable (path : String) : Bool := Shell.Launch.isExecutable disk (Shell.ofDiskText path)
  if tool.toList.contains '/' then if isExecutable tool then some tool else none
  else
    (((searchPath.splitOn ":").map fun folder => join folder tool).find? isExecutable).filter
      Place.isAbsolute

/-- What every tool finds in its environment. -/
def standardEnvironment : List (String × String) :=
  [("HOME", "/root"), ("PATH", Shell.Launch.defaultSearchPath)]

/-- Runs a tool, if there is one. It can change any file, but it cannot lead the
command that runs it to another directory. -/
def run? (start : Starter) (disk : Disk) (environment : List (String × String))
    (tool : String) (arguments : List String) : Option ToolAnswer :=
  let environment := environment ++
    standardEnvironment.filter fun (name, _) => (environment.lookup name).isNone
  match path? disk ((environment.lookup "PATH").getD "") tool with
  | none => none
  | some path =>
    match start disk environment path (path :: arguments) with
    | .error fault => some ⟨"", disk, some (.notStarted path fault)⟩
    | .ok remains =>
      let failure :=
        match remains.ending with
        | .exited 0 => none
        | .exited status => some (.exited status)
        | .killed signal => some (.killed signal)
      some ⟨remains.output, { remains.disk with directory := disk.directory }, failure⟩

end Tool

end MipsGloss
