import MipsGloss.Shell.Session

namespace MipsGloss.Shell

/-! A utility is a program of the system that a script can call. It sees its
arguments, its input and the disk, and writes to its output and to the stream
for complaints. -/

structure Call where
  /-- The name the program is called by. -/
  program : String
  arguments : List String
  input : String
  /-- Whether the input is a file. -/
  inputIsFile : Bool
  disk : Disk

structure Answer where
  /-- What is written, each piece with its descriptor. -/
  writes : List (Nat × String)
  status : Nat
  disk : Disk
  readsInput : Bool

abbrev Utility := Call → Answer

namespace Call

def answer (call : Call) (text : String) (status : Nat) : Answer :=
  ⟨[(1, text)], status, call.disk, false⟩

def complaint (call : Call) (message : String) : String :=
  call.program ++ ": " ++ message ++ "\n"

/-- Ends with a complaint and nothing else. -/
def refuse (call : Call) (status : Nat) (message : String) : Answer :=
  ⟨[(2, call.complaint message)], status, call.disk, false⟩

def hintFor (name : String) : String :=
  "Try '" ++ name ++ " --help' for more information.\n"

def hint (call : Call) : String := hintFor call.program

/-- Refuses arguments, with a hint where to find out more. -/
def misuse (call : Call) (status : Nat) (message : String) : Answer :=
  ⟨[(2, call.complaint message ++ call.hint)], status, call.disk, false⟩

end Call

def quote (text : String) : String := "'" ++ text ++ "'"

/-- What keeps a path from being used, in the words of the utilities. -/
def description : Obstacle → String
  | .missing => "No such file or directory"
  | .isDirectory => "Is a directory"
  | .notDirectory => "Not a directory"
  | .tooLong => "File name too long"
  | .invalid => "Invalid argument"
  | .noSpace => "No space left on device"
  | .overQuota => "Disk quota exceeded"
  | .tooLarge => "File too large"
  | .damaged => "Input/output error"

/-- Puts a text into a file. There is room for it, except on the device that is full. -/
def store (disk : Disk) (path text : String) : Except Obstacle Disk :=
  match disk.openEmpty path with
  | .error obstacle => .error obstacle
  | .ok (place, disk) =>
    if disk.entry place = .device .full then .error .noSpace else .ok (disk.put place text)

/-! Options begin with a dash and may stand anywhere ahead of a double dash.
Several letters can share a dash, and a value may be joined to its letter. -/

inductive OptionFault where
  | unknown (letter : Char)
  | noValue (letter : Char)
  | unrecognized (argument : String)
  deriving DecidableEq

def OptionFault.message : OptionFault → String
  | .unknown letter => "invalid option -- " ++ quote (String.singleton letter)
  | .noValue letter =>
    "option requires an argument -- " ++ quote (String.singleton letter)
  | .unrecognized argument => "unrecognized option " ++ quote argument

/-- The options and operands of a call. -/
structure Arguments where
  options : List (Char × String)
  operands : List String

namespace Arguments

def has (arguments : Arguments) (letter : Char) : Bool :=
  (arguments.options.lookup letter).isSome

/-- The value of an option, the last one if there are several. -/
def value? (arguments : Arguments) (letter : Char) : Option String :=
  arguments.options.reverse.lookup letter

def values (arguments : Arguments) (letter : Char) : List String :=
  (arguments.options.filter (·.1 == letter)).map (·.2)

end Arguments

/-- The options that a utility knows: letters alone, letters with a value, and
longer names for letters. -/
structure OptionTable where
  flags : List Char
  valued : List Char
  longNames : List (String × Char)

namespace OptionTable

/-- The options in the letters behind a dash, and the one that still lacks its
value. -/
def readLetters (table : OptionTable) :
    List Char → Except OptionFault (List (Char × String) × Option Char)
  | [] => .ok ([], none)
  | letter :: rest =>
    if table.flags.contains letter then
      (table.readLetters rest).map fun (options, last) => ((letter, "") :: options, last)
    else if table.valued.contains letter then
      if rest.isEmpty then .ok ([], some letter)
      else .ok ([(letter, String.ofList rest)], none)
    else .error (.unknown letter)

def readLong (table : OptionTable) (argument : String) :
    Except OptionFault (List (Char × String) × Option Char) :=
  let characters := argument.toList.drop 2
  let name := String.ofList (characters.takeWhile (· != '='))
  match table.longNames.lookup name, characters.dropWhile (· != '=') with
  | some letter, _ :: value => .ok ([(letter, String.ofList value)], none)
  | some letter, [] =>
    if table.valued.contains letter then .ok ([], some letter)
    else .ok ([(letter, "")], none)
  | none, _ => .error (.unrecognized argument)

def readFrom (table : OptionTable) (waiting : Option Char) :
    List String → Except OptionFault Arguments
  | [] =>
    match waiting with
    | some letter => .error (.noValue letter)
    | none => .ok ⟨[], []⟩
  | argument :: rest =>
    match waiting with
    | some letter =>
      (table.readFrom none rest).map fun arguments =>
        { arguments with options := (letter, argument) :: arguments.options }
    | none =>
      let characters := argument.toList
      if argument = "--" then .ok ⟨[], rest⟩
      else if characters.head? != some '-' || characters.length < 2 then
        (table.readFrom none rest).map fun arguments =>
          { arguments with operands := argument :: arguments.operands }
      else
        let options :=
          if ['-', '-'].isPrefixOf characters then table.readLong argument
          else table.readLetters (characters.drop 1)
        match options with
        | .error fault => .error fault
        | .ok (options, waiting) =>
          (table.readFrom waiting rest).map fun arguments =>
            { arguments with options := options ++ arguments.options }

end OptionTable

namespace Call

/-- Reads the arguments of a call and goes on with them, or refuses them. -/
def withArguments (call : Call) (table : OptionTable) (status : Nat)
    (goOn : Arguments → Answer) : Answer :=
  match table.readFrom none call.arguments with
  | .ok arguments => goOn arguments
  | .error fault => call.misuse status fault.message

/-! Most utilities read the files they are given, or else their input. -/

/-- A file by its name, or the input by the name of a dash. -/
def content (call : Call) (path : String) : Except Obstacle String :=
  if path = "-" then .ok call.input
  else (call.disk.read (toDiskText path)).map ofDiskText

def paths (operands : List String) : List String := if operands.isEmpty then ["-"] else operands

/-- Puts the outcomes for several files together. Any complaint makes the call a
failure. -/
def each (call : Call) (operands : List String) (status : Nat)
    (work : String → Except String String) : Answer :=
  let results := (paths operands).map work
  { writes := results.map fun
      | .ok text => (1, text)
      | .error message => (2, call.complaint message)
    status := if results.all fun
      | .ok _ => true
      | .error _ => false then 0 else status
    disk := call.disk
    readsInput := (paths operands).contains "-" }

/-- Works on everything that is read, once all of it is there. -/
def whole (call : Call) (operands : List String) (status : Nat)
    (describe : String → Obstacle → String) (work : String → String) : Answer :=
  let results := (paths operands).map fun path => (path, call.content path)
  let complaints := results.filterMap fun
    | (path, .error obstacle) => some (2, call.complaint (describe path obstacle))
    | (_, .ok _) => none
  let text := String.join (results.map fun
    | (_, .ok text) => text
    | (_, .error _) => "")
  { writes := complaints ++ [(1, work text)]
    status := if complaints.isEmpty then 0 else status
    disk := call.disk
    readsInput := (paths operands).contains "-" }

def plainly (path : String) (obstacle : Obstacle) : String :=
  path ++ ": " ++ description obstacle

end Call

/-! Lines of a text are counted with their newlines, which the last one may
lack. -/

def linesOf (text : String) : List String := (Text.lines text.toList).map String.ofList

def unlines (lines : List String) : String := String.join (lines.map (· ++ "\n"))

/-- The characters of the first few lines. -/
def takeLines : Nat → List Char → List Char
  | 0, _ => []
  | count + 1, characters =>
    match characters.dropWhile (· != '\n') with
    | [] => characters
    | newline :: rest => characters.takeWhile (· != '\n') ++ newline :: takeLines count rest

def lineCount (characters : List Char) : Nat := (Text.lines characters).length

end MipsGloss.Shell
