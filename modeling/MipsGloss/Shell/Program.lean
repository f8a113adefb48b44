import MipsGloss.Shell.Utility.Files
import MipsGloss.Shell.Utility.Grep
import MipsGloss.Shell.Utility.Sed
import MipsGloss.Shell.Utility.Values

namespace MipsGloss.Shell

/-! A program is one of the system or a script. The first line of a script names
the program that it is handed to. -/

def utilities : List (String × Utility) :=
  [("[", Utility.bracket), ("base64", Utility.base64), ("basename", Utility.basename),
   ("cat", Utility.cat), ("chmod", Utility.chmod), ("cp", Utility.cp), ("cut", Utility.cut),
   ("dirname", Utility.dirname), ("echo", Utility.echo), ("expr", Utility.expr),
   ("false", Utility.failing), ("grep", Utility.grep), ("head", Utility.head),
   ("ls", Utility.ls), ("mkdir", Utility.mkdir), ("mv", Utility.mv), ("nl", Utility.nl),
   ("paste", Utility.paste), ("printf", Utility.printf), ("pwd", Utility.pwd),
   ("rev", Utility.rev), ("rm", Utility.rm), ("rmdir", Utility.rmdir), ("sed", Utility.sed),
   ("seq", Utility.seq), ("sleep", Utility.sleep), ("sort", Utility.sort), ("tac", Utility.tac),
   ("tail", Utility.tail), ("tee", Utility.tee), ("test", Utility.test),
   ("touch", Utility.touch), ("tr", Utility.tr), ("true", Utility.succeed),
   ("uniq", Utility.uniq), ("wc", Utility.wc)]

/-- Why a program cannot be started. -/
inductive LaunchFault where
  | missing
  | denied
  | format
  | depth
  | invalid
  deriving DecidableEq, Repr

def LaunchFault.reason : LaunchFault → String
  | .missing => "no such file or directory"
  | .denied => "permission denied"
  | .format => "exec format error"
  | .depth => "too many levels of symbolic links"
  | .invalid => "invalid argument"

/-- A program of the system, by its name there, with the words it is called
with. -/
structure Launch where
  name : String
  words : List String
  deriving DecidableEq, Repr

namespace Launch

/-- The interpreter of a script and the argument it gets, if the first line names
one. -/
def interpreter? (content : String) : Option (String × Option String) :=
  let line := (content.toList.drop 2).takeWhile fun character =>
    character != '\n' && character != '\x00'
  let isBlank (character : Char) : Bool := character == ' ' || character == '\t'
  let trimmed := ((line.dropWhile isBlank).reverse.dropWhile isBlank).reverse
  let (path, rest) := trimmed.span (!isBlank ·)
  let argument := rest.dropWhile isBlank
  if path.isEmpty then none
  else
    some (String.ofList path, if argument.isEmpty then none else some (String.ofList argument))

/-- How deep interpreters can be scripts themselves. -/
def depthLimit : Nat := 6

/-- Starts the program at a path, which is not yet among the words. -/
def ofPath (disk : Disk) : Nat → String → List String → Except LaunchFault Launch
  | 0, _, _ => .error .depth
  | fuel + 1, path, words =>
    match disk.locate (toDiskText path) with
    | .error .missing => .error .missing
    | .error .notDirectory => .error .missing
    | .error .invalid => .error .invalid
    | .error _ => .error .missing
    | .ok place =>
      match disk.entry place with
      | .missing => .error .missing
      | .program name => .ok ⟨name, words⟩
      | .file content =>
        if ['#', '!'].isPrefixOf content.toList then
          match interpreter? (ofDiskText content) with
          | none => .error .format
          | some (interpreter, argument) =>
            ofPath disk fuel interpreter
              (interpreter :: argument.toList ++ path :: words.drop 1)
        else .error .denied
      | _ => .error .denied

/-- Whether there is something at a path that can be run. -/
def isExecutable (disk : Disk) (path : String) : Bool :=
  match disk.look (toDiskText path) with
  | .program _ => true
  | .file content => ['#', '!'].isPrefixOf content.toList
  | _ => false

/-- The paths where a program can be found by its name. -/
def candidates (searchPath name : String) : List String :=
  if name.toList.contains '/' then [name]
  else (searchPath.splitOn ":").map fun folder =>
    if folder = "" then "./" ++ name else folder ++ "/" ++ name

def defaultSearchPath : String :=
  "/usr/local/sbin:/usr/local/bin:/usr/sbin:/usr/bin:/sbin:/bin"

def find? (disk : Disk) (searchPath name : String) : Option String :=
  (candidates searchPath name).find? (isExecutable disk)

end Launch

end MipsGloss.Shell
