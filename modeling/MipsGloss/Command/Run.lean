import MipsGloss.Command.Flag
import MipsGloss.Command.Host
import MipsGloss.Command.Listen
import MipsGloss.Profile.Document

namespace MipsGloss

/-! The four commands. A command reads its flags, the profile and its input,
and either writes everything at the end or fails. -/

inductive Command where
  | explain
  | listing
  | registers
  | serve
  deriving DecidableEq, Repr

namespace Command

def ofName? (name : String) : Option Command :=
  [("explain", Command.explain), ("listing", .listing), ("registers", .registers),
   ("serve", .serve)].lookup name

def profileFlag : Flag := ⟨"profile", some "MIPS_EXPLAIN_PROFILE", false, none⟩

def modeFlag : Flag := ⟨"mode", some "MIPS_EXPLAIN_MODE", false, none⟩

def formatFlag : Flag := ⟨"format", some "MIPS_EXPLAIN_FORMAT", false, none⟩

def logLevelFlag : Flag := ⟨"log-level", some "MIPS_EXPLAIN_LOG_LEVEL", false, none⟩

def outputFlag : Flag := ⟨"report-output-path", some "MIPS_EXPLAIN_OUTPUT", false, none⟩

def listenFlag : Flag := ⟨"listen", some "MIPS_EXPLAIN_LISTEN", false, none⟩

def littleEndianFlag : Flag :=
  ⟨"little-endian", some "MIPS_EXPLAIN_LITTLE_ENDIAN", true, none⟩

def binaryFlag : Flag := ⟨"binary", none, true, none⟩

def toolFlag : Flag := ⟨"objdump", some "MIPS_EXPLAIN_OBJDUMP", false, none⟩

def disassemblyFlag : Flag := ⟨"disassembly-output-path", none, false, none⟩

/-- Every command can be asked for help. -/
def helpFlag : Flag := ⟨"help", none, true, some "h"⟩

def flags : Command → List Flag
  | .explain =>
    [profileFlag, modeFlag, formatFlag, logLevelFlag, outputFlag] ++ [helpFlag]
  | .listing =>
    [profileFlag, formatFlag, logLevelFlag, outputFlag, littleEndianFlag,
     binaryFlag, toolFlag, disassemblyFlag] ++ [helpFlag]
  | .registers => [profileFlag, formatFlag] ++ [helpFlag]
  | .serve => [profileFlag, modeFlag, logLevelFlag, listenFlag] ++ [helpFlag]

end Command

/-- Why a command fails. -/
inductive CommandError where
  | unknown (name : String)
  | flag (error : FlagError)
  | profile (error : Profile.Error)
  | setting (error : SettingError)
  | noInstruction
  | noListing
  | explain (text : String) (error : ExplainError)
  | listingFile (error : FileError)
  | listingDirectory (path : String)
  | listing (error : Listing.Error)
  | toolMissing (tool : String)
  | toolFailed (failure : ToolFailure) (output : String)
  | disassemblyFile (error : FileError)
  | disassembly (error : Listing.Error)
  | reportFile (error : FileError)
  | standardOutput (error : FileError)
  | listen (error : ListenError)
  deriving DecidableEq, Repr

def CommandError.message : CommandError → String
  | .unknown name => "No help topic for '" ++ name ++ "'"
  | .flag error => error.message
  | .profile error => "error loading profile: " ++ error.message
  | .setting error => error.message
  | .noInstruction => "no instruction given"
  | .noListing => "no listing given"
  | .explain text error =>
    "unable to explain " ++ Text.quote text ++ ": " ++ error.message
  | .listingFile error =>
    "error parsing listing: error opening file: " ++ error.message
  | .listingDirectory path =>
    "error parsing listing: error reading listing: read " ++ path ++
      ": is a directory"
  | .listing error => "error parsing listing: " ++ error.message
  | .toolMissing tool =>
    "error disassembling the file: disassembler tool not found: " ++ tool
  | .toolFailed failure output =>
    "error disassembling the file: failed to generate binary disassembly: " ++
      failure.message ++ "\nOutput:\n" ++ output
  | .disassemblyFile error =>
    "error disassembling the file: failed to write to output file: " ++ error.message
  | .disassembly error => "error parsing disassembly: " ++ error.message
  | .reportFile error =>
    "unable to write report: " ++
      (if error.isOpened then "" else "unable to open output file: ") ++ error.message
  | .standardOutput error => error.message
  | .listen error => error.message

/-- What a command leaves behind: the text on its standard output, the disk, and
whether it succeeded. -/
structure Outcome where
  output : String
  disk : Disk
  result : Except CommandError Unit

namespace Outcome

def failure (disk : Disk) (error : CommandError) : Outcome :=
  { output := "", disk, result := .error error }

def success (disk : Disk) (output : String) : Outcome :=
  { output, disk, result := .ok () }

/-- The outcome of a write to standard output, of which some was taken. -/
def ofOutput (disk : Disk) (fault : FileError → CommandError) :
    String × Option Obstacle → Outcome
  | (output, none) => .success disk output
  | (output, some obstacle) =>
    { output, disk, result := .error (fault ⟨true, "/dev/stdout", obstacle⟩) }

end Outcome

namespace Command

def loadProfile (disk : Disk) (path : String) : Except CommandError Profile :=
  if path = "" then .ok Profile.standard
  else
    match disk.read path with
    | .error .isDirectory => .error (.profile .malformed)
    | .error obstacle => .error (.profile (.unreadable path obstacle.reason))
    | .ok content =>
      match Profile.ofText path content with
      | .error error => .error (.profile error)
      | .ok profile => .ok profile

/-- The settings that flags can replace. -/
def overrides : List (Profile.Setting × String) :=
  [(.mode, "mode"), (.format, "format"), (.logLevel, "log-level"),
   (.listen, "listen")]

/-- The settings that an invocation replaces, in some order, with their values. -/
def changes (order : List (Profile.Setting × String)) (invocation : Invocation) :
    List (Profile.Setting × String) :=
  order.filterMap fun (setting, name) =>
    (invocation.value? name).map fun value => (setting, value)

/-- The profile of a command: the file, which has to be valid by itself, and then the
flags, applied in some order. -/
def profileIn (order : List (Profile.Setting × String)) (disk : Disk)
    (invocation : Invocation) : Except CommandError Profile :=
  match loadProfile disk (invocation.text "profile") with
  | .error error => .error error
  | .ok profile =>
    match (profile.replace (changes order invocation)).validate with
    | .error error => .error (.setting error)
    | .ok profile => .ok profile

def profile (disk : Disk) (invocation : Invocation) : Except CommandError Profile :=
  profileIn overrides disk invocation

/-- Writes reports to the given file, or to standard output where no file is given.
Without anything to tell, nothing is written. -/
def writeReports (host : Host) (disk : Disk) (profile : Profile) (path : String)
    (reports : List Report) : Outcome :=
  let rendering := (Rendering.ofName? profile.format).getD .text
  let style : PageStyle := ⟨profile.registerMark, false⟩
  let text := rendering.render style (some reports)
  let text? := if text = "" then none else some text
  if path = "" then .ofOutput disk .reportFile (host.write disk .output text?)
  else
    match host.save disk (Place.resolve disk.directory path).text text? with
    | (disk, none) => .success disk ""
    | (disk, some error) => .failure disk (.reportFile error)

def runExplain (host : Host) (disk : Disk) (invocation : Invocation) (profile : Profile) :
    Outcome :=
  let text := " ".intercalate invocation.arguments
  if Text.trim text = "" then .failure disk .noInstruction
  else
    let mode := (Mode.ofName? profile.mode).getD .assembly
    match Report.explain Lexicon.standard mode text with
    | .error error => .failure disk (.explain text error)
    | .ok report =>
      writeReports host disk profile (invocation.text "report-output-path") [report]

/-! A listing comes from a file, or from a disassembler that is run on one. -/

def defaultTool : String := "llvm-objdump"

/-- The disassembler to use where the given one may be empty. -/
def toolOrDefault (tool : String) : String :=
  if tool = "" then defaultTool else tool

/-- Runs a disassembler on a file and keeps what it did to the disk. Its output is
kept in a file of its own, if one is asked for, once the disassembler has
succeeded. -/
def disassemble (host : Host) (disk : Disk) (environment : List (String × String))
    (tool source path : String) : Disk × Except CommandError String :=
  let target := (Place.resolve disk.directory source).text
  match Tool.run? host.start disk environment tool ["-d", target] with
  | none => (disk, .error (.toolMissing tool))
  | some answer =>
    match answer.failure with
    | some failure => (answer.disk, .error (.toolFailed failure answer.output))
    | none =>
      if path = "" then (answer.disk, .ok answer.output)
      else
        match host.save answer.disk (Place.resolve disk.directory path).text
            (some answer.output) with
        | (disk, none) => (disk, .ok answer.output)
        | (disk, some error) => (disk, .error (.disassemblyFile error))

def readListing (disk : Disk) (order : Listing.ByteOrder) (source : String) :
    Except CommandError (List Listing.Block) :=
  let path := (Place.resolve disk.directory source).text
  match disk.read path with
  | .error .isDirectory => .error (.listingDirectory path)
  | .error obstacle => .error (.listingFile ⟨false, path, obstacle⟩)
  | .ok content =>
    match Listing.read order content with
    | .error error => .error (.listing error)
    | .ok blocks => .ok blocks

def runListing (host : Host) (disk : Disk) (environment : List (String × String))
    (invocation : Invocation) (profile : Profile) : Outcome :=
  let source := invocation.arguments.headD ""
  let order : Listing.ByteOrder :=
    if invocation.switch "little-endian" then .littleEndian else .bigEndian
  let write (disk : Disk) (blocks : List Listing.Block) : Outcome :=
    writeReports host disk profile (invocation.text "report-output-path")
      (Report.ofBlocks Lexicon.standard blocks)
  if source = "" then .failure disk .noListing
  else if invocation.switch "binary" then
    match disassemble host disk environment (toolOrDefault (invocation.text "objdump")) source
        (invocation.text "disassembly-output-path") with
    | (disk, .error error) => .failure disk error
    | (disk, .ok text) =>
      match Listing.read order text with
      | .error error => .failure disk (.disassembly error)
      | .ok blocks => write disk blocks
  else
    match readListing disk order source with
    | .error error => .failure disk error
    | .ok blocks => write disk blocks

def runRegisters (host : Host) (disk : Disk) (profile : Profile) : Outcome :=
  let table :=
    match Rendering.ofName? profile.format with
    | some .json => Register.tableJson.line
    | _ => PageStyle.registerTable ⟨profile.registerMark, false⟩
  .ofOutput disk .standardOutput (host.write disk .output (some table))

/-- Checks the address to listen on, which is all that can go wrong before the
first request. Requests are answered by `Service.handle`. -/
def runServe (disk : Disk) (profile : Profile) : Outcome :=
  match Listen.check profile.listen with
  | .error error => .failure disk (.listen error)
  | .ok () => .success disk ""

/-! Help is a command of its own, inside of every command and beside them. It
takes a topic, which is the name of a command that it stands beside. -/

def helpNames : List String := helpFlag.names

def names : List String := ["explain", "listing", "registers", "serve"]

/-- Gives help on the first of some arguments. An empty one is no topic. -/
def checkTopic (topics arguments : List String) : Except CommandError Unit :=
  let topic := arguments.headD ""
  if topic = "" ∨ topics.contains topic then .ok () else .error (.unknown topic)

/-- Runs the help command, which can be asked for help in its turn. -/
def help (topics : List String) (environment : List (String × String))
    (arguments : List String) : Except CommandError Unit :=
  match success : Invocation.read [helpFlag] environment arguments with
  | .error error => .error (.flag error)
  | .ok invocation =>
    match first : invocation.arguments with
    | [] => .ok ()
    | name :: rest =>
      have : rest.length < arguments.length := by
        have := Invocation.length_arguments_le _ _ _ success
        simp only [first, List.length_cons] at this
        omega
      if helpNames.contains name && !invocation.switch helpFlag.name then
        help helpNames environment rest
      else checkTopic topics (name :: rest)
termination_by arguments.length

/-- Reads the flags of a command. Gives nothing where help was asked for
instead. -/
def invoke (flags : List Flag) (topics : List String)
    (environment : List (String × String)) (arguments : List String) :
    Except CommandError (Option Invocation) :=
  match Invocation.read flags environment arguments with
  | .error error => .error (.flag error)
  | .ok invocation =>
    if invocation.switch helpFlag.name then
      (checkTopic topics invocation.arguments).map fun _ => none
    else if helpNames.contains (invocation.arguments.headD "") then
      (help topics environment invocation.arguments.tail).map fun _ => none
    else .ok (some invocation)

def perform (host : Host) (disk : Disk) (environment : List (String × String))
    (command : Command) (invocation : Invocation) : Outcome :=
  match profile disk invocation with
  | .error error => .failure disk error
  | .ok profile =>
    match command with
    | .explain => runExplain host disk invocation profile
    | .listing => runListing host disk environment invocation profile
    | .registers => runRegisters host disk profile
    | .serve => runServe disk profile

def run (host : Host) (disk : Disk) (environment : List (String × String))
    (command : Command) (arguments : List String) : Outcome :=
  match invoke command.flags helpNames environment arguments with
  | .error error => .failure disk error
  | .ok none => .success disk ""
  | .ok (some invocation) => perform host disk environment command invocation

/-- The environment variables that stand for flags. -/
def variableNames : List String :=
  ([explain, listing, registers, serve].flatMap flags).filterMap (·.environmentName)

/-- Every path that a run can touch: an argument, what stands behind an equals
sign in one, or the value of a variable. -/
def paths (environment : List (String × String)) (arguments : List String) :
    List String :=
  environment.map (·.2) ++ arguments.flatMap fun argument =>
    [argument, String.ofList ((argument.toList.dropWhile (· != '=')).drop 1)]

/-- Runs a whole command line on the standard host. The name of a command stands behind the flags that
belong to none, and without a name there is nothing to do. -/
def runLine (disk : Disk) (environment : List (String × String))
    (arguments : List String) : Outcome :=
  match invoke [helpFlag] (names ++ helpNames) environment arguments with
  | .error error => .failure disk error
  | .ok none => .success disk ""
  | .ok (some invocation) =>
    match invocation.arguments with
    | [] => .success disk ""
    | name :: rest =>
      match ofName? name with
      | some command => run .standard disk environment command rest
      | none => if name = "" then .success disk "" else .failure disk (.unknown name)

end Command

end MipsGloss
