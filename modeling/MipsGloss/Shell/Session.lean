import MipsGloss.Disk
import MipsGloss.Shell.Script
import MipsGloss.Shell.Token
import MipsGloss.Text.Bytes

namespace MipsGloss.Shell

/-! Texts of a script stand for bytes, those of a disk for characters. -/

/-- The bytes of a text, each as a character. -/
def ofDiskText (text : String) : String :=
  String.ofList ((Text.bytes text).map Char.ofNat)

def toDiskText (text : String) : String := Text.ofBytes (text.toList.map Char.toNat)

/-! A session is the state of a running script. Its descriptors lead to sources of
text, to sinks that collect text, to files and to devices. -/

inductive Channel where
  | source (number : Nat) (isFile : Bool)
  | sink (number : Nat)
  | file (place : Place)
  | device (device : Device)
  deriving DecidableEq

/-- There are two shells. The large one has its own way with complaints, and its
`echo` takes no notice of escapes. -/
inductive Dialect where
  | small
  | large
  deriving DecidableEq

structure Session where
  dialect : Dialect
  name : String
  arguments : List String
  values : List (String × String)
  exported : List String
  fixed : List String
  functions : List (String × Command)
  traps : List (String × String)
  options : List Char
  status : Nat
  /-- The status of the last command whose output was put into a word. -/
  substituted : Option Nat
  line : Nat
  /-- The line that is read next. -/
  nextLine : Nat
  /-- The command of the shell that is at work. -/
  command : Option String
  /-- How far the letters behind a dash have been looked at. -/
  letters : Nat
  channels : List (Nat × Channel)
  sources : List (List Char)
  sinks : List String
  documents : List Word
  /-- What the local variables of functions were before, innermost first. -/
  scopes : List (List (String × Option String))
  loops : Nat
  /-- Whether a failure is looked at, so that it ends nothing. -/
  tested : Bool
  disk : Disk

/-- What ends a command early: the end of the script, of some loops, of a turn of
one, or of a function, or a signal. -/
inductive Stop where
  | exit
  | leave (count : Nat)
  | again (count : Nat)
  | finish
  | killed (signal : Nat)
  deriving DecidableEq

/-- Gives variables the values back that they had, or the lack of one. -/
def Session.restore (session : Session) (saved : List (String × Option String)) : Session :=
  let names := saved.map (·.1)
  { session with
    values := saved.filterMap (fun (name, value) => value.map (name, ·)) ++
      session.values.filter fun (name, _) => !names.contains name }

abbrev Run := ExceptT Stop (StateM Session)

namespace Run

/-- Runs a body and changes the session behind it, however it ends. -/
def settle {α : Type} (body : Run α) (change : Session → Session) : Run α := do
  let result ← ExceptT.lift body.run
  modify change
  ExceptT.mk (pure result)

/-- Runs a body and gives what stopped it, if anything. -/
def outcome (body : Run Unit) : Run (Option Stop) := do
  match ← ExceptT.lift body.run with
  | .ok () => return none
  | .error stop => return some stop

def setStatus (status : Nat) : Run Unit := modify fun session => { session with status }

def exit {α : Type} (status : Nat) : Run α := do
  setStatus status
  throw .exit

/-! Reading and writing go through descriptors. -/

/-- Writes to a channel, and gives whether that worked. -/
def send (channel : Option Channel) (text : String) : Run Bool := do
  let session ← get
  match channel with
  | some (.sink number) =>
    set { session with sinks := session.sinks.modify number (· ++ text) }
    return true
  | some (.file place) =>
    match session.disk.entry place with
    | .file content =>
      set { session with disk := session.disk.put place (content ++ toDiskText text) }
    | _ => set { session with disk := session.disk.put place (toDiskText text) }
    return true
  | some (.device device) => return device != .full || text == ""
  | _ => return text == ""

def write (descriptor : Nat) (text : String) : Run Bool := do
  send ((← get).channels.lookup descriptor) text

/-- Everything that is left to read from a descriptor. -/
def readAll (descriptor : Nat) : Run String := do
  let session ← get
  match session.channels.lookup descriptor with
  | some (.source number _) =>
    set { session with sources := session.sources.set number [] }
    return String.ofList (session.sources[number]?.getD [])
  | some (.device device) => return device.content
  | _ => return ""

/-- A line from a descriptor and whether it ended in a newline. -/
def readLine (descriptor : Nat) : Run (String × Bool) := do
  let session ← get
  match session.channels.lookup descriptor with
  | some (.source number _) =>
    let characters := session.sources[number]?.getD []
    let rest := characters.dropWhile (· != '\n')
    set { session with sources := session.sources.set number (rest.drop 1) }
    return (String.ofList (characters.takeWhile (· != '\n')), !rest.isEmpty)
  | _ => return ("", false)

def addSource (text : String) (isFile : Bool) : Run Channel := do
  let session ← get
  set { session with sources := session.sources ++ [text.toList] }
  return .source session.sources.length isFile

def addSink : Run (Nat × Channel) := do
  let session ← get
  set { session with sinks := session.sinks ++ [""] }
  return (session.sinks.length, .sink session.sinks.length)

def connect (descriptor : Nat) (channel : Channel) : Run Unit :=
  modify fun session =>
    { session with
      channels := (descriptor, channel) :: session.channels.filter (·.1 != descriptor) }

def disconnect (descriptor : Nat) : Run Unit :=
  modify fun session =>
    { session with channels := session.channels.filter (·.1 != descriptor) }

/-! Complaints name the script, the line, and the command of the shell that is at
work. -/

def complain (message : String) : Run Unit := do
  let session ← get
  let command := (session.command.map (· ++ ": ")).getD ""
  let mark := if session.dialect = .large then ": line " else ": "
  let _ ← write 2
    (session.name ++ mark ++ Text.decimal session.line ++ ": " ++ command ++ message ++ "\n")

/-- Ends the script with a complaint. -/
def abort {α : Type} (message : String) : Run α := do
  complain message
  exit 2

/-! Variables hold texts. -/

def hasOption (option : Char) : Run Bool := do return (← get).options.contains option

def assign (name value : String) : Run Unit := do
  let session ← get
  if session.fixed.contains name then abort (name ++ ": is read only")
  else
    let exported :=
      if session.options.contains 'a' then (name :: session.exported).eraseDups
      else session.exported
    set { session with
      values := (name, value) :: session.values.filter (·.1 != name)
      exported }

def unassign (name : String) : Run Unit :=
  modify fun session =>
    { session with
      values := session.values.filter (·.1 != name)
      exported := session.exported.filter (· != name) }

/-- The number that the script has among the processes of the system. -/
def processNumber : String := "4711"

/-- The letters of options, in the order that they are shown in. -/
def optionLetters : List Char :=
  ['p', 'u', 'b', 'a', 'C', 'E', 'V', 'v', 'x', 's', 'n', 'm', 'i', 'I', 'f', 'e']

/-- The value of a parameter that is not a list of arguments. -/
def value? (name : String) : Run (Option String) := do
  let session ← get
  match name with
  | "#" => return some (Text.decimal session.arguments.length)
  | "?" => return some (Text.decimal session.status)
  | "$" => return some processNumber
  | "!" => return some ""
  | "-" => return some (String.ofList (optionLetters.filter session.options.contains))
  | "0" => return some session.name
  | _ =>
    if (name.toList.head?.map Text.isDecimalDigit).getD false then
      return session.arguments[Text.numeralValue 10 name.toList - 1]?
    else return session.values.lookup name

/-! A subshell has a copy of everything but the disk and what flows through the
descriptors. -/

def afterSubshell (before after : Session) : Session :=
  { before with
    status := after.status
    sources := after.sources
    sinks := after.sinks
    documents := after.documents
    disk :=
      { after.disk with
        directory := before.disk.directory
        folders := after.disk.directory :: after.disk.folders } }

def isolate (body : Run Unit) : Run Unit := do
  let before ← get
  match ← outcome body with
  | some (.killed signal) =>
    modify (afterSubshell before)
    throw (.killed signal)
  | _ => modify (afterSubshell before)

/-- Runs a body in a subshell and gives what it writes. -/
def capture (body : Run Unit) : Run String := do
  let (number, channel) ← addSink
  isolate do
    connect 1 channel
    body
  return (← get).sinks[number]?.getD ""

end Run

end MipsGloss.Shell
