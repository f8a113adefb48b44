import MipsGloss.Shell.Expansion

namespace MipsGloss.Shell

/-! A redirection leads a descriptor somewhere else. Whatever goes wrong with it
is found out before the command begins. -/

namespace Redirection

open Run

/-- What keeps a file from being opened, in the words of the shell. -/
def openReason : Obstacle → String
  | .missing => "No such file"
  | .notDirectory => "No such file"
  | .isDirectory => "Is a directory"
  | .tooLong => "File name too long"
  | .invalid => "Invalid argument"
  | .noSpace => "No space left on device"
  | .overQuota => "Disk quota exceeded"
  | .tooLarge => "File too large"
  | .damaged => "Input/output error"

def createReason : Obstacle → String
  | .missing => "Directory nonexistent"
  | .notDirectory => "Directory nonexistent"
  | obstacle => openReason obstacle

/-- The descriptor that a path stands for. -/
def descriptor? (path : String) : Option Nat :=
  match path with
  | "/dev/stdin" => some 0
  | "/dev/stdout" => some 1
  | "/dev/stderr" => some 2
  | _ =>
    match path.toList with
    | ['/', 'd', 'e', 'v', '/', 'f', 'd', '/', digit] =>
      if Text.isDecimalDigit digit then some (Text.numeralValue 10 [digit]) else none
    | _ => none

/-- The channel of a descriptor that is open. -/
def existing? (descriptor : Nat) : Run (Option Channel) := do
  return (← get).channels.lookup descriptor

def openToRead (path : String) : Run (Except String Channel) := do
  match (← existing? ((descriptor? path).getD 10)) with
  | some channel => return .ok channel
  | none =>
    let disk := (← get).disk
    match disk.locate (toDiskText path) with
    | .error obstacle => return .error ("cannot open " ++ path ++ ": " ++ openReason obstacle)
    | .ok place =>
      match disk.entry place with
      | .missing => return .error ("cannot open " ++ path ++ ": No such file")
      | .device device => return .ok (.device device)
      | .file content => return .ok (← addSource (ofDiskText content) true)
      | _ => return .ok (← addSource "" true)

/-- Opens a file to write, which is emptied unless it is written to behind what it
holds. -/
def openToWrite (path : String) (keepsContent : Bool) : Run (Except String Channel) := do
  match (← existing? ((descriptor? path).getD 10)) with
  | some channel => return .ok channel
  | none =>
    let session ← get
    match session.disk.target (toDiskText path) with
    | .error obstacle =>
      return .error ("cannot create " ++ path ++ ": " ++ createReason obstacle)
    | .ok place =>
      match session.disk.entry place with
      | .device device => return .ok (.device device)
      | .program _ => return .error ("cannot create " ++ path ++ ": Text file busy")
      | .file content =>
        set { session with disk := session.disk.put place (if keepsContent then content else "") }
        return .ok (.file place)
      | _ =>
        set { session with disk := session.disk.put place "" }
        return .ok (.file place)

def badDescriptor : String := "Syntax error: Bad fd number"

/-- Carries a redirection out and gives the complaint where that fails. -/
def perform (interpreter : Interpreter) (redirection : Redirection) : Run (Option String) := do
  let lead (result : Except String Channel) : Run (Option String) := do
    match result with
    | .ok channel =>
      connect redirection.descriptor channel
      return none
    | .error message => return some message
  match redirection.redirect with
  | .read path => lead (← openToRead (← Expansion.text interpreter path))
  | .write path => lead (← openToWrite (← Expansion.text interpreter path) false)
  | .append path => lead (← openToWrite (← Expansion.text interpreter path) true)
  | .both path =>
    let path ← Expansion.text interpreter path
    match ← openToWrite path true with
    | .ok channel =>
      if redirection.descriptor = 0 then lead (← openToRead path) else lead (.ok channel)
    | .error message => return some message
  | .copy descriptor =>
    match (← Expansion.text interpreter descriptor).toList with
    | ['-'] =>
      disconnect redirection.descriptor
      return none
    | [digit] =>
      if Text.isDecimalDigit digit then
        match ← existing? (Text.numeralValue 10 [digit]) with
        | some channel => lead (.ok channel)
        | none => return some (String.singleton digit ++ ": Bad file descriptor")
      else wrong
    | _ => wrong
  | .document number =>
    let document := (← get).documents[number]?.getD []
    lead (.ok (← addSource (← Expansion.text interpreter document) true))
where
  /-- The line of this complaint is the one that is read next. -/
  wrong : Run (Option String) := do
    modify fun session => { session with line := session.nextLine }
    abort badDescriptor

/-- Carries redirections out in their order, up to one that fails. -/
def performAll (interpreter : Interpreter) : List Redirection → Run (Option String)
  | [] => return none
  | redirection :: rest => do
    match ← perform interpreter redirection with
    | some message => return some message
    | none => performAll interpreter rest

/-- Runs a body with redirections, which end with it. Where one of them fails, the
body is not run, and `failed` is instead. -/
def around (interpreter : Interpreter) (redirections : List Redirection) (failed body : Run Unit) :
    Run Unit := do
  let channels := (← get).channels
  let restored (session : Session) : Session := { session with channels }
  let attempt : Run Unit := do
    match ← performAll interpreter redirections with
    | some message =>
      complain message
      setStatus 2
      failed
    | none => body
  settle attempt restored

end Redirection

end MipsGloss.Shell
