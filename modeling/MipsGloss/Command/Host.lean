import MipsGloss.Command.Tool

namespace MipsGloss

/-! What a command depends on and does not decide: what the programs do that it has
run, and whether all of what it writes is taken. -/

/-- Where a text is written: to standard output, or to a file that is open. -/
inductive Sink where
  | output
  | file (place : Place)
  deriving DecidableEq, Repr

/-- A write that fails: how many characters were taken, and what was in the way of the
others. -/
structure Shortfall where
  taken : Nat
  obstacle : Obstacle
  deriving DecidableEq, Repr

/-- What was taken of a text. -/
def Shortfall.part (shortfall : Shortfall) (text : String) : String :=
  String.ofList (text.toList.take shortfall.taken)

/-- A file that cannot be opened, or not be written once it is open: its path and the
reason. -/
structure FileError where
  isOpened : Bool
  path : String
  obstacle : Obstacle
  deriving DecidableEq, Repr

def FileError.message (error : FileError) : String :=
  (if error.isOpened then "write " else "open ") ++ error.path ++ ": " ++ error.obstacle.reason

structure Host where
  start : Starter
  /-- What goes wrong when a text is written, if anything does. -/
  shortfall? : Disk → Sink → String → Option Shortfall

namespace Host

/-- Writes a text, if there is one, and gives what was taken of it. -/
def write (host : Host) (disk : Disk) (sink : Sink) :
    Option String → String × Option Obstacle
  | none => ("", none)
  | some text =>
    match host.shortfall? disk sink text with
    | none => (text, none)
    | some shortfall => (shortfall.part text, some shortfall.obstacle)

/-- Puts a text, if there is one, into a file. Opening the file empties it, so that it
has what was taken of the text and nothing else. -/
def save (host : Host) (disk : Disk) (path : String) (text? : Option String) :
    Disk × Option FileError :=
  match disk.openEmpty path with
  | .error obstacle => (disk, some ⟨false, path, obstacle⟩)
  | .ok (place, disk) =>
    match host.write disk (.file place) text? with
    | (content, none) => (disk.put place content, none)
    | (content, some obstacle) => (disk.put place content, some ⟨true, path, obstacle⟩)

/-- Tools are run by the shell, and there is room for every text, except on the device
that is always full. -/
def standard : Host where
  start := Shell.runAt
  shortfall? disk sink _ :=
    match sink with
    | .output => none
    | .file place =>
      if disk.entry place = .device .full then some ⟨0, .noSpace⟩ else none

end Host

end MipsGloss
