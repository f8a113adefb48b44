import MipsGloss.Command.Run

namespace MipsGloss.Main

/-! The command line. A run is a function of the files it can touch, which are
read beforehand; the files it changed are written at the end. -/

/-- Adds what stands at a place. A directory can be opened but not read, and a
device has its content without being looked at. -/
def look (disk : Disk) (place : Place) : IO Disk := do
  if (Device.all.lookup place).isSome then return disk
  match ← (IO.FS.readFile place.text).toBaseIO with
  | .ok content => return disk.put place content
  | .error (.inappropriateType none _ _) =>
    return { disk with folders := place :: disk.folders }
  | .error _ => return disk

/-- Adds what stands at a place and at the places above it. -/
def lookAlong (disk : Disk) (place : Place) : IO Disk :=
  (List.range place.length).foldlM (fun disk count => look disk (place.take (count + 1)))
    disk

def environment : IO (List (String × String)) :=
  Command.variableNames.filterMapM fun name => do
    return (← IO.getEnv name).map fun value => (name, value)

end MipsGloss.Main

open MipsGloss in
def main (arguments : List String) : IO UInt32 := do
  let directory := Place.ofText (← IO.currentDir).toString
  let environment ← Main.environment
  let places := (Command.paths environment arguments).map (Place.resolve directory)
  let disk ← places.foldlM Main.lookAlong ⟨directory, [], []⟩
  let outcome := Command.runLine disk environment arguments
  for (place, content) in outcome.disk.changesFrom disk do
    IO.FS.writeFile (Place.text place) content
  IO.print outcome.output
  match outcome.result with
  | .ok () => return 0
  | .error error =>
    IO.eprintln error.message
    return 1
