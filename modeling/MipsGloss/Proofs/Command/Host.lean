import MipsGloss.Command.Host
import MipsGloss.Proofs.Disk

namespace MipsGloss

/-! What commands can rely on, whatever host they run on. A tool does not move them to
another directory, and a text that is put into a file is there, or what was taken of it. -/

/-- The sink that a path stands for. Without a path it is standard output. -/
def Sink.ofPath (directory : Place) (path : String) : Sink :=
  if path = "" then .output else .file (Place.ofPath directory path)

/-- A disk on which a sink has been opened. A file is empty then. -/
def Disk.opened (disk : Disk) : Sink → Disk
  | .output => disk
  | .file place => disk.put place ""

namespace Host

end Host

end MipsGloss
