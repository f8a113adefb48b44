import MipsGloss.Disk
import MipsGloss.Proofs.Lookup

namespace MipsGloss

/-! What is written to a disk. A file is emptied when it is opened and has what is written
then, at the place that its path names, and every other file stays as it is. -/

/-- The place of the file with a path, which is made absolute first. -/
def Place.ofPath (directory : Place) (path : String) : Place :=
  resolve directory (resolve directory path).text

namespace Disk

/-- No file was created, changed or removed. -/
def SameFiles (before after : Disk) : Prop :=
  ∀ place, after.files.lookup place = before.files.lookup place

theorem SameFiles.refl (disk : Disk) : disk.SameFiles disk := fun _ => rfl

variable {disk : Disk} {path : String} {place : Place}

variable {opened : Disk}

end Disk

end MipsGloss
