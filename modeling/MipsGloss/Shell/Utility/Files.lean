import MipsGloss.Shell.Expansion
import MipsGloss.Shell.Utility

namespace MipsGloss.Shell.Utility

/-! Utilities that work on the files themselves. -/

def pathOf (disk : Disk) (path : String) : Place := Place.resolve disk.directory (toDiskText path)

/-- The last name of a place. -/
def nameOf (place : Place) : String := place.getLast?.getD ""

/-- Carries out a step for each operand on the disk that the steps before it
left. -/
def onDisk (call : Call) (operands : List String) (status : Nat)
    (work : Disk → String → Except String Disk) : Answer :=
  let step (state : Disk × List (Nat × String)) (path : String) : Disk × List (Nat × String) :=
    match work state.1 path with
    | .ok disk => (disk, state.2)
    | .error message => (state.1, state.2 ++ [(2, call.complaint message)])
  let (disk, writes) := operands.foldl step (call.disk, [])
  ⟨writes, if writes.isEmpty then 0 else status, disk, false⟩

def pwd : Utility := fun call =>
  call.withArguments ⟨['L', 'P'], [], [("logical", 'L'), ("physical", 'P')]⟩ 1 fun _ =>
    call.answer (ofDiskText (Place.text call.disk.directory) ++ "\n") 0

/-- The names that a directory shows. -/
def listing (arguments : Arguments) (disk : Disk) (place : Place) : List String :=
  let names := Glob.sorted ((disk.children place).map ofDiskText)
  let shown := names.filter fun name =>
    arguments.has 'a' || arguments.has 'A' || name.toList.head? != some '.'
  let shown := if arguments.has 'r' then shown.reverse else shown
  if arguments.has 'a' then "." :: ".." :: shown else shown

def ls : Utility := fun call =>
  call.withArguments ⟨['1', 'a', 'A', 'd', 'r', 'C'], [],
      [("all", 'a'), ("almost-all", 'A'), ("directory", 'd')]⟩ 2 fun arguments =>
    let operands := if arguments.operands.isEmpty then ["."] else arguments.operands
    let entries := operands.map fun path =>
      (path, call.disk.locate (toDiskText path), call.disk.look (toDiskText path))
    let complaints := entries.filterMap fun (path, location, entry) =>
      match entry, location with
      | .missing, .error obstacle =>
        some (2, call.complaint ("cannot access " ++ quote path ++ ": " ++ description obstacle))
      | .missing, .ok _ =>
        some (2, call.complaint ("cannot access " ++ quote path ++ ": " ++ description .missing))
      | _, _ => none
    let found := entries.filter fun (_, _, entry) => entry != .missing
    let isFile (entry : Disk.Entry) : Bool := arguments.has 'd' || entry != .directory
    let sorted (paths : List String) : List String :=
      let paths := Glob.sorted paths
      if arguments.has 'r' then paths.reverse else paths
    let files := sorted ((found.filter fun (_, _, entry) => isFile entry).map (·.1))
    let folders := sorted ((found.filter fun (_, _, entry) => !isFile entry).map (·.1))
    let blocks := folders.map fun path =>
      let names := listing arguments call.disk (pathOf call.disk path)
      (if operands.length > 1 then path ++ ":\n" else "") ++ unlines names
    let parts := (if files.isEmpty then [] else [unlines files]) ++ blocks
    ⟨complaints ++ [(1, "\n".intercalate parts)], if complaints.isEmpty then 0 else 2, call.disk,
      false⟩

/-- Takes a directory away with everything in it. -/
def removeAll (disk : Disk) (place : Place) : Disk :=
  { disk with
    files := disk.files.filter fun file => !place.isPrefixOf file.1
    folders := place.dropLast :: disk.folders.filter fun folder => !place.isPrefixOf folder }

def rm : Utility := fun call =>
  call.withArguments ⟨['f', 'r', 'R', 'i', 'd', 'v'], [], [("force", 'f'), ("recursive", 'r')]⟩ 1
    fun arguments =>
      let recursive := arguments.has 'r' || arguments.has 'R'
      if arguments.operands.isEmpty && !arguments.has 'f' then call.misuse 1 "missing operand"
      else
        onDisk call arguments.operands 1 fun disk path =>
          let refuse (obstacle : Obstacle) : Except String Disk :=
            .error ("cannot remove " ++ quote path ++ ": " ++ description obstacle)
          match disk.locate (toDiskText path) with
          | .error obstacle => if arguments.has 'f' then .ok disk else refuse obstacle
          | .ok place =>
            match disk.entry place with
            | .missing => if arguments.has 'f' then .ok disk else refuse .missing
            | .directory =>
              if recursive then .ok (removeAll disk place)
              else if arguments.has 'd' then
                if (disk.children place).isEmpty then .ok (removeAll disk place)
                else .error ("cannot remove " ++ quote path ++ ": Directory not empty")
              else refuse .isDirectory
            | _ => .ok (disk.remove place)

def mkdir : Utility := fun call =>
  call.withArguments ⟨['p', 'v'], ['m'], [("parents", 'p')]⟩ 1 fun arguments =>
    if arguments.operands.isEmpty then call.misuse 1 "missing operand"
    else
      onDisk call arguments.operands 1 fun disk path =>
        let refuse (reason : String) : Except String Disk :=
          .error ("cannot create directory " ++ quote path ++ ": " ++ reason)
        if arguments.has 'p' then
          let place := pathOf disk path
          if disk.entry place = .missing ∨ disk.entry place = .directory then
            .ok (disk.makeFolder place)
          else refuse "File exists"
        else
          match disk.locate (toDiskText path) with
          | .error obstacle => refuse (description obstacle)
          | .ok place =>
            if disk.entry place = .missing then .ok (disk.makeFolder place)
            else refuse "File exists"

def rmdir : Utility := fun call =>
  call.withArguments ⟨['p', 'v'], [], []⟩ 1 fun arguments =>
    if arguments.operands.isEmpty then call.misuse 1 "missing operand"
    else
      onDisk call arguments.operands 1 fun disk path =>
        let refuse (reason : String) : Except String Disk :=
          .error ("failed to remove " ++ quote path ++ ": " ++ reason)
        match disk.locate (toDiskText path) with
        | .error obstacle => refuse (description obstacle)
        | .ok place =>
          match disk.entry place with
          | .missing => refuse (description .missing)
          | .directory =>
            if (disk.children place).isEmpty then .ok (removeAll disk place)
            else refuse "Directory not empty"
          | _ => refuse (description .notDirectory)

def touch : Utility := fun call =>
  call.withArguments ⟨['a', 'c', 'm'], ['d', 't', 'r'], [("no-create", 'c')]⟩ 1 fun arguments =>
    let isDate (text : String) : Bool := (text.toList.head?.map Text.isDecimalDigit).getD false
    match (arguments.value? 'd').filter (!isDate ·) with
    | some date => call.refuse 1 ("invalid date format " ++ quote date)
    | none =>
    if arguments.operands.isEmpty then call.misuse 1 "missing file operand"
    else
      onDisk call arguments.operands 1 fun disk path =>
        match disk.locate (toDiskText path) with
        | .error obstacle =>
          .error ("cannot touch " ++ quote path ++ ": " ++ description obstacle)
        | .ok place =>
          if disk.entry place = .missing ∧ !arguments.has 'c' then .ok (disk.put place "")
          else .ok disk

/-- Where a file goes: into a directory under its own name, or to a name of its
own. -/
def destination (disk : Disk) (source target : Place) : Place :=
  if disk.entry target = .directory then target.step (nameOf source) else target

/-- Copies or moves files to the last operand. -/
def transfer (moves : Bool) (call : Call) (arguments : Arguments) : Answer :=
  match arguments.operands with
  | [] => call.misuse 1 "missing file operand"
  | [source] => call.misuse 1 ("missing destination file operand after " ++ quote source)
  | operands =>
    let goal := operands.getLast?.getD ""
    let sources := operands.dropLast
    let isFolder := call.disk.look (toDiskText goal) == .directory
    if sources.length > 1 && !isFolder then
      call.refuse 1 ("target " ++ quote goal ++ ": " ++ description .missing)
    else
      onDisk call sources 1 fun disk source =>
        match disk.locate (toDiskText source), disk.look (toDiskText source) with
        | .error obstacle, _ =>
          .error ("cannot stat " ++ quote source ++ ": " ++ description obstacle)
        | _, .missing => .error ("cannot stat " ++ quote source ++ ": " ++ description .missing)
        | .ok place, .directory =>
          if moves || arguments.has 'r' || arguments.has 'R' || arguments.has 'a' then
            let target := destination disk place (pathOf disk goal)
            let inside := disk.files.filter fun file => place.isPrefixOf file.1
            let disk' := if moves then removeAll disk place else disk
            .ok (inside.foldl (fun disk (file : Place × String) =>
              disk.put (target ++ file.1.drop place.length) file.2) (disk'.makeFolder target))
          else .error ("-r not specified; omitting directory " ++ quote source)
        | .ok place, _ =>
          let target := destination disk place (pathOf disk goal)
          match disk.read (toDiskText source) with
          | .error obstacle =>
            .error ("cannot open " ++ quote source ++ " for reading: " ++ description obstacle)
          | .ok content =>
            let disk' := if moves then disk.remove place else disk
            match store disk' (Place.text target) content with
            | .ok disk => .ok disk
            | .error obstacle =>
              .error ((if moves then "cannot move " ++ quote source ++ " to " ++ quote goal
                else "cannot create regular file " ++ quote goal) ++ ": " ++ description obstacle)

def cp : Utility := fun call =>
  call.withArguments ⟨['r', 'R', 'a', 'f', 'p', 'd', 'v', 'i'], [], [("recursive", 'r')]⟩ 1
    (transfer false call)

def mv : Utility := fun call =>
  call.withArguments ⟨['f', 'i', 'v', 'n'], [], [("force", 'f')]⟩ 1 (transfer true call)

def chmod : Utility := fun call =>
  let isMode (word : String) : Bool := word.toList.head? == some '-' && word.length > 1 &&
    (word.toList.drop 1).all ['r', 'w', 'x', 'X', 's', 't'].contains
  let arguments := if call.arguments.any isMode then "--" :: call.arguments else call.arguments
  { call with arguments }.withArguments ⟨['R', 'f', 'v', 'c'], [], []⟩ 1 fun arguments =>
    match arguments.operands with
    | [] => call.misuse 1 "missing operand"
    | [mode] => call.misuse 1 ("missing operand after " ++ quote mode)
    | _ :: paths =>
      onDisk call paths 1 fun (disk : Disk) path =>
        if disk.look (toDiskText path) = Disk.Entry.missing then
          .error ("cannot access " ++ quote path ++ ": " ++ description .missing)
        else .ok disk

end MipsGloss.Shell.Utility
