import MipsGloss.Text.Lines

namespace MipsGloss

/-! The files that a command works on. A place is a path taken apart at its
slashes; an absolute one starts with an empty part. Directories are those that
hold a file or are listed as such, the working directory, and all that lie
above one of them. -/

abbrev Place := List String

namespace Place

/-- The parts of a text between its slashes. -/
def parts (characters : List Char) : List (List Char) :=
  match characters with
  | [] => [[]]
  | character :: rest =>
    if character = '/' then [] :: parts rest
    else
      match parts rest with
      | [] => [[character]]
      | part :: others => (character :: part) :: others

def ofText (text : String) : Place := (parts text.toList).map String.ofList

def text (place : Place) : String :=
  match place with
  | [""] => "/"
  | _ => "/".intercalate place

def isAbsolute (text : String) : Bool := text.toList.head? == some '/'

/-- Goes one step from a place. Empty steps and single dots stay, a double dot
goes up, though not above the top. -/
def step (place : Place) (name : String) : Place :=
  if name = "" ∨ name = "." then place
  else if name = ".." then (if place.length > 1 then place.dropLast else place)
  else place ++ [name]

/-- The place that a path names, seen from a directory, by its text alone. -/
def resolve (directory : Place) (path : String) : Place :=
  if isAbsolute path then (ofText path).foldl step [""]
  else (ofText path).foldl step directory

end Place

/-- What keeps a path from being used, or a file that is open from being written. -/
inductive Obstacle where
  | missing
  | isDirectory
  | notDirectory
  | tooLong
  | invalid
  | noSpace
  | overQuota
  | tooLarge
  | damaged
  deriving DecidableEq, Repr

def Obstacle.reason : Obstacle → String
  | .missing => "no such file or directory"
  | .isDirectory => "is a directory"
  | .notDirectory => "not a directory"
  | .tooLong => "file name too long"
  | .invalid => "invalid argument"
  | .noSpace => "no space left on device"
  | .overQuota => "disk quota exceeded"
  | .tooLarge => "file too large"
  | .damaged => "input/output error"

/-- Files that are always there and keep nothing of what is written to them. The
first one is empty, the other two never end, and the last one is always full. -/
inductive Device where
  | null
  | zero
  | full
  deriving DecidableEq, Repr

namespace Device

def all : List (Place × Device) :=
  [(["", "dev", "null"], .null), (["", "dev", "zero"], .zero), (["", "dev", "full"], .full)]

/-- As much of a device as anyone reads who does not read it to its end. -/
def content (device : Device) : String :=
  match device with
  | .null => ""
  | _ => String.ofList (List.replicate 131072 '\x00')

end Device

structure Disk where
  directory : Place
  files : List (Place × String)
  folders : List Place
  deriving DecidableEq, Repr

namespace Disk

/-! Every system has some directories, and programs in two of them. -/

def systemFolders : List Place :=
  [["", "bin"], ["", "boot"], ["", "etc"], ["", "home"], ["", "lib"], ["", "media"],
   ["", "mnt"], ["", "opt"], ["", "proc"], ["", "root"], ["", "run"], ["", "sbin"],
   ["", "srv"], ["", "sys"], ["", "tmp"], ["", "usr", "bin"], ["", "usr", "lib"],
   ["", "usr", "local", "bin"], ["", "usr", "sbin"], ["", "usr", "share"],
   ["", "var", "lib"], ["", "var", "log"], ["", "var", "tmp"]]

def programFolders : List Place := [["", "bin"], ["", "usr", "bin"]]

def programNames : List String :=
  ["[", "base64", "basename", "bash", "cat", "chmod", "cp", "cut", "dash", "dirname", "echo",
   "env", "expr", "false", "grep", "head", "ls", "mkdir", "mv", "nl", "paste", "printf",
   "pwd", "rev", "rm", "rmdir", "sed", "seq", "sh", "sleep", "sort", "tac", "tail", "tee",
   "test", "touch", "tr", "true", "uniq", "wc"]

/-- The name of the program at a place of the system. -/
def programName? (place : Place) : Option String :=
  match place.getLast? with
  | some name =>
    if programNames.contains name && programFolders.contains place.dropLast then some name
    else none
  | none => none

inductive Entry where
  | file (content : String)
  | device (device : Device)
  | program (name : String)
  | directory
  | missing
  deriving DecidableEq, Repr

def isDirectory (disk : Disk) (place : Place) : Bool :=
  (disk.directory :: disk.folders ++ systemFolders).any (place.isPrefixOf ·) ||
    (disk.files.map (·.1) ++ Device.all.map (·.1)).any fun file =>
      place.isPrefixOf file && place != file

def entry (disk : Disk) (place : Place) : Entry :=
  match Device.all.lookup place, disk.files.lookup place, programName? place with
  | some device, _, _ => .device device
  | none, some content, _ => .file content
  | none, none, some name => .program name
  | none, none, none => if disk.isDirectory place then .directory else .missing

/-! Paths are followed part by part, and neither a part nor a path can be longer
than the system takes. -/

def partLimit : Nat := 255

def pathLimit : Nat := 4095

/-- Follows the parts of a path from a place. Every part but the last has to be
a directory. -/
def follow (disk : Disk) (place : Place) : List String → Except Obstacle Place
  | [] => .ok place
  | name :: rest =>
    match disk.entry place with
    | .directory =>
      if partLimit < name.utf8ByteSize then .error .tooLong
      else follow disk (place.step name) rest
    | .missing => .error .missing
    | _ => .error .notDirectory

/-- The place that a path leads to. There may be nothing at it. -/
def locate (disk : Disk) (path : String) : Except Obstacle Place :=
  if path.toList.contains '\x00' then .error .invalid
  else if path = "" then .error .missing
  else if pathLimit < path.utf8ByteSize then .error .tooLong
  else
    disk.follow (if Place.isAbsolute path then [""] else disk.directory) (Place.ofText path)

/-- What a path leads to. -/
def look (disk : Disk) (path : String) : Entry :=
  match disk.locate path with
  | .ok place => disk.entry place
  | .error _ => .missing

/-- The content of the file with the given path. -/
def read (disk : Disk) (path : String) : Except Obstacle String :=
  match disk.locate path with
  | .error obstacle => .error obstacle
  | .ok place =>
    match disk.entry place with
    | .file content => .ok content
    | .device device => .ok device.content
    | .program _ => .ok ""
    | .directory => .error .isDirectory
    | .missing => .error .missing

def put (disk : Disk) (place : Place) (content : String) : Disk :=
  if (Device.all.lookup place).isSome then disk
  else
    { disk with
      files := (place, content) :: disk.files.filter fun file => file.1 != place }

/-- The place of a file that is about to be written. The directory it lies in has
to be there. -/
def target (disk : Disk) (path : String) : Except Obstacle Place :=
  match disk.locate path with
  | .error .missing =>
    .error (if path.toList.getLast? = some '/' then .isDirectory else .missing)
  | .error obstacle => .error obstacle
  | .ok place => if disk.entry place = .directory then .error .isDirectory else .ok place

/-- Opens a file to be written and gives its place. Whatever content it had is gone
then. -/
def openEmpty (disk : Disk) (path : String) : Except Obstacle (Place × Disk) :=
  (disk.target path).map fun place => (place, disk.put place "")

/-- Takes a file away. Its directory stays. -/
def remove (disk : Disk) (place : Place) : Disk :=
  { disk with
    files := disk.files.filter fun file => file.1 != place
    folders := place.dropLast :: disk.folders.filter (· != place) }

def makeFolder (disk : Disk) (place : Place) : Disk :=
  { disk with folders := place :: disk.folders }

/-- Goes to another working directory. -/
def enter (disk : Disk) (place : Place) : Disk :=
  { disk with directory := place, folders := disk.directory :: disk.folders }

/-- The names of what lies directly in a directory. -/
def children (disk : Disk) (place : Place) : List String :=
  ((disk.files.map (·.1) ++ disk.folders ++ [disk.directory]).filterMap fun other =>
    if place.isPrefixOf other then other[place.length]? else none).eraseDups

/-- The files of a disk that another one does not have, or not with the same
content. -/
def changesFrom (disk before : Disk) : List (Place × String) :=
  disk.files.filter fun file => before.files.lookup file.1 != some file.2

end Disk

end MipsGloss
