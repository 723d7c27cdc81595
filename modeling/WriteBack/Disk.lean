/-
# Disks — a tree of directories and files

A disk is a folder, the root of all that is on it, and every path is
followed from there.  Calls on a disk add to it and write over files; nothing
is ever removed.

The calls follow the rules of a Unix file system.  A path's text is looked
at first, for characters and lengths that no path may have; then the names
are followed from left to right, and the first one that cannot be followed
decides what the complaint is.
-/
import WriteBack.Disk.Folder
import WriteBack.Disk.Path
import WriteBack.Medium

namespace WriteBack

/-- A disk, as the folder at its root. -/
structure Disk where
  root : Folder := .empty
deriving DecidableEq, Repr

namespace Disk

def entry? (disk : Disk) (place : Place) : Option Entry :=
  disk.root.entry? place

def put (disk : Disk) (place : Place) (entry : Entry) : Disk :=
  ⟨disk.root.put place entry⟩

/-- The bytes of the file at a place; none where there is no file. -/
def bytesAt (disk : Disk) (place : Place) : Bytes :=
  match disk.entry? place with
  | some (.file bytes) => bytes
  | _ => []

/-! ## Following a path -/

/-- The longest name of a single place, in bytes. -/
def longestName : Nat := 255

/-- The longest text of a path, in bytes. -/
def longestPath : Nat := 4095

/-- The objections to a path's text, before anything is looked up. -/
def checkText (path : Path) : Except MediumError Unit :=
  if path.segments.any fun segment => segment.toList.contains '\x00' then .error .nulInPath
  else if longestPath < path.text.utf8ByteSize then .error (.system .nameTooLong)
  else if path.text == "" then .error (.system .noEntry)
  else .ok ()

def lookUp (folder : Folder) (name : String) : Except MediumError (Option Entry) :=
  if longestName < name.utf8ByteSize then .error (.system .nameTooLong)
  else .ok (folder.get? name)

/-- Enters directories one after the other, and says what lies in the last. -/
def enter (folder : Folder) : List String → Except MediumError Folder
  | [] => .ok folder
  | segment :: rest =>
    if Path.idle segment then enter folder rest
    else
      match lookUp folder segment with
      | .error error => .error error
      | .ok none => .error (.system .noEntry)
      | .ok (some (.file _)) => .error (.system .notDirectory)
      | .ok (some (.directory inside)) => enter inside rest

/-- Whether the path leads to a directory. -/
def isDirectory (disk : Disk) (path : Path) : Bool :=
  match checkText path, enter disk.root path.segments with
  | .ok (), .ok _ => true
  | _, _ => false

/-- The bytes of the regular file that the path leads to, if it does. -/
def file? (disk : Disk) (path : Path) : Option Bytes :=
  let ending := path.ending
  match checkText path, enter disk.root ending.leading with
  | .ok (), .ok folder =>
    if ending.slash || Path.idle ending.last then none
    else
      match lookUp folder ending.last with
      | .ok (some (.file bytes)) => some bytes
      | _ => none
  | _, _ => none

/-! ## Making directories -/

/-- Makes one directory, in a directory that is already there. -/
def makeDirectory (disk : Disk) (path : Path) : Except MediumError Disk := do
  checkText path
  let folder ← enter disk.root path.ending.leading
  if Path.idle path.ending.last then throw (.system .alreadyExists)
  match ← lookUp folder path.ending.last with
  | some _ => throw (.system .alreadyExists)
  | none => return disk.put path.names (.directory .empty)

/-- Makes the first path of a lineage a directory, and first the ones that
it lies in as far as they are missing.  Directories that were made before a
later one failed stay. -/
def makeDirectories (disk : Disk) : List Path → Except MediumError Unit × Disk
  | [] => (.ok (), disk)
  | path :: above =>
    match disk.makeDirectory path with
    | .ok disk => (.ok (), disk)
    | .error error =>
      if error = .system .noEntry then
        match makeDirectories disk above with
        | (.error error, disk) => (.error error, disk)
        | (.ok (), disk) => settleFor disk path
      else settleFor disk path
where
  /-- Makes the directory, or is content that it is already there. -/
  settleFor (disk : Disk) (path : Path) : Except MediumError Unit × Disk :=
    match disk.makeDirectory path with
    | .ok disk => (.ok (), disk)
    | .error error =>
      if disk.isDirectory path then (.ok (), disk) else (.error error, disk)

/-! ## Opening files -/

/-- Opens the file at a path for reading and writing, and creates it empty
if there is none: where it is, and the disk afterwards.  A path that insists
on a directory, by a slash or a dot at its end, is answered as if there was
one. -/
def openOrCreate (disk : Disk) (path : Path) : Except MediumError (Place × Disk) := do
  checkText path
  let folder ← enter disk.root path.ending.leading
  if path.ending.slash || Path.idle path.ending.last then throw (.system .isDirectory)
  match ← lookUp folder path.ending.last with
  | some (.directory _) => throw (.system .isDirectory)
  | some (.file _) => return (path.names, disk)
  | none => return (path.names, disk.put path.names (.file []))

end Disk

end WriteBack
