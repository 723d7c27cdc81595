/-
# The medium on a disk

An open file keeps a cursor of its own: appends land at the cursor, and only
a successful append moves it.  The cursor starts at the length of the file,
and stays equal to it as long as nobody else touches the file.  If somebody
cuts the file or adds to it the cursor does not follow, so that what was
written stays readable at the offset where it was written.

Opening a file first makes the directories that it lies in, and never harms
what is there: an existing file keeps its bytes.
-/
import WriteBack.Disk
import WriteBack.Event

namespace WriteBack

/-- What a sync makes durable: the bytes of a file only, or also what the
file system knows of it. -/
inductive SyncPolicy where
  | dataOnly
  | dataAndMetadata
deriving DecidableEq, Repr

/-- A file opened for appending, and the disk it is on. -/
structure OpenFile where
  disk : Disk
  path : Path
  place : Place
  cursor : Nat
  policy : SyncPolicy := .dataOnly
deriving DecidableEq, Repr

namespace OpenFile

/-- Opens the file at a path, and makes the directories that it lies in.
The disk afterwards may have new directories on it even when the file could
not be opened. -/
def opening (disk : Disk) (path : Path) (policy : SyncPolicy) :
    Except MediumError OpenFile × Disk × List Event :=
  match disk.makeDirectories path.ancestors with
  | (.error error, disk) => (.error error, disk, [])
  | (.ok (), disk) =>
    match disk.openOrCreate path with
    | .error error => (.error error, disk, [])
    | .ok (place, disk) =>
      let cursor := (disk.bytesAt place).length
      (.ok { disk, path, place, cursor, policy }, disk, [.openedFile path.text cursor])

def bytes (f : OpenFile) : Bytes := f.disk.bytesAt f.place

/-- The file with other bytes; the cursor stays where it is. -/
def withBytes (f : OpenFile) (bytes : Bytes) : OpenFile :=
  { f with disk := f.disk.put f.place (.file bytes) }

/-- The first offset that no file reaches. -/
def offsetLimit : Nat := Nat.pow 2 63

/-- Reads what there is, in one delivery.  A request whose end lies at the
limit or past it is refused, however little of it the file holds. -/
def readAt (f : OpenFile) (offset wanted : Nat) : Delivery :=
  if offsetLimit ≤ offset + wanted then .failed (.system .invalidArgument)
  else .bytes (f.bytes.slice offset wanted)

/-- Writes at the cursor, over whatever is there, and moves it along. -/
def append (f : OpenFile) (data : Bytes) : OpenFile :=
  { f.withBytes (f.bytes.overwriteAt f.cursor data) with cursor := f.cursor + data.length }

instance : Medium OpenFile where
  position f := f.cursor
  size f := f.bytes.length
  readAt f offset wanted := (f.readAt offset wanted, f)
  append f data := (.ok (), f.append data)
  sync f := (.ok (), f)
  patience _ := 0
  length_le {f offset wanted delivered} h := by
    simp only [readAt] at h
    split at h <;> cases h
    exact Bytes.length_slice_le _ _ _
  patience_lt {f offset wanted} h := by
    simp only [readAt] at h
    split at h <;> cases h

end OpenFile

end WriteBack
