/-
# Journals on disk

The usual way to open a journal: name a file, and it is opened or created.
The settings are looked at before anything on the disk is touched, so that
settings which make no sense leave the disk as it was.
-/
import WriteBack.Disk.OpenFile
import WriteBack.Journal

namespace WriteBack.Journal

/-- Opens a journal over the file at a path, with a buffer from the heap:
the journal, the disk afterwards and what was told. -/
def openFile (disk : Disk) (path : Path) (settings : Settings) (policy : SyncPolicy) :
    Except Failure (Journal OpenFile) × Disk × List Event :=
  match settings.validate with
  | .error error => (.error (.invalidArgument (.settings error)), disk, [])
  | .ok () =>
    match OpenFile.opening disk path policy with
    | (.error error, disk, events) => (.error (.io error), disk, events)
    | (.ok file, disk, events) =>
      let (journal, more) := start file settings .heap
      (journal, disk, events ++ more)

end WriteBack.Journal
