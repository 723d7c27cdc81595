/-
# Writing — how bytes enter the stream and reach the medium

Three moves carry bytes toward the medium.  `flush` appends the whole tail,
`writeThrough` appends data past the buffer, `sync` makes durable what the
medium has.  None of them changes the journal when the medium fails, apart
from what the medium itself recorded of the failed call.

A write takes three stages.  `makeRoom` flushes the tail if the data does
not fit beside it, `place` buffers the data or writes it through, `settle`
forces a sync if too many bytes are exposed.  If the flush of a forced sync
fails the data is taken back out of the tail, so that a write whose append
failed leaves the end of the stream where it was.  If only the sync fails
the write has happened: it is counted, and merely not yet durable.
-/
import WriteBack.Journal.Live

namespace WriteBack.Live

variable {σ : Type} [Medium σ]

/-! ## The moves toward the medium -/

/-- Books an append of `count` bytes, which the medium now has. -/
def booked (j : Live σ) (count : Nat) : Live σ :=
  { j with
    boundary := j.boundary + count
    unsynced := j.unsynced + count
    tally := { j.tally with
      appends := j.tally.appends + 1
      bytesFlushed := j.tally.bytesFlushed + count } }

/-- Moves the whole tail to the medium, in one append.  An empty tail is not
appended. -/
def flush (j : Live σ) : Outcome (Live σ) Unit :=
  if j.held.isEmpty then .done () j
  else
    match Medium.append j.medium j.held with
    | (.error error, medium) => .fail (.io error) { j with medium }
    | (.ok (), medium) =>
      let flushed := ({ j with medium }.withHeld []).booked j.held.length
      ⟨.ok (), flushed, [.flushed j.held.length flushed.boundary]⟩

/-- Appends data to the medium past the buffer. -/
def writeThrough (j : Live σ) (data : Bytes) : Outcome (Live σ) Unit :=
  match Medium.append j.medium data with
  | (.error error, medium) => .fail (.io error) { j with medium }
  | (.ok (), medium) =>
    let written := { j with medium }.booked data.length
    ⟨.ok (),
      { written with tally.straightThrough := written.tally.straightThrough + 1 },
      [.wroteThrough data.length written.boundary]⟩

def sync (j : Live σ) : Outcome (Live σ) Unit :=
  match Medium.sync j.medium with
  | (.error error, medium) => .fail (.io error) { j with medium }
  | (.ok (), medium) =>
    .done () { j with medium, unsynced := 0, tally.syncs := j.tally.syncs + 1 }

/-! ## The stages of a write -/

/-- Flushes the tail if `count` more bytes do not fit beside it. -/
def makeRoom (j : Live σ) (count : Nat) : Outcome (Live σ) Unit :=
  if j.settings.room < j.held.length + count then j.flush else .done () j

/-- Adds data to the tail, or writes it through if it is larger than the
whole buffer. -/
def place (j : Live σ) (data : Bytes) : Outcome (Live σ) Unit :=
  if j.settings.room < data.length then j.writeThrough data
  else .done () (j.withHeld (j.held ++ data))

/-- Counts a write of `count` bytes as accepted. -/
def counted (j : Live σ) (count : Nat) : Live σ :=
  { j with tally := { j.tally with
      writes := j.tally.writes + 1
      bytesWritten := j.tally.bytesWritten + count } }

/-- Counts the write, after a forced flush and before a forced sync if too
many bytes are exposed.  `kept` is how long the tail was before the data was
placed: a flush that fails cuts it back to that. -/
def settle (j : Live σ) (kept count : Nat) : Outcome (Live σ) Unit :=
  if j.overBound then
    (((j.flush.onFailure fun j' => j'.withHeld (j'.held.take kept)).andThen
      fun _ j' => (j'.counted count).sync).andThen
      fun _ j' => ⟨.ok (), j', [.forcedSync j.exposed j.settings.bound]⟩)
  else .done () (j.counted count)

/-- Appends `data` to the stream.  A journal without a buffer refuses every
write, an empty one included; otherwise an empty write does nothing. -/
def write (j : Live σ) (data : Bytes) : Outcome (Live σ) Unit :=
  match j.buffer with
  | .error shortage => .fail (.bufferUnavailable shortage) j
  | .ok _ =>
    if data.isEmpty then .done () j
    else
      (j.makeRoom data.length).andThen fun _ roomy =>
        (roomy.place data).andThen fun _ placed =>
          placed.settle roomy.held.length data.length

/-! ## Flushing and closing on demand -/

/-- Moves the tail to the medium and, if asked to, makes it durable. -/
def flushAnd (j : Live σ) (syncing : Bool) : Outcome (Live σ) Unit :=
  j.flush.andThen fun _ j' => if syncing then j'.sync else .done () j'

/-- Makes the whole stream durable, and says how far it now reaches. -/
def forceWrite (j : Live σ) : Outcome (Live σ) Nat :=
  (j.flushAnd true).andThen fun _ j' => .done j'.boundary j'

/-- The last flush of a journal that is being closed, and what is told of
it. -/
def lastFlush (j : Live σ) : Outcome (Live σ) Unit :=
  let flushed := j.flush
  match flushed.result with
  | .ok () =>
    { flushed with events := flushed.events ++ [.closed flushed.after.boundary] }
  | .error failure =>
    { flushed with
      events := flushed.events ++ [.lostOnClose failure flushed.after.held.length] }

/-- What happens to a journal that is dropped without being closed: it is
flushed and synced if any of its bytes are exposed.  Nobody is left to
return a failure to, so that it is only told. -/
def drop (j : Live σ) : σ × List Event :=
  if j.exposed = 0 then (j.medium, [])
  else
    let last := j.flushAnd true
    match last.result with
    | .ok () => (last.after.medium, last.events)
    | .error failure => (last.after.medium, last.events ++ [.failedOnDrop failure])

end WriteBack.Live
