/-
# Journals — opening, using and closing

A journal is opened over a medium with some settings and a supply of
buffers.  From then on it is live until it is closed; a closed journal
refuses everything except being closed again, and only keeps the medium to
hand it back.  Dropping a journal hands the medium back too, after a last
flush and sync if the journal was live.

The calls that clients make are also given as data (`Request`), together
with the one function that performs them, so that whole runs can be spoken
of.
-/
import WriteBack.Journal.Read
import WriteBack.Journal.Write

namespace WriteBack

/-- A journal, live or closed. -/
inductive Journal (σ : Type) where
  | live (state : Live σ)
  | closed (settings : Settings) (medium : σ)

namespace Journal

variable {σ : Type}

/-! ## Opening -/

/-- Opens a journal over a medium, at the medium's position.  Settings that
make no sense are refused.  A supply that has no buffer is no obstacle: the
journal opens without one, and only reads. -/
def start [Medium σ] (medium : σ) (settings : Settings) (supply : Supply) :
    Except Failure (Journal σ) × List Event :=
  match settings.validate with
  | .error error => (.error (.invalidArgument (.settings error)), [])
  | .ok () =>
    let buffer := supply settings.room
    let position := Medium.position medium
    let warnings := match buffer with
      | .ok _ => []
      | .error shortage => [.noBuffer shortage]
    (.ok (.live { settings, medium, buffer, boundary := position }),
      warnings ++ [.openedJournal position settings.room settings.bound])

/-! ## What can be asked of a journal -/

def medium : Journal σ → σ
  | live j => j.medium
  | closed _ medium => medium

def mapMedium (f : σ → σ) : Journal σ → Journal σ
  | live j => live { j with medium := f j.medium }
  | closed settings medium => closed settings (f medium)

def settings : Journal σ → Settings
  | live j => j.settings
  | closed settings _ => settings

/-- The capacity of the write buffer, also of a closed journal. -/
def writeCapacity (j : Journal σ) : Nat := j.settings.room

def isClosed : Journal σ → Bool
  | live _ => false
  | closed _ _ => true

/-- What `f` says of a live journal. -/
def ask {α : Type} (f : Live σ → α) : Journal σ → Except Failure α
  | live j => .ok (f j)
  | closed _ _ => .error .closed

/-- Where the stream ends. -/
def position (j : Journal σ) : Except Failure Nat := j.ask Live.logicalEnd

/-- How long the stream is: it starts at zero, so that this is where it
ends. -/
def size (j : Journal σ) : Except Failure Nat := j.position

/-- Up to where the stream has been handed to the medium. -/
def flushedPosition (j : Journal σ) : Except Failure Nat := j.ask Live.boundary

/-- How many bytes went to the medium since the last sync. -/
def unsynced (j : Journal σ) : Except Failure Nat := j.ask Live.unsynced

/-- How many bytes are held in the write buffer. -/
def heldCount (j : Journal σ) : Except Failure Nat := j.ask fun live => live.held.length

def tally (j : Journal σ) : Except Failure Tally := j.ask Live.tally

/-! ## Using -/

/-- A call on the live state; a closed journal refuses it. -/
def onLive {α : Type} (j : Journal σ) (call : Live σ → Outcome (Live σ) α) :
    Outcome (Journal σ) α :=
  match j with
  | live state => (call state).lift live
  | closed _ _ => .fail .closed j

/-- Appends `data` to the stream. -/
def write [Medium σ] (j : Journal σ) (data : Bytes) : Outcome (Journal σ) Unit :=
  j.onLive (·.write data)

/-- Moves the tail to the medium and, if asked to, makes it durable. -/
def flush [Medium σ] (j : Journal σ) (syncing : Bool) : Outcome (Journal σ) Unit :=
  j.onLive (·.flushAnd syncing)

/-- Makes the whole stream durable, and says how far it now reaches. -/
def forceWrite [Medium σ] (j : Journal σ) : Outcome (Journal σ) Nat :=
  j.onLive Live.forceWrite

/-- Reads `length` bytes of the stream from `position` on into `dest`: the
number of bytes read, and the destination afterwards. -/
def read [Medium σ] (j : Journal σ) (dest : Bytes) (position length : Int64) :
    Outcome (Journal σ) Nat × Bytes :=
  match j with
  | live state =>
    let (outcome, dest) := state.read dest position length
    (outcome.lift live, dest)
  | closed _ _ => (.fail .closed j, dest)

/-! ## Closing and dropping -/

/-- Flushes the tail and closes the journal, whether the flush succeeds or
not; its failure is returned.  A closed journal may be closed again. -/
def close [Medium σ] (j : Journal σ) : Outcome (Journal σ) Unit :=
  match j with
  | live state => state.lastFlush.lift fun last => closed last.settings last.medium
  | closed _ _ => .done () j

/-- Gives the journal up and hands the medium back. -/
def drop [Medium σ] : Journal σ → σ × List Event
  | live j => j.drop
  | closed _ medium => (medium, [])

/-! ## Calls as data -/

/-- A call that a client makes on an open journal. -/
inductive Request where
  | write (data : Bytes)
  | flush (syncing : Bool)
  | forceWrite
  | read (dest : Bytes) (position length : Int64)
  | close
deriving DecidableEq, Repr

/-- What a call that succeeds returns. -/
inductive Reply where
  | nothing
  | durable (offset : Nat)
  | copied (count : Nat)
deriving DecidableEq, Repr

/-- Performs a call: its outcome, and the caller's destination afterwards
(empty for a call that has none). -/
def perform [Medium σ] (j : Journal σ) : Request → Outcome (Journal σ) Reply × Bytes
  | .write data => ((j.write data).map fun _ => .nothing, [])
  | .flush syncing => ((j.flush syncing).map fun _ => .nothing, [])
  | .forceWrite => (j.forceWrite.map .durable, [])
  | .read dest position length =>
    let (outcome, dest) := j.read dest position length
    (outcome.map .copied, dest)
  | .close => (j.close.map fun _ => .nothing, [])

end Journal

end WriteBack
