/-
# The live journal — one stream of bytes in two places

A journal is a stream of bytes that only grows.  Up to `boundary` its bytes
rest on the medium; the rest, the tail, is held in the write buffer:

    0                  boundary             logicalEnd
    |----- medium --------|----- held --------|

A journal counts what it does.  `unsynced` is how many bytes went to the
medium since the last sync; together with the tail these are the bytes
`exposed` to a crash.  A call on a journal has an outcome: a result, the
journal afterwards (also when the call failed) and the events that it told.
-/
import WriteBack.Event

namespace WriteBack

/-- What a journal has done since it was opened. -/
structure Tally where
  writes : Nat := 0
  bytesWritten : Nat := 0
  appends : Nat := 0
  bytesFlushed : Nat := 0
  straightThrough : Nat := 0
  syncs : Nat := 0
deriving DecidableEq, Repr

/-- The state of a journal that has not been closed.  `buffer` is the write
buffer, or the reason why there is none; a journal without one only reads. -/
structure Live (σ : Type) where
  settings : Settings
  medium : σ
  buffer : Except Shortage Buffer
  boundary : Nat
  unsynced : Nat := 0
  tally : Tally := {}

namespace Live

variable {σ : Type}

/-- The tail of the stream: the bytes in the write buffer. -/
def held (j : Live σ) : Bytes :=
  match j.buffer with
  | .ok buffer => buffer.held
  | .error _ => []

/-- The journal with another tail; one without a buffer stays as it is. -/
def withHeld (j : Live σ) (held : Bytes) : Live σ :=
  { j with buffer := j.buffer.map fun buffer => { buffer with held := held } }

def logicalEnd (j : Live σ) : Nat := j.boundary + j.held.length

/-- How many bytes no sync has covered, on the medium and in the tail. -/
def exposed (j : Live σ) : Nat := j.unsynced + j.held.length

/-- Whether more bytes are exposed than the settings tolerate. -/
def overBound (j : Live σ) : Bool :=
  j.settings.syncsForced && j.settings.bound.toInt < j.exposed

end Live

/-! ## Outcomes -/

/-- What a call comes to: its result, the state afterwards, and the events
told on the way, oldest first. -/
structure Outcome (State α : Type) where
  result : Except Failure α
  after : State
  events : List Event := []

namespace Outcome

variable {State State' α β : Type}

def done (value : α) (after : State) : Outcome State α :=
  ⟨.ok value, after, []⟩

def fail (failure : Failure) (after : State) : Outcome State α :=
  ⟨.error failure, after, []⟩

/-- Goes on from where a call left off; a call that failed is the end. -/
def andThen (first : Outcome State α) (next : α → State → Outcome State β) :
    Outcome State β :=
  match first.result with
  | .ok value =>
    let second := next value first.after
    { second with events := first.events ++ second.events }
  | .error failure => ⟨.error failure, first.after, first.events⟩

/-- Mends the state that a failed call leaves. -/
def onFailure (mend : State → State) (call : Outcome State α) : Outcome State α :=
  match call.result with
  | .ok _ => call
  | .error _ => { call with after := mend call.after }

/-- The same outcome seen as one of a larger state. -/
def lift (wrap : State → State') (call : Outcome State α) : Outcome State' α :=
  ⟨call.result, wrap call.after, call.events⟩

def map (f : α → β) (call : Outcome State α) : Outcome State β :=
  ⟨call.result.map f, call.after, call.events⟩

end Outcome

end WriteBack
