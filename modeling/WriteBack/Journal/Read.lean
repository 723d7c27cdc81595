/-
# Reading — one stream, wherever its bytes are

A read names a position and a length in the stream.  It is checked first,
in a fixed order, and nothing is touched unless every check passes.  Then
the part below the boundary is gathered from the medium and the part above
it copied from the tail; either may be empty.

The caller's destination is only written where bytes arrived.  If the medium
stops early, what it delivered is there, the rest of the destination is as
it was (also where tail bytes would have gone), and the failure says how far
the read came.
-/
import WriteBack.Journal.Live

namespace WriteBack.Live

variable {σ : Type}

/-- The first objection to reading `length` bytes from `position` into a
destination of `available` bytes.  Reading nothing is fine at any position
that is not negative. -/
def objection? (j : Live σ) (available : Nat) (position length : Int64) : Option Failure :=
  let start := position.toInt.toNat
  let count := length.toInt.toNat
  if position < 0 then some (.invalidArgument (.negativePosition position))
  else if length < 0 then some (.invalidArgument (.negativeLength length))
  else if count = 0 then none
  else if j.logicalEnd ≤ start then
    some (.invalidArgument (.beyondEnd start j.logicalEnd))
  else if j.logicalEnd < start + count then some (.underflow start count j.logicalEnd)
  else if available < count then some (.destinationTooSmall count available)
  else none

/-- How many of `count` bytes from `start` on lie below the boundary. -/
def onMedium (j : Live σ) (start count : Nat) : Nat :=
  min count (j.boundary - start)

/-- The bytes of the tail among `count` bytes of the stream from `start`
on. -/
def fromTail (j : Live σ) (start count : Nat) : Bytes :=
  j.held.slice (start - j.boundary) (count - j.onMedium start count)

/-- Copies `count` bytes of the stream from `start` on to the front of
`dest`; the range is one that `objection?` lets through. -/
def copyOut [Medium σ] (j : Live σ) (dest : Bytes) (start count : Nat) :
    Outcome (Live σ) Nat × Bytes :=
  let wanted := j.onMedium start count
  match Medium.gather j.medium start wanted with
  | (⟨bytes, none⟩, medium) =>
    (.done count { j with medium }, dest.overlay (bytes ++ j.fromTail start count))
  | (⟨bytes, some .dry⟩, medium) =>
    (.fail (.shortRead start wanted bytes.length) { j with medium }, dest.overlay bytes)
  | (⟨bytes, some (.failed error)⟩, medium) =>
    (.fail (.io error) { j with medium }, dest.overlay bytes)

/-- Reads `length` bytes from `position` on into `dest`: the number of bytes
read, and the destination afterwards. -/
def read [Medium σ] (j : Live σ) (dest : Bytes) (position length : Int64) :
    Outcome (Live σ) Nat × Bytes :=
  match j.objection? dest.length position length with
  | some failure => (.fail failure j, dest)
  | none => j.copyOut dest position.toInt.toNat length.toInt.toNat

end WriteBack.Live
