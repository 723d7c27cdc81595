/-
# Media — where the bytes of a journal finally rest

A medium is an append-only byte store with positioned reads.  A read may
deliver fewer bytes than were wanted (none at all means that there is
nothing at that offset), may be interrupted, or may fail; an append or a
sync either succeeds or fails.  Every call leaves a medium behind, because
even a failed call may be counted somewhere.

Two promises make a medium usable.  It never delivers more bytes than were
wanted, and it is patient: `patience` bounds how many interruptions in a row
it may still answer, and every interruption uses some of it up.  The second
promise is what lets `gather` insist: it reads on until it has everything,
skipping interruptions, and still ends.
-/
import WriteBack.Bytes
import WriteBack.Rig.Point

namespace WriteBack

/-! ## Why a call on a medium fails -/

/-- The complaints of a file system that a caller can run into. -/
inductive Errno where
  | noEntry
  | alreadyExists
  | notDirectory
  | isDirectory
  | invalidArgument
  | nameTooLong
deriving DecidableEq, Repr

namespace Errno

/-- The number by which the operating system knows the complaint. -/
def number : Errno → Nat
  | noEntry => 2
  | alreadyExists => 17
  | notDirectory => 20
  | isDirectory => 21
  | invalidArgument => 22
  | nameTooLong => 36

def description : Errno → String
  | noEntry => "No such file or directory"
  | alreadyExists => "File exists"
  | notDirectory => "Not a directory"
  | isDirectory => "Is a directory"
  | invalidArgument => "Invalid argument"
  | nameTooLong => "File name too long"

end Errno

/-- Why a call on a medium failed. -/
inductive MediumError where
  | injected (point : Rig.Point)
  | system (errno : Errno)
  | nulInPath
  | described (text : String)
deriving DecidableEq, Repr

def MediumError.message : MediumError → String
  | injected point => "injected fault: " ++ point.description
  | system errno => errno.description ++ " (os error " ++ toString errno.number ++ ")"
  | nulInPath => "file name contained an unexpected NUL byte"
  | described text => text

/-! ## The interface -/

/-- What a medium answers to a positioned read. -/
inductive Delivery where
  | bytes (delivered : Bytes)
  | interrupted
  | failed (error : MediumError)
deriving DecidableEq, Repr

/-- An append-only byte store.  `position` is where the next append lands,
`size` how long the store is; the two differ when somebody else changes the
store.  `readAt m offset wanted` asks for `wanted` bytes from `offset` on. -/
class Medium (σ : Type) where
  position : σ → Nat
  size : σ → Nat
  readAt : σ → Nat → Nat → Delivery × σ
  append : σ → Bytes → Except MediumError Unit × σ
  sync : σ → Except MediumError Unit × σ
  patience : σ → Nat
  length_le : ∀ {m : σ} {offset wanted : Nat} {delivered : Bytes},
    (readAt m offset wanted).1 = .bytes delivered → delivered.length ≤ wanted
  patience_lt : ∀ {m : σ} {offset wanted : Nat},
    (readAt m offset wanted).1 = .interrupted →
      patience (readAt m offset wanted).2 < patience m

/-! ## Reading until everything is there -/

/-- Why a read stopped before everything wanted was there. -/
inductive Stop where
  | dry
  | failed (error : MediumError)
deriving DecidableEq, Repr

/-- The bytes that arrived, and why no more did; `stop` is `none` when
everything wanted is there. -/
structure Gathered where
  bytes : Bytes
  stop : Option Stop
deriving DecidableEq, Repr

/-- Reads `wanted` bytes from `offset` on, in as many deliveries as the
medium makes of it.  Interruptions are skipped; an empty delivery or a
failure ends the read with what has arrived so far. -/
def Medium.gather {σ : Type} [Medium σ] (m : σ) (offset wanted : Nat) : Gathered × σ :=
  if wanted = 0 then (⟨[], none⟩, m)
  else
    match answered : Medium.readAt m offset wanted with
    | (.interrupted, m') =>
      have : Medium.patience m' < Medium.patience m := by
        have told : (Medium.readAt m offset wanted).1 = .interrupted := by rw [answered]
        simpa [answered] using Medium.patience_lt told
      gather m' offset wanted
    | (.failed error, m') => (⟨[], some (.failed error)⟩, m')
    | (.bytes [], m') => (⟨[], some .dry⟩, m')
    | (.bytes (b :: bs), m') =>
      let rest := gather m' (offset + (bs.length + 1)) (wanted - (bs.length + 1))
      (⟨b :: bs ++ rest.1.bytes, rest.1.stop⟩, rest.2)
termination_by (wanted, Medium.patience m)
decreasing_by
  · exact Prod.Lex.right _ this
  · exact Prod.Lex.left _ _ (by omega)

end WriteBack
