/-
# Words — a journal as a machine keeps it

Here offsets and counts are numbers, and numbers have no end.  A machine keeps
them in words of 64 bits, whose sums and differences wrap around, and it cuts
stretches out of buffers at offsets that had better lie inside.  So there is a
second way to go through a call: on words, with every sum, every difference and
every cast made as the machine makes it, and every stretch cut out as the machine
cuts it.

Nothing is taken for granted on the way.  A step whose outcome is not the number
it stands for, or that cuts where there is nothing, has no outcome here (`none`).
A call that has one is therefore exact throughout, and what is shown of it is that
it has one, and that it is the outcome of the journal kept in numbers
(`Worded.value`).
-/
import WriteBack.Journal.Live

namespace WriteBack

/-! ## Words -/

/-- An unsigned word of 64 bits: an offset, or the length of something in memory. -/
abbrev Word := UInt64

namespace Word

/-- The sum of two words, if the machine's is that of the numbers. -/
def add? (a b : Word) : Option Word :=
  if (a + b).toNat = a.toNat + b.toNat then some (a + b) else none

/-- The difference of two words, if the machine's is that of the numbers. -/
def sub? (a b : Word) : Option Word :=
  if (a - b).toNat + b.toNat = a.toNat then some (a - b) else none

def ofLength? (n : Nat) : Option Word :=
  if (UInt64.ofNat n).toNat = n then some (UInt64.ofNat n) else none

/-- A signed word cast to an unsigned one, if that does not change the number. -/
def ofSigned? (n : Int64) : Option Word :=
  if (n.toUInt64.toNat : Int) = n.toInt then some n.toUInt64 else none

theorem add?_of_lt {a b : Word} (h : a.toNat + b.toNat < UInt64.size) :
    ∃ c : Word, a.add? b = some c ∧ c.toNat = a.toNat + b.toNat := by
  have hsum : (a + b).toNat = a.toNat + b.toNat := by
    rw [UInt64.toNat_add]
    exact Nat.mod_eq_of_lt h
  exact ⟨a + b, if_pos hsum, hsum⟩

theorem sub?_of_le {a b : Word} (h : b.toNat ≤ a.toNat) :
    ∃ c : Word, a.sub? b = some c ∧ c.toNat + b.toNat = a.toNat := by
  have hdifference : (a - b).toNat + b.toNat = a.toNat := by
    rw [UInt64.toNat_sub_of_le _ _ (UInt64.le_iff_toNat_le.mpr h)]
    exact Nat.sub_add_cancel h
  exact ⟨a - b, if_pos hdifference, hdifference⟩

theorem ofLength?_of_lt {n : Nat} (h : n < UInt64.size) :
    ∃ c : Word, ofLength? n = some c ∧ c.toNat = n := by
  have hword : (UInt64.ofNat n).toNat = n := UInt64.toNat_ofNat_of_lt' h
  exact ⟨UInt64.ofNat n, if_pos hword, hword⟩

theorem toNat_ofSigned {n : Int64} (h : 0 ≤ n.toInt) :
    n.toUInt64.toNat = n.toInt.toNat := by
  have hnonneg : 0 ≤ n := Int64.le_iff_toInt_le.mpr h
  exact Int64.toNat_toUInt64_of_le hnonneg

theorem ofSigned?_of_nonneg {n : Int64} (h : 0 ≤ n.toInt) :
    ∃ c : Word, ofSigned? n = some c ∧ c.toNat = n.toInt.toNat := by
  have hnumber : (n.toUInt64.toNat : Int) = n.toInt := by
    rw [toNat_ofSigned h]
    exact Int.toNat_of_nonneg h
  exact ⟨n.toUInt64, if_pos hnumber, toNat_ofSigned h⟩

end Word

/-! ## A journal in words -/

/-- A live journal as a machine keeps it: offsets and counts of bytes are words.
How often something was done is counted as before. -/
structure Worded (σ : Type) where
  settings : Settings
  medium : σ
  buffer : Except Shortage Buffer
  boundary : Word
  unsynced : Word := 0
  writes : Nat := 0
  bytesWritten : Word := 0
  appends : Nat := 0
  bytesFlushed : Word := 0
  straightThrough : Nat := 0
  syncs : Nat := 0

namespace Worded

variable {σ : Type}

/-- The journal that is kept so, in numbers. -/
def value (w : Worded σ) : Live σ where
  settings := w.settings
  medium := w.medium
  buffer := w.buffer
  boundary := w.boundary.toNat
  unsynced := w.unsynced.toNat
  tally :=
    { writes := w.writes
      bytesWritten := w.bytesWritten.toNat
      appends := w.appends
      bytesFlushed := w.bytesFlushed.toNat
      straightThrough := w.straightThrough
      syncs := w.syncs }

def held (w : Worded σ) : Bytes := w.value.held

def logicalEnd? (w : Worded σ) : Option Word := do
  let length ← Word.ofLength? w.held.length
  w.boundary.add? length

theorem logicalEnd?_eq {w : Worded σ} (h : w.value.logicalEnd < UInt64.size) :
    ∃ c : Word, w.logicalEnd? = some c ∧ c.toNat = w.value.logicalEnd := by
  have hsum : w.boundary.toNat + w.held.length < UInt64.size := h
  obtain ⟨length, hlength, hvalue⟩ := Word.ofLength?_of_lt (n := w.held.length) (by omega)
  obtain ⟨c, hc, hend⟩ := Word.add?_of_lt (a := w.boundary) (b := length) (by omega)
  refine ⟨c, ?_, ?_⟩
  · rw [logicalEnd?, hlength]
    exact hc
  · rw [hend, hvalue]
    rfl

end Worded

/-! ## Lengths alone -/

/-- So many bytes, all of them zero: a medium as far as lengths go.  It delivers one
byte at a time. -/
structure Blank where
  length : Nat
deriving DecidableEq, Repr

instance : Medium Blank where
  position := Blank.length
  size := Blank.length
  readAt m offset wanted := (.bytes (Bytes.zeros (min (m.length - offset) (min 1 wanted))), m)
  append m data := (.ok (), ⟨m.length + data.length⟩)
  sync m := (.ok (), m)
  patience _ := 0
  length_le {m offset wanted delivered} h := by
    cases h
    rw [Bytes.zeros, List.length_replicate]
    exact Nat.le_trans (Nat.min_le_right _ _) (Nat.min_le_right _ _)
  patience_lt h := by cases h

end WriteBack
