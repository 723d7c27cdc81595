/-
# The medium in memory

Bytes held in memory, and how many of them the last sync covered.  Nothing
on this medium ever fails: an append adds to the end, a sync covers
everything there is, and a read delivers all it can at once.
-/
import WriteBack.Medium

namespace WriteBack

/-- A byte store in memory; `synced` is the length that the last sync
covered. -/
structure InMemory where
  bytes : Bytes := []
  synced : Nat := 0
deriving DecidableEq, Repr

namespace InMemory

/-- A store that already holds `bytes`, all of them synced. -/
def holding (bytes : Bytes) : InMemory := ⟨bytes, bytes.length⟩

def append (m : InMemory) (data : Bytes) : InMemory :=
  { m with bytes := m.bytes ++ data }

def sync (m : InMemory) : InMemory :=
  { m with synced := m.bytes.length }

instance : Medium InMemory where
  position m := m.bytes.length
  size m := m.bytes.length
  readAt m offset wanted := (.bytes (m.bytes.slice offset wanted), m)
  append m data := (.ok (), m.append data)
  sync m := (.ok (), m.sync)
  patience _ := 0
  length_le h := by
    cases h
    exact Bytes.length_slice_le _ _ _
  patience_lt h := nomatch h

end InMemory

end WriteBack
