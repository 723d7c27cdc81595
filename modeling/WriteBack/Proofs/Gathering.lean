/-
# Gathering — what a medium that stops early has delivered

A read of a medium may take several deliveries, and it may end before
everything wanted is there.  Whatever the medium does, the read does not end
by itself: it ends with all that was wanted, or with an answer of the medium
that stopped it (`gather_stopped`).

A medium is *truthful* about some bytes if it never delivers others in their
place.  It may deliver fewer than were wanted, interrupt or fail.  What has
been gathered from it is then a first part of what was wanted.  Behind any
screen a base is still truthful about its contents, provided that it is so by
itself; for that no file needs to be short enough to be read to its end.
-/
import WriteBack.Proofs.Reading

namespace WriteBack

open Faithful (contents)

/-! ## Why a read ends -/

/-- The answer with which a medium stopped a read. -/
def Stop.answer : Stop → Delivery
  | dry => .bytes []
  | failed error => .failed error

namespace Medium

section Ends

variable {σ : Type} [Medium σ]

/-- `Asks m offset wanted m' offset' wanted'`: in the course of gathering
`wanted` bytes from `offset` on, the medium, by then `m'`, is asked for
`wanted'` bytes from `offset'` on. -/
inductive Asks : σ → Nat → Nat → σ → Nat → Nat → Prop
  | first {m : σ} {offset wanted : Nat} : 0 < wanted → Asks m offset wanted m offset wanted
  | again {m next m' : σ} {offset wanted offset' wanted' : Nat} :
      Medium.readAt m offset wanted = (.interrupted, next) →
      Asks next offset wanted m' offset' wanted' → Asks m offset wanted m' offset' wanted'
  | further {m next m' : σ} {offset wanted offset' wanted' : Nat} {delivered : Bytes} :
      Medium.readAt m offset wanted = (.bytes delivered, next) → delivered ≠ [] →
      Asks next (offset + delivered.length) (wanted - delivered.length) m' offset' wanted' →
      Asks m offset wanted m' offset' wanted'

theorem Asks.missing {m m' : σ} {offset wanted offset' wanted' : Nat}
    (h : Asks m offset wanted m' offset' wanted') :
    0 < wanted' ∧ offset ≤ offset' ∧ offset' + wanted' = offset + wanted := by
  induction h with
  | first hwanted => exact ⟨hwanted, Nat.le_refl _, rfl⟩
  | again _ _ ih => exact ih
  | further answered _ _ ih =>
      have hle := Medium.length_le (congrArg Prod.fst answered)
      omega

theorem length_gather {m : σ} {offset wanted : Nat}
    (h : (Medium.gather m offset wanted).1.stop = none) :
    (Medium.gather m offset wanted).1.bytes.length = wanted := by
  fun_induction Medium.gather m offset wanted with
  | case1 => rfl
  | case2 m offset wanted _ m' _ _ ih => exact ih h
  | case3 => cases h
  | case4 => cases h
  | case5 m offset wanted hwanted b bs m' answered rest ih =>
      have hle : (b :: bs).length ≤ wanted := Medium.length_le (congrArg Prod.fst answered)
      have hrest := ih h
      show (b :: bs ++ rest.1.bytes).length = wanted
      rw [List.length_append, hrest]
      exact Nat.add_sub_of_le hle

/-- A read that was stopped was stopped by an answer of the medium to one of
its requests. -/
theorem gather_stopped {m : σ} {offset wanted : Nat} {stop : Stop}
    (h : (Medium.gather m offset wanted).1.stop = some stop) :
    ∃ (m' : σ) (offset' wanted' : Nat), Asks m offset wanted m' offset' wanted' ∧
      (Medium.readAt m' offset' wanted').1 = stop.answer := by
  fun_induction Medium.gather m offset wanted with
  | case1 => cases h
  | case2 m offset wanted _ m' answered _ ih =>
      obtain ⟨last, offset', wanted', hasks, hanswer⟩ := ih h
      exact ⟨last, offset', wanted', .again answered hasks, hanswer⟩
  | case3 m offset wanted hwanted error m' answered =>
      cases h
      exact ⟨m, offset, wanted, .first (Nat.pos_of_ne_zero hwanted), by rw [answered]; rfl⟩
  | case4 m offset wanted hwanted m' answered =>
      cases h
      exact ⟨m, offset, wanted, .first (Nat.pos_of_ne_zero hwanted), by rw [answered]; rfl⟩
  | case5 m offset wanted _ b bs m' answered rest ih =>
      obtain ⟨last, offset', wanted', hasks, hanswer⟩ := ih h
      exact ⟨last, offset', wanted', .further answered (List.cons_ne_nil b bs) hasks, hanswer⟩

end Ends

/-! ## Nothing but the truth -/

section Truth

variable {σ : Type} [Medium σ]

/-- While `Ready` holds, whatever the medium delivers from some offset on are
the bytes that stand there; and it stays ready. -/
def Truthful (bytes : Bytes) (Ready : σ → Prop) : Prop :=
  ∀ (m : σ) (offset wanted : Nat), Ready m →
    Ready (Medium.readAt m offset wanted).2 ∧
      ∀ delivered : Bytes, (Medium.readAt m offset wanted).1 = .bytes delivered →
        delivered = bytes.slice offset delivered.length

/-- What has been gathered are the bytes that stand there. -/
theorem Truthful.gather_bytes {bytes : Bytes} {Ready : σ → Prop}
    (htruthful : Truthful bytes Ready) {m : σ} (hready : Ready m) (offset wanted : Nat) :
    (Medium.gather m offset wanted).1.bytes =
      bytes.slice offset (Medium.gather m offset wanted).1.bytes.length := by
  fun_induction Medium.gather m offset wanted with
  | case1 => rfl
  | case2 m offset wanted _ m' answered _ ih =>
      have hnext := (htruthful m offset wanted hready).1
      rw [answered] at hnext
      exact ih hnext
  | case3 => rfl
  | case4 => rfl
  | case5 m offset wanted _ b bs m' answered rest ih =>
      have hanswer := htruthful m offset wanted hready
      rw [answered] at hanswer
      obtain ⟨hnext, hdelivered⟩ := hanswer
      have hfirst : b :: bs = bytes.slice offset (bs.length + 1) := hdelivered _ rfl
      have hrest : rest.1.bytes = bytes.slice (offset + (bs.length + 1)) rest.1.bytes.length :=
        ih hnext
      show b :: bs ++ rest.1.bytes = bytes.slice offset (b :: bs ++ rest.1.bytes).length
      rw [List.length_append, List.length_cons, Bytes.slice_add, ← hfirst, ← hrest]

end Truth

end Medium

/-- A faithful medium that delivers what it holds or fails, also where it
cannot be addressed. -/
class Candid (β : Type) [Medium β] [Faithful β] : Prop where
  readAt_cases (m : β) (offset wanted : Nat) :
    (Medium.readAt m offset wanted).1 = .bytes ((contents m).slice offset wanted) ∨
      ∃ error, (Medium.readAt m offset wanted).1 = .failed error

instance : Candid InMemory where
  readAt_cases _ _ _ := .inl rfl

instance : Candid OpenFile where
  readAt_cases f offset wanted := by
    show f.readAt offset wanted = _ ∨ ∃ error, f.readAt offset wanted = _
    unfold OpenFile.readAt
    split
    · exact .inr ⟨_, rfl⟩
    · exact .inl rfl

theorem Bytes.slice_length_slice (bytes : Bytes) (offset count : Nat) :
    bytes.slice offset (bytes.slice offset count).length = bytes.slice offset count := by
  rw [slice, slice, List.length_take, ← List.take_eq_take_min]

theorem Screened.truthful {σ β : Type} [Medium σ] [Medium β] [Screened σ β] [Faithful β]
    [Candid β] (base : β) :
    Medium.Truthful (contents base) fun m : σ => Screened.base m = base := by
  rintro m offset wanted rfl
  rcases Screened.readAt_cases m offset wanted with
    ⟨hanswer | hanswer, hbase⟩ | ⟨hanswer, hbase⟩
  · refine ⟨hbase, ?_⟩
    intro delivered hdelivered
    rw [hanswer] at hdelivered
    cases hdelivered
    rfl
  · refine ⟨hbase, ?_⟩
    intro delivered hdelivered
    rw [hanswer] at hdelivered
    cases hdelivered
  · refine ⟨hbase.trans (Steady.readAt_snd _ _ _), ?_⟩
    intro delivered hdelivered
    rw [hanswer] at hdelivered
    rcases Candid.readAt_cases (Screened.base m) offset wanted with hbytes | ⟨error, hfailed⟩
    · rw [hbytes] at hdelivered
      cases hdelivered
      exact (Bytes.slice_length_slice _ _ _).symm
    · rw [hfailed] at hdelivered
      cases hdelivered

end WriteBack
