/-
# Batching — a buffer never costs an append

A buffer is there to save appends, and it never costs one: however writes are
batched, there is at most one append for every write that was accepted, and a
tail that still waits to be appended is one of these.

No single step shows this.  A write may append twice, once to make room and once
past the tail; and a write that is rejected may have appended a tail before.  But
a tail has been counted when it was written, so that flushing it is paid for; and
what a write appends besides, it pays for itself when it is counted.  While it is
pending, the appends may therefore be one ahead (`Live.Batched`).
-/
import WriteBack.Proofs.Asking
import WriteBack.Proofs.Passage

namespace WriteBack

namespace Live

variable {σ : Type}

/-- There are at most as many appends, counting that of the tail, as there are
writes, counting those that are pending. -/
def Batched (pending : Nat) (j : Live σ) : Prop :=
  j.tally.appends + (if j.held = [] then 0 else 1) ≤ j.tally.writes + pending

theorem Batched.appends_le {pending : Nat} {j : Live σ} (h : j.Batched pending) :
    j.tally.appends ≤ j.tally.writes + pending :=
  Nat.le_trans (Nat.le_add_right _ _) h

variable [Medium σ]

/-- Whether pending or not, a flush only makes the append that the tail was
counted for. -/
theorem calm_batched (pending : Nat) : Calm (Batched pending : Live σ → Prop) where
  refused _ h := h
  readAt _ _ h := h
  moved {j} hheld _ h := by
    rw [Batched, if_neg hheld] at h
    show j.tally.appends + 1 +
      (if (({ j with medium := (Medium.append j.medium j.held).2 } : Live σ).withHeld []).held = []
        then 0 else 1) ≤ j.tally.writes + pending
    rw [held_withHeld_nil, if_pos rfl]
    exact h
  synced _ h := h

theorem suspends_batched (data : Bytes) :
    Suspends data (Batched 0 : Live σ → Prop) (Batched 1) where
  calm := calm_batched 0
  calm_pending := calm_batched 1
  joined {j} _ _ h := by
    have happends := h.appends_le
    show j.tally.appends + (if (j.withHeld (j.held ++ data)).held = [] then 0 else 1) ≤
      j.tally.writes + 1
    split <;> omega
  through {j} _ hempty _ h := by
    have happends := h.appends_le
    show j.tally.appends + 1 + (if j.held = [] then 0 else 1) ≤ j.tally.writes + 1
    rw [if_pos hempty]
    omega
  counted h := h

theorem fresh_batched {supply : Supply} (hsupply : supply.Honest) (medium : σ)
    (settings : Settings) : (fresh medium settings supply).Batched 0 := by
  rw [Batched, if_pos (fresh_held hsupply medium settings)]
  exact Nat.le_refl 0

end Live

namespace Journal

variable {σ β : Type} [Medium σ] [Medium β] [Screened σ β]

/-- **Batching never costs an append.**  Open a journal over any medium, with any
settings, and follow it through any run, whatever the medium answers.  The
appends that it has counted, and one more if there is something in its buffer,
are at most as many as the writes that it has counted.  And whatever it has asked
of the medium, or asks when it is dropped, no append was empty. -/
theorem appends_le_writes {medium : σ} {settings : Settings} {supply : Supply}
    (hsupply : supply.Honest) {opened : Journal σ} {events : List Event}
    (hstart : start medium settings supply = (.ok opened, events)) {steps : List Step}
    {j : Journal σ} (hrun : Traces opened steps j) :
    (∀ (tally : Tally) (held : Nat), j.tally = .ok tally → j.heldCount = .ok held →
      tally.appends + (if held = 0 then 0 else 1) ≤ tally.writes) ∧
    ∀ exchange ∈ record steps ++ j.exchangesOnDrop, exchange.call ≠ .append [] := by
  refine ⟨?_, hrun.call_ne⟩
  intro tally held htally hheld
  rw [eq_fresh_of_start hstart] at hrun
  cases j with
  | closed settings medium => cases htally
  | live state =>
      obtain rfl := Except.ok.inj htally
      obtain rfl := Except.ok.inj hheld
      have hbatched : state.Batched 0 :=
        hrun.suspended Live.suspends_batched (fun _ _ h => h)
          (Live.fresh_batched hsupply medium settings)
      simpa [Live.Batched] using hbatched

/-- A journal that has room for two bytes, after a first write of as many. -/
def brimful (plan : List Bool) : Live (Fitful InMemory) :=
  { settings := { capacity := 2 }
    medium := ⟨plan, .holding []⟩
    buffer := .ok ⟨2, [1, 2]⟩
    boundary := 0
    tally := { writes := 1, bytesWritten := 2 } }

def overturned : Live (Fitful InMemory) :=
  { settings := { capacity := 2 }
    medium := ⟨[], ⟨[1, 2], 0⟩⟩
    buffer := .ok ⟨2, [6]⟩
    boundary := 2
    unsynced := 2
    tally := { writes := 2, bytesWritten := 3, appends := 1, bytesFlushed := 2 } }

/-- The rejected write has appended without being counted, and the bound is still
met: by the one append, and the one that is to come. -/
theorem appends_le_writes_after_rejection :
    ∃ (opened : Journal (Fitful InMemory)) (events : List Event) (steps : List Step),
      start ⟨[], .holding []⟩ { capacity := 2 } .heap = (.ok opened, events) ∧
        Traces opened steps (live overturned) ∧
        (live overturned).tally = .ok overturned.tally ∧
        (live overturned).heldCount = .ok 1 ∧
        overturned.tally.appends + 1 ≤ overturned.tally.writes ∧
        ∀ exchange ∈ record steps ++ (live overturned).exchangesOnDrop,
          exchange.call ≠ .append [] := by
  have hstart : start (⟨[], .holding []⟩ : Fitful InMemory) { capacity := 2 } .heap =
      (.ok _, _) := rfl
  have hopened : Traces (live (Live.fresh (⟨[], .holding []⟩ : Fitful InMemory)
      { capacity := 2 } .heap)) [] _ := .here
  have hwritten : Traces _ _ (live (brimful [])) := hopened.called (.write [1, 2])
  have hplanned : Traces _ _ (live (brimful [false, true])) := hwritten.meddled rfl
  have hrejected := hplanned.called (.write [3, 4, 5])
  have hreached : Traces _ _ (live overturned) := hrejected.called (.write [6])
  obtain ⟨hbound, hcarries⟩ := appends_le_writes Supply.heap_honest hstart hreached
  exact ⟨_, _, _, hstart, hreached, rfl, rfl, hbound _ _ rfl rfl, hcarries⟩

end Journal

end WriteBack
