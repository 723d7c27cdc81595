/-
# Retrying — a write that failed and was tried again lands exactly once

A client whose write was stopped at an append tries again, perhaps many
times, and in between somebody may have seen to the fault.  `Retried` is such
a history, up to but not including the attempt that is not stopped.

Whatever the attempts did, the write that finally comes through leaves the
state that a single write without any fault would have left: medium, tail,
boundary, unsynced bytes and every counter.  The reason is that attempts
leave the journal as it was, or with its tail flushed to make room; and a
second attempt finds the same room, whether it has to flush or finds the tail
flushed (`roomy_flush`).

If only the sync is stopped the write must not be repeated.  A flush that
syncs then leads to that same state.
-/
import WriteBack.Proofs.Landing

namespace WriteBack.Live

/-! ## Room is made once -/

section Steady

variable {β : Type} [Medium β] [Steady β]

/-- Flushing a tail that is in the way first, and then making room, comes to
the same as making room. -/
theorem roomy_flush {j : Live β} {count : Nat}
    (hfull : j.settings.room < j.held.length + count) (hheld : j.held ≠ []) :
    j.flush.after.roomy count = j.roomy count := by
  have hroomy : j.roomy count = j.flush.after := by
    rcases roomy_cases j count with ⟨-, -, h⟩ | ⟨hnil | hfits, -⟩
    · exact h
    · exact absurd hnil hheld
    · omega
  rcases roomy_cases j.flush.after count with ⟨hnot, -, -⟩ | ⟨-, h⟩
  · exact absurd (flush_held j) hnot
  · rw [h, hroomy]

theorem write_after_congr {j k : Live β} {buffer buffer' : Buffer}
    (hj : j.buffer = .ok buffer) (hk : k.buffer = .ok buffer') {data : Bytes}
    (hdata : data ≠ []) (hroomy : j.roomy data.length = k.roomy data.length) :
    (j.write data).after = (k.write data).after := by
  have hplaced : j.placed data = k.placed data := by rw [placed, placed, hroomy]
  rw [write_after hj hdata, write_after hk hdata, storing_eq, storing_eq, hplaced]

theorem write_after_of_overBound {j : Live β} {buffer : Buffer}
    (hbuffer : j.buffer = .ok buffer) {data : Bytes} (hdata : data ≠ [])
    (hover : (j.placed data).overBound = true) :
    (j.write data).after = (j.storing data).after.sync.after := by
  rw [write_after hbuffer hdata, if_pos hover]

end Steady

/-! ## Histories of stopped attempts -/

section Retried

variable {σ β : Type} [Medium σ] [Medium β] [Screened σ β]

/-- `Retried data j j'`: attempts to write `data` to `j`, each of them stopped
at an append, have led to `j'`.  Between the attempts the screen may have
become any other before the same base. -/
inductive Retried (data : Bytes) : Live σ → Live σ → Prop
  | start (j : Live σ) : Retried data j j
  | rearmed {j j₁ j₂ : Live σ} : Retried data j j₁ → j₂.bare = j₁.bare → Retried data j j₂
  | attempt {j j₁ : Live σ} : Retried data j j₁ →
      (j₁.write data).result = .error (.stopped .writeAppend) →
      Retried data j (j₁.write data).after

theorem flushAnd_of_nil {j : Live σ} (hheld : j.held = [])
    (hok : (j.flushAnd true).result = .ok ()) :
    (j.flushAnd true).after.bare = j.bare.sync.after := by
  have hsync : j.flushAnd true = j.sync := by
    rw [flushAnd, flush_of_nil hheld]
    rfl
  rw [hsync] at hok ⊢
  rcases sync_cases j with h | h
  · exact congrArg Outcome.after h
  · have hstopped : j.sync.result = .error (.stopped .sync) := congrArg Outcome.result h
    exact nomatch hok.symm.trans hstopped

def planned (plan : List Bool) (j : Live (Fitful β)) : Live (Fitful β) :=
  { j with medium.plan := plan }

theorem planned_bare (plan : List Bool) (j : Live (Fitful β)) :
    (j.planned plan).bare = j.bare := rfl

variable [Steady β]

/-- However often it is tried, the journal is as it was or has flushed its
tail once to make room. -/
theorem Retried.bare_cases {data : Bytes} (hdata : data ≠ []) {j j' : Live σ}
    (h : Retried data j j') {buffer : Buffer} (hbuffer : j.buffer = .ok buffer) :
    j'.bare = j.bare ∨
      j.held ≠ [] ∧ j.settings.room < j.held.length + data.length ∧
        j'.bare = j.bare.flush.after := by
  induction h with
  | start => exact .inl rfl
  | rearmed _ hbare ih =>
      rw [hbare]
      exact ih
  | @attempt j₁ _ hstopped ih =>
      rcases ih with hsame | ⟨hheld, hfull, hflushed⟩
      · have hbuffer₁ : j₁.buffer = .ok buffer := (congrArg Live.buffer hsame).trans hbuffer
        have hend := (write_lands hbuffer₁ hdata).of_append_stopped
          (j := j₁.bare) hbuffer₁ hdata hstopped
        rw [hsame] at hend
        exact hend
      · have hbuffer₁ : j₁.buffer = .ok { buffer with held := [] } :=
          (congrArg Live.buffer hflushed).trans (flush_buffer (j := j.bare) hbuffer)
        have hempty : j₁.held = [] := (congrArg held hflushed).trans (flush_held j.bare)
        rcases (write_lands hbuffer₁ hdata).of_append_stopped
          (j := j₁.bare) hbuffer₁ hdata hstopped with hend | ⟨hnot, -, -⟩
        · exact .inr ⟨hheld, hfull, hend.trans hflushed⟩
        · exact absurd hempty hnot

theorem Retried.roomy_eq {data : Bytes} (hdata : data ≠ []) {j j' : Live σ}
    (h : Retried data j j') {buffer : Buffer} (hbuffer : j.buffer = .ok buffer) :
    (∃ buffer' : Buffer, j'.buffer = .ok buffer') ∧
      j'.bare.roomy data.length = j.bare.roomy data.length := by
  rcases h.bare_cases hdata hbuffer with hsame | ⟨hheld, hfull, hflushed⟩
  · exact ⟨⟨buffer, (congrArg Live.buffer hsame).trans hbuffer⟩, by rw [hsame]⟩
  · refine ⟨⟨_, (congrArg Live.buffer hflushed).trans (flush_buffer (j := j.bare) hbuffer)⟩, ?_⟩
    rw [hflushed]
    exact roomy_flush (j := j.bare) hfull hheld

/-- **Retrying lands the data exactly once.**  After any number of attempts
that were stopped at an append, a write that nothing stops succeeds and
leaves what a single write with no fault leaves; and if only its sync is
stopped, a flush that syncs leaves it. -/
theorem write_after_retries {data : Bytes} (hdata : data ≠ []) {j j' : Live σ}
    {buffer : Buffer} (hbuffer : j.buffer = .ok buffer) (h : Retried data j j') :
    (j.bare.write data).result = .ok () ∧
      ((∀ point, (j'.write data).result ≠ .error (.stopped point)) →
        (j'.write data).result = .ok () ∧
          (j'.write data).after.bare = (j.bare.write data).after) ∧
      ((j'.write data).result = .error (.stopped .sync) →
        ∀ j'' : Live σ, j''.bare = (j'.write data).after.bare →
          (j''.flushAnd true).result = .ok () →
            (j''.flushAnd true).after.bare = (j.bare.write data).after) := by
  obtain ⟨⟨buffer', hbuffer'⟩, hroomy⟩ := h.roomy_eq hdata hbuffer
  -- stopped attempts may have flushed the tail; once room is made it is all the same
  have hsame : (j'.bare.write data).after = (j.bare.write data).after :=
    write_after_congr (j := j'.bare) (k := j.bare) hbuffer' hbuffer hdata hroomy
  have hlands := write_lands hbuffer' hdata
  refine ⟨write_result (j := j.bare) hbuffer hdata, ?_, ?_⟩
  · intro hfree
    have hok : (j'.write data).result = .ok () := by
      rcases hlands.result_cases (j := j'.bare) hbuffer' hdata with hok | happend | hsync
      · exact hok
      · exact absurd happend (hfree _)
      · exact absurd hsync (hfree _)
    refine ⟨hok, ?_⟩
    rw [← hsame]
    exact congrArg Outcome.after (hlands.of_ok hok)
  · intro hstopped j'' hbare hok
    obtain ⟨hover, hafter⟩ := hlands.of_sync_stopped (j := j'.bare) hbuffer' hdata hstopped
    have hstored : j''.bare = (j'.bare.storing data).after := hbare.trans hafter
    have hheld : j''.held = [] := by
      rw [← bare_held, hstored]
      exact storing_held _ _
    rw [flushAnd_of_nil hheld hok, hstored, ← hsame,
      write_after_of_overBound (j := j'.bare) hbuffer' hdata hover]

/-- A journal whose tail is in the way of two more bytes, and whose bound
tolerates one. -/
def cramped : Live (Fitful InMemory) :=
  { settings := { capacity := 3, bound := 1 }
    medium := ⟨[], .holding []⟩
    buffer := .ok ⟨3, [1, 2]⟩
    boundary := 0 }

/-- After an attempt whose flush to make room was stopped; of the next one the
forced flush will be. -/
def crampedOnce : Live (Fitful InMemory) :=
  ((cramped.planned [true]).write [7, 8]).after.planned [false, true]

/-- After that attempt; of the next one only the sync will be stopped. -/
def crampedTwice : Live (Fitful InMemory) :=
  (crampedOnce.write [7, 8]).after.planned [false, true]

/-- The sync of a third attempt is stopped, and a flush that syncs sets it
right. -/
theorem cramped_write_after_retries :
    Retried [7, 8] (cramped.planned [true]) crampedTwice ∧
      (crampedTwice.write [7, 8]).result = .error (.stopped .sync) ∧
      ((crampedTwice.write [7, 8]).after.flushAnd true).after.bare =
        (cramped.bare.write [7, 8]).after := by
  have honce : Retried [7, 8] (cramped.planned [true]) crampedOnce :=
    ((Retried.start _).attempt rfl).rearmed (planned_bare _ _)
  have htwice : Retried [7, 8] (cramped.planned [true]) crampedTwice :=
    (honce.attempt rfl).rearmed (planned_bare _ _)
  have hsync : (crampedTwice.write [7, 8]).result = .error (.stopped .sync) := rfl
  have hflushed : ((crampedTwice.write [7, 8]).after.flushAnd true).result = .ok () := rfl
  refine ⟨htwice, hsync, ?_⟩
  exact (write_after_retries (by decide) rfl htwice).2.2 hsync _ rfl hflushed

end Retried

end WriteBack.Live
