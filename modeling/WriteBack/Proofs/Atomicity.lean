/-
# Atomicity — what a write that fails leaves behind

A write fails in one of three ways, and its failure tells which.  Either the
journal refused it and nothing happened at all; or an append was stopped and
clients cannot tell that anything happened; or only the forced sync was
stopped, and the write happened in full but is not durable yet.  There is
nothing between the last two: the end of the stream has moved by the whole of
the data or not at all.

What an append that was stopped may leave is the tail flushed to make room.
That moves the boundary, but neither the stream nor any counter that has to
do with calls.
-/
import WriteBack.Proofs.Stream
import Mathlib.Logic.ExistsUnique

namespace WriteBack

open Faithful (contents Undisturbed)

namespace Live

/-! ## Counters that stay -/

section Counters

variable {β : Type} [Medium β] [Steady β]

theorem flush_tally_frame (j : Live β) : ∃ appends bytesFlushed : Nat,
    j.flush.after.tally = { j.tally with appends, bytesFlushed } := by
  rw [flush_tally]
  split
  · exact ⟨_, _, rfl⟩
  · exact ⟨_, _, rfl⟩

theorem roomy_tally_frame (j : Live β) (count : Nat) : ∃ appends bytesFlushed : Nat,
    (j.roomy count).tally = { j.tally with appends, bytesFlushed } := by
  rcases roomy_cases j count with ⟨-, -, h⟩ | ⟨-, h⟩
  · rw [h]
    exact flush_tally_frame j
  · rw [h]
    exact ⟨_, _, rfl⟩

theorem placed_tally_frame (j : Live β) (data : Bytes) :
    ∃ appends bytesFlushed straightThrough : Nat,
      (j.placed data).tally = { j.tally with appends, bytesFlushed, straightThrough } := by
  obtain ⟨appends, bytesFlushed, h⟩ := roomy_tally_frame j data.length
  by_cases hlt : j.settings.room < data.length
  · rw [placed_of_lt hlt, writeThrough_eq]
    exact ⟨appends + 1, bytesFlushed + data.length, j.tally.straightThrough + 1, by simp [booked, h]⟩
  · rw [placed_of_le (Nat.le_of_not_lt hlt)]
    exact ⟨appends, bytesFlushed, j.tally.straightThrough, h⟩

theorem storing_tally (j : Live β) (data : Bytes) :
    (j.storing data).after.tally.writes = j.tally.writes + 1 ∧
      (j.storing data).after.tally.bytesWritten = j.tally.bytesWritten + data.length := by
  obtain ⟨_, _, _, hplaced⟩ := placed_tally_frame j data
  obtain ⟨_, _, hflush⟩ := flush_tally_frame (j.placed data)
  rw [storing_eq]
  simp [counted, hflush, hplaced]

end Counters

/-! ## What clients can and cannot tell -/

section Afterwards

variable {β : Type} [Medium β] [Faithful β]

/-- Clients cannot tell the two apart: the stream is the same and so are the
counters of calls. -/
structure Alike (j j' : Live β) : Prop where
  logicalEnd_eq : j'.logicalEnd = j.logicalEnd
  stream_eq : contents j'.medium ++ j'.held = contents j.medium ++ j.held
  writes_eq : j'.tally.writes = j.tally.writes
  bytesWritten_eq : j'.tally.bytesWritten = j.tally.bytesWritten
  syncs_eq : j'.tally.syncs = j.tally.syncs
  straightThrough_eq : j'.tally.straightThrough = j.tally.straightThrough

theorem Alike.refl (j : Live β) : Alike j j :=
  ⟨rfl, rfl, rfl, rfl, rfl, rfl⟩

theorem Carries.alike_flush {j : Live β} {stream : Bytes} (h : j.Carries stream) :
    Alike j j.flush.after := by
  obtain ⟨appends, bytesFlushed, htally⟩ := flush_tally_frame j
  exact
    { logicalEnd_eq := flush_logicalEnd j
      stream_eq := h.flush.stream_eq.trans h.stream_eq.symm
      writes_eq := by rw [htally]
      bytesWritten_eq := by rw [htally]
      syncs_eq := by rw [htally]
      straightThrough_eq := by rw [htally] }

/-- All of the data has reached the base and was counted; what it exposes is
not yet durable. -/
structure Undurable (j : Live β) (data : Bytes) (j' : Live β) : Prop where
  logicalEnd_eq : j'.logicalEnd = j.logicalEnd + data.length
  stream_eq : contents j'.medium = contents j.medium ++ j.held ++ data
  held_eq : j'.held = []
  boundary_eq : j'.boundary = j'.logicalEnd
  writes_eq : j'.tally.writes = j.tally.writes + 1
  bytesWritten_eq : j'.tally.bytesWritten = j.tally.bytesWritten + data.length
  unsynced_eq : j'.unsynced = j.exposed + data.length

theorem Carries.undurable_storing {j : Live β} {stream : Bytes} (h : j.Carries stream)
    {buffer : Buffer} (hbuffer : j.buffer = .ok buffer) (data : Bytes) :
    Undurable j data (j.storing data).after := by
  have hheld := storing_held j data
  have hstream := (h.storing hbuffer data).stream_eq
  rw [hheld, List.append_nil, ← h.stream_eq] at hstream
  obtain ⟨hwrites, hbytes⟩ := storing_tally j data
  have hend : (j.storing data).after.logicalEnd = j.logicalEnd + data.length := by
    rw [storing_eq, ← placed_logicalEnd hbuffer data]
    exact flush_logicalEnd (j.placed data)
  exact
    { logicalEnd_eq := hend
      stream_eq := hstream
      held_eq := hheld
      boundary_eq := by rw [logicalEnd, hheld]; rfl
      writes_eq := hwrites
      bytesWritten_eq := hbytes
      unsynced_eq := by
        rw [storing_eq, ← placed_exposed hbuffer data]
        exact flush_unsynced (j.placed data) }

end Afterwards

end Live

/-! ## The three ways to fail -/

/-- How a write can fail. -/
inductive Mishap where
  | refused
  | appendStopped
  | syncStopped
deriving DecidableEq, Repr

namespace Mishap

/-- The failure tells how a write failed. -/
def told : Failure → Mishap
  | .io (.injected .sync) => syncStopped
  | .io _ => appendStopped
  | _ => refused

section Leaves

variable {σ β : Type} [Medium σ] [Medium β] [Screened σ β] [Faithful β]

/-- What a write that failed so has come to.  A refusal leaves even the medium
as it was, on which a panel would have counted any call. -/
def Leaves (j : Journal σ) (data : Bytes) (outcome : Outcome (Journal σ) Unit) :
    Mishap → Prop
  | refused =>
    (outcome.result = .error .closed ∨
        ∃ shortage, outcome.result = .error (.bufferUnavailable shortage)) ∧
      outcome.after = j ∧ outcome.events = []
  | appendStopped =>
    outcome.result = .error (.stopped .writeAppend) ∧
      ∃ state state' : Live σ, j = .live state ∧ outcome.after = .live state' ∧
        state.bare.Alike state'.bare ∧
        (state'.bare = state.bare ∨
          state.held ≠ [] ∧ state.settings.room < state.held.length + data.length ∧
            state.bare.flush.result = .ok () ∧ state'.bare = state.bare.flush.after)
  | syncStopped =>
    outcome.result = .error (.stopped .sync) ∧
      ∃ state state' : Live σ, j = .live state ∧ outcome.after = .live state' ∧
        state.bare.Undurable data state'.bare

variable {j : Journal σ} {data : Bytes} {outcome : Outcome (Journal σ) Unit}

theorem Leaves.eq_told {mishap : Mishap} {failure : Failure} (h : mishap.Leaves j data outcome)
    (hfail : outcome.result = .error failure) : mishap = told failure := by
  cases mishap with
  | refused =>
      obtain ⟨hclosed | ⟨shortage, hshortage⟩, -⟩ := h
      · cases hclosed.symm.trans hfail
        rfl
      · cases hshortage.symm.trans hfail
        rfl
  | appendStopped =>
      cases h.1.symm.trans hfail
      rfl
  | syncStopped =>
      cases h.1.symm.trans hfail
      rfl

/-- The end of the stream moves by all of the data or not at all. -/
theorem Leaves.position_cases {mishap : Mishap} (h : mishap.Leaves j data outcome) :
    outcome.after.position = j.position ∨
      ∃ offset, j.position = .ok offset ∧
        outcome.after.position = .ok (offset + data.length) := by
  cases mishap with
  | refused =>
      obtain ⟨-, hafter, -⟩ := h
      exact .inl (congrArg Journal.position hafter)
  | appendStopped =>
      obtain ⟨-, state, state', rfl, hafter, halike, -⟩ := h
      rw [hafter]
      exact .inl (congrArg Except.ok halike.logicalEnd_eq)
  | syncStopped =>
      obtain ⟨-, state, state', rfl, hafter, hundurable⟩ := h
      rw [hafter]
      exact .inr ⟨_, rfl, congrArg Except.ok hundurable.logicalEnd_eq⟩

end Leaves

end Mishap

section Failing

variable {σ β : Type} [Medium σ] [Medium β] [Screened σ β] [Faithful β]

theorem Live.Carries.write_mishap {j : Live σ} {stream : Bytes} (h : j.bare.Carries stream)
    {data : Bytes} {failure : Failure} (hfail : (j.write data).result = .error failure) :
    ∃ mishap : Mishap, mishap.Leaves (.live j) data ((Journal.live j).write data) := by
  cases hbuffer : j.buffer with
  | error shortage =>
      refine ⟨.refused, ?_⟩
      show Mishap.Leaves (.live j) data ((j.write data).lift .live) .refused
      rw [Live.write_of_shortage hbuffer]
      exact ⟨.inr ⟨shortage, rfl⟩, rfl, rfl⟩
  | ok buffer =>
      by_cases hdata : data = []
      · rw [hdata, Live.write_nil hbuffer] at hfail
        exact nomatch hfail
      have hlands := Live.write_lands hbuffer hdata
      rcases hlands.result_cases (j := j.bare) hbuffer hdata with hok | happend | hsync
      · exact nomatch hok.symm.trans hfail
      · refine ⟨.appendStopped, happend, j, _, rfl, rfl, ?_⟩
        rcases hlands.of_append_stopped (j := j.bare) hbuffer hdata happend with
          hsame | ⟨hheld, hfull, hflushed⟩
        · have halike : j.bare.Alike ((j.write data).lift Live.bare).after := by
            rw [hsame]
            exact .refl _
          exact ⟨halike, .inl hsame⟩
        · have halike := h.alike_flush
          rw [← hflushed] at halike
          exact ⟨halike, .inr ⟨hheld, hfull, Live.flush_result _, hflushed⟩⟩
      · refine ⟨.syncStopped, hsync, j, _, rfl, rfl, ?_⟩
        obtain ⟨-, hafter⟩ := hlands.of_sync_stopped (j := j.bare) hbuffer hdata hsync
        have hundurable := h.undurable_storing hbuffer data
        rw [← hafter] at hundurable
        exact hundurable

/-- **A write that fails has happened in full or not at all.**  In every state
that a run can reach there is exactly one way in which a failed write failed,
and the end of the stream is where it was or later by the whole of the
data. -/
theorem Journal.Reached.write_fails_one_way {base : β} (hbase : Undisturbed base)
    {history : List Report} {j : Journal σ} (h : Reached base history j) {data : Bytes}
    {failure : Failure} (hfail : (j.write data).result = .error failure) :
    (∃! mishap : Mishap, mishap.Leaves j data (j.write data)) ∧
      ((j.write data).after.position = j.position ∨
        ∃ offset, j.position = .ok offset ∧
          (j.write data).after.position = .ok (offset + data.length)) := by
  have hsome : ∃ mishap : Mishap, mishap.Leaves j data (j.write data) := by
    cases j with
    | live state => exact (h.carries hbase).write_mishap hfail
    | closed settings medium => exact ⟨.refused, .inl rfl, rfl, rfl⟩
  obtain ⟨mishap, hleaves⟩ := hsome
  have hunique : ∀ other : Mishap, other.Leaves j data (j.write data) → other = mishap := by
    intro other hother
    rw [hother.eq_told hfail, hleaves.eq_told hfail]
  exact ⟨⟨mishap, hleaves, hunique⟩, hleaves.position_cases⟩

end Failing

/-- The flush that makes room is let through and the forced flush is stopped:
the write has not happened. -/
theorem write_fails_one_way_after_flush :
    ∃ (history : List Journal.Report) (j : Journal (Fitful InMemory)),
      Journal.Reached (InMemory.holding []) history j ∧
        (j.write [7, 8]).result = .error (.stopped .writeAppend) ∧
        ∃! mishap : Mishap, mishap.Leaves j [7, 8] (j.write [7, 8]) := by
  have hstart : Journal.start (Fitful.mk [] (InMemory.holding [])) { capacity := 3, bound := 3 }
      .heap = (.ok _, _) := rfl
  have hopened : Journal.Reached (InMemory.holding []) _ _ :=
    .opened rfl Supply.heap_honest hstart
  have hwritten := hopened.called (.write [1, 2])
  have hreached := hwritten.meddled (show Screened.Meddled _ (Fitful.mk [false, true] _) from rfl)
  exact ⟨_, _, hreached, rfl, (hreached.write_fails_one_way trivial rfl).1⟩

end WriteBack
