/-
# The stream — nothing is lost, doubled or out of order

A journal over a faithful base *carries* a stream of bytes: what lies on the
base is the part of the stream below the boundary, and the tail is the rest.
This is the invariant of a journal.  Flushing and syncing keep the stream,
placing data adds the data to its end, and of a write that was stopped
somewhere `write_lands` says which of these has happened.

Carried along a run, the invariant says what the stream is: what the base
held when the journal was opened, and after it the data of the accepted
writes in the order in which they were made (`Reached.carries`).
-/
import WriteBack.Proofs.Landing
import WriteBack.Proofs.Run

namespace WriteBack

open Faithful (contents Undisturbed)

/-! ## Sequences keep what their parts keep -/

theorem Outcome.andThen_after {State α β : Type} {P : State → Prop} {first : Outcome State α}
    {next : α → State → Outcome State β} (hfirst : P first.after)
    (hnext : ∀ value, P (next value first.after).after) : P (first.andThen next).after := by
  cases h : first.result with
  | ok value =>
      rw [andThen_of_ok next h]
      exact hnext value
  | error failure =>
      rw [andThen_of_error next h]
      exact hfirst

namespace Live

/-! ## Journals that carry a stream -/

section Carries

variable {β : Type} [Medium β] [Faithful β]

/-- The journal carries the stream: its base, which nobody else has touched,
holds the stream up to the boundary, and the tail is what follows. -/
structure Carries (j : Live β) (stream : Bytes) : Prop where
  undisturbed : Undisturbed j.medium
  boundary_eq : j.boundary = (contents j.medium).length
  stream_eq : contents j.medium ++ j.held = stream

variable {j : Live β} {stream : Bytes}

theorem Carries.append_nil (h : j.Carries stream) : j.Carries (stream ++ []) := by
  rwa [List.append_nil]

theorem Carries.contents_eq (h : j.Carries stream) :
    contents j.medium = stream.take j.boundary := by
  rw [← h.stream_eq, h.boundary_eq, List.take_left]

theorem Carries.contents_of_nil (h : j.Carries stream) (hheld : j.held = []) :
    contents j.medium = stream := by
  rw [← h.stream_eq, hheld, List.append_nil]

theorem Carries.logicalEnd_eq (h : j.Carries stream) : j.logicalEnd = stream.length := by
  rw [logicalEnd, h.boundary_eq, ← h.stream_eq, List.length_append]

theorem Carries.counted (h : j.Carries stream) (count : Nat) :
    (j.counted count).Carries stream :=
  ⟨h.undisturbed, h.boundary_eq, h.stream_eq⟩

theorem Carries.flush (h : j.Carries stream) : j.flush.after.Carries stream := by
  by_cases hheld : j.held = []
  · rw [flush_of_nil hheld]
    exact h
  · rw [flush_of_ne_nil hheld]
    have happend := Faithful.contents_append j.held h.undisturbed
    refine ⟨Faithful.undisturbed_append j.held h.undisturbed, ?_, ?_⟩
    · show j.boundary + j.held.length = (contents (Medium.append j.medium j.held).2).length
      rw [happend, List.length_append, h.boundary_eq]
    · show contents (Medium.append j.medium j.held).2 ++ (withHeld _ []).held = stream
      rw [happend, held_withHeld_nil, List.append_nil, h.stream_eq]

theorem Carries.sync (h : j.Carries stream) : j.sync.after.Carries stream := by
  rw [sync_eq]
  have hsync : contents (Medium.sync j.medium).2 = contents j.medium :=
    Faithful.contents_sync j.medium
  refine ⟨Faithful.undisturbed_sync h.undisturbed, ?_, ?_⟩
  · show j.boundary = (contents (Medium.sync j.medium).2).length
    rw [hsync, h.boundary_eq]
  · show contents (Medium.sync j.medium).2 ++ j.held = stream
    rw [hsync, h.stream_eq]

theorem Carries.writeThrough (h : j.Carries stream) (hheld : j.held = []) (data : Bytes) :
    (j.writeThrough data).after.Carries (stream ++ data) := by
  rw [writeThrough_eq]
  have happend := Faithful.contents_append data h.undisturbed
  have hstream := h.contents_of_nil hheld
  refine ⟨Faithful.undisturbed_append data h.undisturbed, ?_, ?_⟩
  · show j.boundary + data.length = (contents (Medium.append j.medium data).2).length
    rw [happend, List.length_append, h.boundary_eq]
  · show contents (Medium.append j.medium data).2 ++ j.held = stream ++ data
    rw [happend, hheld, List.append_nil, hstream]

theorem Carries.withHeld (h : j.Carries stream) {buffer : Buffer} (hbuffer : j.buffer = .ok buffer)
    (data : Bytes) : (j.withHeld (j.held ++ data)).Carries (stream ++ data) := by
  refine ⟨h.undisturbed, h.boundary_eq, ?_⟩
  show contents j.medium ++ (j.withHeld (j.held ++ data)).held = stream ++ data
  rw [held_withHeld hbuffer, ← List.append_assoc, h.stream_eq]

theorem Carries.roomy (h : j.Carries stream) (count : Nat) :
    (j.roomy count).Carries stream := by
  rcases roomy_cases j count with ⟨-, -, hroomy⟩ | ⟨-, hroomy⟩
  · rw [hroomy]
    exact h.flush
  · rw [hroomy]
    exact h

theorem Carries.placed (h : j.Carries stream) {buffer : Buffer}
    (hbuffer : j.buffer = .ok buffer) (data : Bytes) :
    (j.placed data).Carries (stream ++ data) := by
  by_cases hlt : j.settings.room < data.length
  · rw [placed_of_lt hlt]
    exact (h.roomy _).writeThrough (roomy_held_of_lt hlt) data
  · obtain ⟨left, hleft⟩ := roomy_buffer hbuffer data.length
    rw [placed_of_le (Nat.le_of_not_lt hlt)]
    exact (h.roomy _).withHeld hleft data

theorem Carries.storing (h : j.Carries stream) {buffer : Buffer}
    (hbuffer : j.buffer = .ok buffer) (data : Bytes) :
    (j.storing data).after.Carries (stream ++ data) := by
  rw [storing_eq]
  exact (h.placed hbuffer data).flush.counted _

theorem Carries.write (h : j.Carries stream) {buffer : Buffer}
    (hbuffer : j.buffer = .ok buffer) {data : Bytes} (hdata : data ≠ []) :
    (j.write data).after.Carries (stream ++ data) := by
  rw [write_after hbuffer hdata]
  split
  · exact (h.storing hbuffer data).sync
  · exact (h.placed hbuffer data).counted _

/-- However a write ends, the stream has grown by what the write adds. -/
theorem Landing.carries {data : Bytes} {outcome : Outcome (Live β) Unit}
    (hland : Landing j data outcome) (h : j.Carries stream) {buffer : Buffer}
    (hbuffer : j.buffer = .ok buffer) (hdata : data ≠ []) :
    outcome.after.Carries (stream ++ Journal.taken data outcome.result) := by
  cases hland with
  | through =>
      rw [write_result hbuffer hdata]
      exact h.write hbuffer hdata
  | untouched => exact h.append_nil
  | afterFlush => exact h.flush.append_nil
  | undurable => exact h.storing hbuffer data

end Carries

/-! ## Carrying a stream behind a screen -/

section Screen

variable {σ β : Type} [Medium σ] [Medium β] [Screened σ β] [Faithful β]
variable {j : Live σ} {stream : Bytes}

theorem Carries.of_lift {α : Type} {outcome : Outcome (Live σ) α} {beneath : Outcome (Live β) α}
    (hlift : outcome.lift bare = beneath) (h : beneath.after.Carries stream) :
    outcome.after.bare.Carries stream := by
  subst hlift
  exact h

theorem Carries.flush_after (h : j.bare.Carries stream) : j.flush.after.bare.Carries stream := by
  rcases flush_cases j with hflush | ⟨-, hflush⟩
  · exact .of_lift hflush h.flush
  · exact .of_lift hflush h

theorem Carries.sync_after (h : j.bare.Carries stream) : j.sync.after.bare.Carries stream := by
  rcases sync_cases j with hsync | hsync
  · exact .of_lift hsync h.sync
  · exact .of_lift hsync h

theorem Carries.flushAnd_after (h : j.bare.Carries stream) (syncing : Bool) :
    (j.flushAnd syncing).after.bare.Carries stream := by
  apply Outcome.andThen_after (P := fun j' : Live σ => j'.bare.Carries stream) h.flush_after
  intro _
  cases syncing with
  | false => exact h.flush_after
  | true => exact h.flush_after.sync_after

theorem Carries.forceWrite_after (h : j.bare.Carries stream) :
    j.forceWrite.after.bare.Carries stream := by
  have hflushed := h.flushAnd_after true
  apply Outcome.andThen_after (P := fun j' : Live σ => j'.bare.Carries stream) hflushed
  intro _
  exact hflushed

theorem Carries.write_after (h : j.bare.Carries stream) (data : Bytes) :
    (j.write data).after.bare.Carries
      (stream ++ Journal.taken data (j.write data).result) := by
  cases hbuffer : j.buffer with
  | error shortage =>
      rw [write_of_shortage hbuffer]
      exact h.append_nil
  | ok buffer =>
      by_cases hdata : data = []
      · rw [hdata, write_nil hbuffer]
        exact h.append_nil
      · exact (write_lands hbuffer hdata).carries (j := j.bare) h hbuffer hdata

end Screen

end Live

/-! ## Carrying a stream through a run -/

namespace Journal

variable {σ β : Type} [Medium σ] [Medium β] [Screened σ β] [Faithful β]

/-- A live journal carries the stream beneath the screen.  Of a closed one
nothing is asked. -/
def Carries (j : Journal σ) (stream : Bytes) : Prop :=
  match j with
  | live state => state.bare.Carries stream
  | closed _ _ => True

theorem Carries.append_nil {j : Journal σ} {stream : Bytes} (h : j.Carries stream) :
    j.Carries (stream ++ []) := by
  rwa [List.append_nil]

theorem Carries.onLive_after {j : Journal σ} {stream stream' : Bytes} {α : Type}
    {call : Live σ → Outcome (Live σ) α} (h : j.Carries stream)
    (hcall : ∀ state : Live σ, j = live state → state.bare.Carries stream →
      (call state).after.bare.Carries stream') : (j.onLive call).after.Carries stream' := by
  cases j with
  | live state => exact hcall state rfl h
  | closed settings medium => trivial

/-- One call carries the stream on, longer by what the call adds to it. -/
theorem Carries.perform_after {j : Journal σ} {stream : Bytes} (h : j.Carries stream)
    (request : Request) :
    (j.perform request).1.after.Carries (stream ++ (j.report request).accepted) := by
  cases request with
  | write data =>
      show (j.write data).after.Carries
        (stream ++ taken data ((j.write data).result.map fun _ => Reply.nothing))
      rw [taken_map]
      apply h.onLive_after
      intro state hstate hcarries
      subst hstate
      exact hcarries.write_after data
  | flush syncing =>
      have hflush : (j.flush syncing).after.Carries stream := by
        apply h.onLive_after
        intro state _ hcarries
        exact hcarries.flushAnd_after syncing
      exact hflush.append_nil
  | forceWrite =>
      have hforce : j.forceWrite.after.Carries stream := by
        apply h.onLive_after
        intro state _ hcarries
        exact hcarries.forceWrite_after
      exact hforce.append_nil
  | read dest position length =>
      cases j with
      | live state =>
          have hread : (state.read dest position length).1.after.bare.Carries stream := by
            rw [Live.read_bare]
            exact h
          exact hread.append_nil
      | closed settings medium => trivial
  | close =>
      cases j with
      | live state => trivial
      | closed settings medium => trivial

theorem Carries.meddled {j : Journal σ} {stream : Bytes} (h : j.Carries stream) {medium : σ}
    (hmeddled : Screened.Meddled j.medium medium) :
    (j.mapMedium fun _ => medium).Carries stream := by
  cases j with
  | closed settings old => trivial
  | live state =>
      show ({ state with medium } : Live σ).bare.Carries stream
      rw [Live.bare_of_base_eq state (Screened.base_of_meddled hmeddled)]
      exact h

theorem start_carries {medium : σ} {settings : Settings} {supply : Supply} {j : Journal σ}
    {events : List Event} (hbase : Undisturbed (Screened.base medium))
    (hsupply : supply.Honest) (h : start medium settings supply = (.ok j, events)) :
    j.Carries (contents (Screened.base medium)) := by
  rw [eq_fresh_of_start h]
  refine ⟨hbase, (Screened.position_eq medium).trans (Faithful.position_eq hbase), ?_⟩
  have hheld := Live.fresh_held hsupply medium settings
  exact (congrArg (contents (Screened.base medium) ++ ·) hheld).trans (List.append_nil _)

/-- What a run carries: what the base held, and then what was accepted. -/
theorem Reached.carries {base : β} {history : List Report} {j : Journal σ}
    (hbase : Undisturbed base) (h : Reached base history j) :
    j.Carries (contents base ++ accepted history) := by
  induction h with
  | opened hmedium hsupply hstart =>
      subst hmedium
      exact (start_carries hbase hsupply hstart).append_nil
  | called request h ih =>
      rw [accepted_concat, ← List.append_assoc]
      exact ih.perform_after request
  | asked query h ih =>
      rw [accepted_concat, ← List.append_assoc]
      exact ih.append_nil
  | meddled h hmeddled ih => exact ih.meddled hmeddled

/-- **No accepted byte is lost, doubled or out of order.**  Whatever was
called, asked and meddled with since the journal was opened, the base and the
tail together hold what the base held then, followed by the data of the
accepted writes in their order; the base holds the part below the boundary,
and the journal reports the end of it all as its position. -/
theorem Reached.holds_accepted {base : β} (hbase : Undisturbed base) {history : List Report}
    {j : Live σ} (h : Reached base history (live j)) :
    contents (Screened.base j.medium) ++ j.held = contents base ++ accepted history ∧
      contents (Screened.base j.medium) =
        (contents base ++ accepted history).take j.boundary ∧
      (contents (Screened.base j.medium)).length = j.boundary ∧
      (live j).position = .ok ((contents base).length + (accepted history).length) := by
  have hcarries : j.bare.Carries (contents base ++ accepted history) := h.carries hbase
  refine ⟨hcarries.stream_eq, hcarries.contents_eq, hcarries.boundary_eq.symm, ?_⟩
  show Except.ok j.bare.logicalEnd = _
  rw [hcarries.logicalEnd_eq, List.length_append]

/-- A flush is stopped and its write repeated, and then a sync is stopped:
every byte is there once. -/
theorem holds_accepted_of_faults :
    ∃ (history : List Report) (j : Live (Rigged InMemory)),
      Reached (InMemory.holding [9]) history (live j) ∧
        accepted history = [1, 2, 3, 4, 5] ∧
        j.medium.base.bytes ++ j.held = [9, 1, 2, 3, 4, 5] := by
  have hstart : start (Rigged.behind 2 (InMemory.holding [9])) { capacity := 4, bound := 3 }
      .heap = (.ok _, _) := rfl
  have hopened : Reached (InMemory.holding [9]) _ _ := .opened rfl Supply.heap_honest hstart
  have hstopped := ((hopened.called (.write [1, 2])).switched 1 (.arm .writeAppend .once)).called
    (.write [3, 4, 5])
  have hreached := (hstopped.switched 0 (.arm .sync .always)).called (.write [3, 4, 5])
  exact ⟨_, _, hreached, rfl, (hreached.holds_accepted trivial).1.trans rfl⟩

end Journal

end WriteBack
