/-
# Calls — the ways in which every call on a journal can end

A call on a live journal, seen from beneath the screen, ends in one of few
ways, whatever is stopped.  A write lands (`Landing`).  A flush on demand
comes through, or its append is stopped and nothing has moved, or everything
moved and then its sync is stopped (`Flushing`).  A read moves nothing.

`Turned` is this list for all calls except closing, and `perform_turned` says
that it is complete.  It gives result, state and events together, so that
whatever is to be shown of one call is shown by going through the list, and
no proof has to open a call again.
-/
import WriteBack.Proofs.Landing
import WriteBack.Proofs.Run

namespace WriteBack

namespace Outcome

variable {State State' α β γ : Type}

theorem map_lift (call : Outcome State α) (f : α → β) (wrap : State → State') :
    (call.map f).lift wrap = (call.lift wrap).map f := rfl

theorem map_map (call : Outcome State α) (f : α → β) (g : β → γ) :
    (call.map f).map g = call.map fun value => g (f value) := by
  obtain ⟨result, after, events⟩ := call
  cases result with
  | ok value => rfl
  | error failure => rfl

theorem andThen_done (call : Outcome State Unit) :
    (call.andThen fun _ state => .done () state) = call := by
  obtain ⟨result, after, events⟩ := call
  cases result with
  | ok value => simp [andThen, done]
  | error failure => rfl

end Outcome

namespace Live

/-! ## Flushing on demand -/

section Flushes

variable {β : Type} [Medium β]

/-- How a flush on demand can end. -/
inductive Flushing (j : Live β) (syncing : Bool) : Outcome (Live β) Unit → Prop
  | through : Flushing j syncing (j.flushAnd syncing)
  | untouched : j.held ≠ [] → Flushing j syncing (.fail (.stopped .writeAppend) j)
  | undurable : syncing = true →
      Flushing j syncing ⟨.error (.stopped .sync), j.flush.after, j.flush.events⟩

theorem Flushing.of_ok {j : Live β} {syncing : Bool} {outcome : Outcome (Live β) Unit}
    (h : Flushing j syncing outcome) (hok : outcome.result = .ok ()) :
    outcome = j.flushAnd syncing := by
  cases h with
  | through => rfl
  | untouched => exact nomatch hok
  | undurable => exact nomatch hok

theorem flushAnd_false (j : Live β) : j.flushAnd false = j.flush :=
  j.flush.andThen_done

theorem forceWrite_eq (j : Live β) :
    j.forceWrite = (j.flushAnd true).map fun _ => (j.flushAnd true).after.boundary := by
  rw [forceWrite]
  cases h : (j.flushAnd true).result with
  | ok value =>
      rw [Outcome.andThen_of_ok _ h, Outcome.map, h]
      simp [Outcome.done, Except.map]
  | error failure =>
      rw [Outcome.andThen_of_error _ h, Outcome.map, h]
      rfl

theorem lastFlush_after (j : Live β) : j.lastFlush.after = j.flush.after := by
  unfold lastFlush
  dsimp only
  split <;> rfl

theorem lastFlush_result (j : Live β) : j.lastFlush.result = j.flush.result := by
  unfold lastFlush
  dsimp only
  split <;> simp [*]

theorem drop_fst (j : Live β) :
    j.drop.1 = if j.exposed = 0 then j.medium else (j.flushAnd true).after.medium := by
  unfold drop
  split
  · rfl
  · dsimp only
    split <;> rfl

variable [Steady β]

theorem flushAnd_true (j : Live β) :
    j.flushAnd true = ⟨.ok (), j.flush.after.sync.after, j.flush.events⟩ := by
  rw [flushAnd, Outcome.andThen_of_ok _ (flush_result j), if_pos rfl, sync_eq]
  simp [Outcome.done]

theorem flushAnd_result (j : Live β) (syncing : Bool) : (j.flushAnd syncing).result = .ok () := by
  cases syncing with
  | false => rw [flushAnd_false, flush_result]
  | true => rw [flushAnd_true]

end Flushes

section Screen

variable {σ β : Type} [Medium σ] [Medium β] [Screened σ β] [Steady β]

/-- A flush on demand, seen from beneath the screen, ends in one of the three
ways. -/
theorem flushAnd_ends (j : Live σ) (syncing : Bool) :
    Flushing j.bare syncing ((j.flushAnd syncing).lift bare) := by
  rcases flush_cases j with hflush | ⟨hheld, hflush⟩
  case inr =>
    rw [flushAnd, Outcome.lift_andThen_of_error _ hflush]
    exact .untouched hheld
  cases syncing with
  | false =>
      rw [flushAnd_false, hflush, ← flushAnd_false]
      exact .through
  | true =>
      have hafter : j.flush.after.bare = j.bare.flush.after := congrArg Outcome.after hflush
      have hsync := sync_cases j.flush.after
      rw [hafter] at hsync
      rcases hsync with hsync | hsync
      · rw [flushAnd, Outcome.lift_andThen_of_ok _ hflush (flush_result _) hsync,
          ← Outcome.andThen_of_ok (fun _ j' => j'.sync) (flush_result j.bare)]
        exact .through
      · rw [flushAnd, Outcome.lift_andThen_of_ok _ hflush (flush_result _) hsync]
        simpa [Outcome.fail] using Flushing.undurable (j := j.bare) rfl

end Screen

/-! ## All calls but closing -/

section Turns

open Journal (Request Reply)

variable {β : Type} [Medium β]

/-- What a call that does not close the journal can come to.  Of a read only
that it moves nothing is said here. -/
inductive Turned (j : Live β) : Request → Outcome (Live β) Reply → Prop
  | refused {shortage : Shortage} (data : Bytes) : j.buffer = .error shortage →
      Turned j (.write data) (.fail (.bufferUnavailable shortage) j)
  | idle {buffer : Buffer} : j.buffer = .ok buffer →
      Turned j (.write []) (.done .nothing j)
  | landed {buffer : Buffer} {data : Bytes} {outcome : Outcome (Live β) Unit} :
      j.buffer = .ok buffer → data ≠ [] → Landing j data outcome →
      Turned j (.write data) (outcome.map fun _ => .nothing)
  | flushed {syncing : Bool} {outcome : Outcome (Live β) Unit} : Flushing j syncing outcome →
      Turned j (.flush syncing) (outcome.map fun _ => .nothing)
  | forced {outcome : Outcome (Live β) Unit} : Flushing j true outcome →
      Turned j .forceWrite (outcome.map fun _ => .durable outcome.after.boundary)
  | served {dest : Bytes} {position length : Int64} (result : Except Failure Reply) :
      Turned j (.read dest position length) ⟨result, j, []⟩

variable {σ : Type} [Medium σ] [Screened σ β] [Steady β]

theorem read_events (j : Live σ) (dest : Bytes) (position length : Int64) :
    (j.read dest position length).1.events = [] := by
  unfold read
  split
  · rfl
  · unfold copyOut
    dsimp only
    split <;> rfl

theorem write_turned (j : Live σ) (data : Bytes) :
    Turned j.bare (.write data) (((j.write data).lift bare).map fun _ => .nothing) := by
  cases hbuffer : j.buffer with
  | error shortage =>
      rw [write_of_shortage hbuffer]
      exact .refused data hbuffer
  | ok buffer =>
      by_cases hdata : data = []
      · rw [hdata, write_nil hbuffer]
        exact .idle hbuffer
      · exact .landed hbuffer hdata (write_lands hbuffer hdata)

theorem forceWrite_turned (j : Live σ) :
    Turned j.bare .forceWrite ((j.forceWrite.lift bare).map .durable) := by
  have hforced := Turned.forced (flushAnd_ends j true)
  rw [← Outcome.map_lift, forceWrite_eq, Outcome.map_map]
  exact hforced

theorem read_turned (j : Live σ) (dest : Bytes) (position length : Int64) :
    Turned j.bare (.read dest position length)
      (((j.read dest position length).1.lift bare).map .copied) := by
  have hread : ((j.read dest position length).1.lift bare).map Reply.copied =
      ⟨(j.read dest position length).1.result.map .copied, j.bare, []⟩ := by
    rw [← read_bare j dest position length, ← read_events j dest position length]
    rfl
  rw [hread]
  exact .served _

end Turns

end Live

namespace Journal

variable {σ β : Type} [Medium σ] [Medium β] [Screened σ β] [Steady β]

/-- A call that does not close a live journal, seen from beneath the screen,
ends in one of the listed ways. -/
theorem perform_turned (j : Live σ) {request : Request} (hrequest : request ≠ .close) :
    ∃ outcome : Outcome (Live σ) Reply, ((live j).perform request).1 = outcome.lift live ∧
      j.bare.Turned request (outcome.lift Live.bare) := by
  cases request with
  | write data => exact ⟨(j.write data).map fun _ => .nothing, rfl, Live.write_turned j data⟩
  | flush syncing =>
      exact ⟨(j.flushAnd syncing).map fun _ => .nothing, rfl,
        .flushed (Live.flushAnd_ends j syncing)⟩
  | forceWrite => exact ⟨j.forceWrite.map .durable, rfl, Live.forceWrite_turned j⟩
  | read dest position length =>
      exact ⟨(j.read dest position length).1.map .copied, rfl,
        Live.read_turned j dest position length⟩
  | close => exact absurd rfl hrequest

theorem perform_closed (settings : Settings) (medium : σ) (request : Request) :
    ((closed settings medium).perform request).1.after = closed settings medium := by
  cases request with
  | write data => rfl
  | flush syncing => rfl
  | forceWrite => rfl
  | read dest position length => rfl
  | close => rfl

theorem live_of_perform {j : Journal σ} {request : Request} {state : Live σ}
    (h : (j.perform request).1.after = live state) :
    ∃ (before : Live σ) (outcome : Outcome (Live σ) Reply), j = live before ∧
      outcome.after = state ∧ before.bare.Turned request (outcome.lift Live.bare) := by
  cases j with
  | closed settings medium =>
      rw [perform_closed] at h
      exact nomatch h
  | live before =>
      have hrequest : request ≠ .close := by
        intro hclose
        subst hclose
        exact nomatch h
      obtain ⟨outcome, hperform, hturned⟩ := perform_turned before hrequest
      rw [hperform] at h
      exact ⟨before, outcome, rfl, live.inj h, hturned⟩

end Journal

end WriteBack
