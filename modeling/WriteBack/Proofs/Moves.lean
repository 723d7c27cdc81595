/-
# Moves — what carries bytes to the medium, on a steady base and behind a screen

A journal moves bytes by flushing its tail, by writing data through, and by
syncing.  Each of the three succeeds if the medium accepts what it is given,
as a steady medium always does, and what it leaves can be written down field by
field; that is the first half of this file.

The second half says how a screen can interfere.  The journal *beneath the
screen* (`Live.bare`) is the same journal over the base.  Seen from there a
move either is the move of the bare journal, or it was stopped and nothing
has happened.  So whatever faults do, all reasoning about a journal goes on
beneath the screen, where nothing ever fails.
-/
import WriteBack.Journal.Read
import WriteBack.Journal.Write
import WriteBack.Proofs.Media
import WriteBack.Proofs.Screen

namespace WriteBack

/-- What a journal reports when a screen stopped one of its calls. -/
abbrev Failure.stopped (point : Rig.Point) : Failure := .io (.injected point)

/-! ## Outcomes in sequence -/

namespace Outcome

variable {State State' α β : Type}

theorem andThen_of_ok {first : Outcome State α} {value : α}
    (next : α → State → Outcome State β) (h : first.result = .ok value) :
    first.andThen next =
      { next value first.after with
        events := first.events ++ (next value first.after).events } := by
  rw [andThen, h]

theorem andThen_of_error {first : Outcome State α} {failure : Failure}
    (next : α → State → Outcome State β) (h : first.result = .error failure) :
    first.andThen next = ⟨.error failure, first.after, first.events⟩ := by
  rw [andThen, h]

theorem onFailure_of_ok {call : Outcome State α} {value : α} (mend : State → State)
    (h : call.result = .ok value) : call.onFailure mend = call := by
  rw [onFailure, h]

theorem onFailure_of_error {call : Outcome State α} {failure : Failure} (mend : State → State)
    (h : call.result = .error failure) :
    call.onFailure mend = { call with after := mend call.after } := by
  rw [onFailure, h]

/-- Two calls in sequence, seen from elsewhere: the first succeeds there, and
the second is what goes on from where it left off. -/
theorem lift_andThen_of_ok {first : Outcome State α} {first' : Outcome State' α}
    (next : α → State → Outcome State β) {second : Outcome State' β} {wrap : State → State'}
    {value : α} (hfirst : first.lift wrap = first') (hok : first'.result = .ok value)
    (hsecond : (next value first.after).lift wrap = second) :
    (first.andThen next).lift wrap =
      { second with events := first'.events ++ second.events } := by
  subst hfirst hsecond
  rw [andThen_of_ok next hok]
  rfl

theorem lift_andThen_of_error {first : Outcome State α} {after : State'}
    {failure : Failure} {events : List Event} {wrap : State → State'}
    (next : α → State → Outcome State β) (h : first.lift wrap = ⟨.error failure, after, events⟩) :
    (first.andThen next).lift wrap = ⟨.error failure, after, events⟩ := by
  obtain ⟨result, state, told⟩ := first
  simp only [lift, Outcome.mk.injEq] at h
  obtain ⟨rfl, rfl, rfl⟩ := h
  rfl

theorem lift_onFailure_of_error {call : Outcome State α} {after : State'}
    {failure : Failure} {events : List Event} {wrap : State → State'} {mend : State → State}
    (mend' : State' → State') (hmend : ∀ state, wrap (mend state) = mend' (wrap state))
    (h : call.lift wrap = ⟨.error failure, after, events⟩) :
    (call.onFailure mend).lift wrap = ⟨.error failure, mend' after, events⟩ := by
  obtain ⟨result, state, told⟩ := call
  simp only [lift, Outcome.mk.injEq] at h
  obtain ⟨rfl, rfl, rfl⟩ := h
  simp only [onFailure, lift, hmend]

end Outcome

theorem Medium.gather_keeps {σ : Type} [Medium σ] {P : σ → Prop}
    (hread : ∀ (m : σ) (offset wanted : Nat), P m → P (Medium.readAt m offset wanted).2)
    {m : σ} (h : P m) (offset wanted : Nat) : P (Medium.gather m offset wanted).2 := by
  have hnext : ∀ {m m' : σ} {offset wanted : Nat} {answer : Delivery},
      Medium.readAt m offset wanted = (answer, m') → P m → P m' := by
    intro m m' offset wanted answer answered hm
    have hafter := hread m offset wanted hm
    rwa [answered] at hafter
  fun_induction Medium.gather m offset wanted with
  | case1 => exact h
  | case2 m offset wanted _ m' answered _ ih => exact ih (hnext answered h)
  | case3 m offset wanted _ error m' answered => exact hnext answered h
  | case4 m offset wanted _ m' answered => exact hnext answered h
  | case5 m offset wanted _ b bs m' answered _ ih => exact ih (hnext answered h)

theorem Medium.gather_view {σ α : Type} [Medium σ] {view : σ → α}
    (hview : ∀ (m : σ) (offset wanted : Nat), view (Medium.readAt m offset wanted).2 = view m)
    (m : σ) (offset wanted : Nat) : view (Medium.gather m offset wanted).2 = view m := by
  have hread : ∀ (m' : σ) (offset wanted : Nat), view m' = view m →
      view (Medium.readAt m' offset wanted).2 = view m := by
    intro m' offset wanted h
    exact (hview m' offset wanted).trans h
  exact Medium.gather_keeps hread rfl offset wanted

namespace Live

/-! ## The tail -/

section Tail

variable {σ : Type}

theorem held_of_buffer {j : Live σ} {buffer : Buffer} (h : j.buffer = .ok buffer) :
    j.held = buffer.held := by
  rw [held, h]

theorem held_withHeld {j : Live σ} {buffer : Buffer} (h : j.buffer = .ok buffer)
    (held : Bytes) : (j.withHeld held).held = held := by
  simp only [withHeld, Live.held, h, Except.map]

@[simp] theorem withHeld_held (j : Live σ) : j.withHeld j.held = j := by
  obtain ⟨settings, medium, buffer, boundary, unsynced, tally⟩ := j
  cases buffer <;> rfl

@[simp] theorem withHeld_withHeld (j : Live σ) (held held' : Bytes) :
    (j.withHeld held).withHeld held' = j.withHeld held' := by
  cases hbuffer : j.buffer <;> simp only [withHeld, hbuffer, Except.map]

@[simp] theorem held_withHeld_nil (j : Live σ) : (j.withHeld []).held = [] := by
  cases hbuffer : j.buffer <;> simp only [withHeld, held, hbuffer, Except.map]

end Tail

/-! ## Moves that the medium accepts or refuses -/

section Answered

variable {σ : Type} [Medium σ] {j : Live σ}

theorem flush_of_nil (h : j.held = []) : j.flush = .done () j := by
  rw [flush, h]
  rfl

theorem flush_of_append (h : j.held ≠ [])
    (happend : (Medium.append j.medium j.held).1 = .ok ()) :
    j.flush =
      ⟨.ok (),
        ({ j with medium := (Medium.append j.medium j.held).2 }.withHeld []).booked
          j.held.length,
        [.flushed j.held.length j.logicalEnd]⟩ := by
  have hanswer : Medium.append j.medium j.held = (.ok (), (Medium.append j.medium j.held).2) :=
    Prod.ext happend rfl
  rw [flush, if_neg (by simpa using h), hanswer]
  rfl

theorem flush_of_refused {error : MediumError} (h : j.held ≠ [])
    (happend : (Medium.append j.medium j.held).1 = .error error) :
    j.flush = .fail (.io error) { j with medium := (Medium.append j.medium j.held).2 } := by
  have hanswer : Medium.append j.medium j.held =
      (.error error, (Medium.append j.medium j.held).2) := Prod.ext happend rfl
  rw [flush, if_neg (by simpa using h), hanswer]

theorem refused_of_flush {failure : Failure} (hfailed : j.flush.result = .error failure) :
    j.held ≠ [] ∧ ∃ error, (Medium.append j.medium j.held).1 = .error error := by
  have hheld : j.held ≠ [] := by
    intro hheld
    rw [flush_of_nil hheld] at hfailed
    cases hfailed
  refine ⟨hheld, ?_⟩
  cases happend : (Medium.append j.medium j.held).1 with
  | ok value =>
      rw [flush_of_append hheld happend] at hfailed
      cases hfailed
  | error error => exact ⟨error, rfl⟩

theorem writeThrough_of_append {data : Bytes}
    (happend : (Medium.append j.medium data).1 = .ok ()) :
    j.writeThrough data =
      ⟨.ok (),
        { { j with medium := (Medium.append j.medium data).2 }.booked data.length with
          tally.straightThrough := j.tally.straightThrough + 1 },
        [.wroteThrough data.length (j.boundary + data.length)]⟩ := by
  have hanswer : Medium.append j.medium data = (.ok (), (Medium.append j.medium data).2) :=
    Prod.ext happend rfl
  rw [writeThrough, hanswer]
  rfl

theorem writeThrough_of_refused {data : Bytes} {error : MediumError}
    (happend : (Medium.append j.medium data).1 = .error error) :
    j.writeThrough data =
      .fail (.io error) { j with medium := (Medium.append j.medium data).2 } := by
  have hanswer : Medium.append j.medium data = (.error error, (Medium.append j.medium data).2) :=
    Prod.ext happend rfl
  rw [writeThrough, hanswer]

theorem sync_of_sync (hsync : (Medium.sync j.medium).1 = .ok ()) :
    j.sync =
      .done ()
        { j with
          medium := (Medium.sync j.medium).2
          unsynced := 0
          tally.syncs := j.tally.syncs + 1 } := by
  have hanswer : Medium.sync j.medium = (.ok (), (Medium.sync j.medium).2) :=
    Prod.ext hsync rfl
  rw [sync, hanswer]

theorem sync_of_refused {error : MediumError} (hsync : (Medium.sync j.medium).1 = .error error) :
    j.sync = .fail (.io error) { j with medium := (Medium.sync j.medium).2 } := by
  have hanswer : Medium.sync j.medium = (.error error, (Medium.sync j.medium).2) :=
    Prod.ext hsync rfl
  rw [sync, hanswer]

theorem sync_stays (j : Live σ) :
    j.sync.after.boundary = j.boundary ∧ j.sync.after.held = j.held := by
  cases hsync : (Medium.sync j.medium).1 with
  | ok value =>
      rw [sync_of_sync hsync]
      exact ⟨rfl, rfl⟩
  | error error =>
      rw [sync_of_refused hsync]
      exact ⟨rfl, rfl⟩

end Answered

/-! ## Moves on a steady medium -/

section Steady

variable {β : Type} [Medium β] [Steady β]

theorem flush_of_ne_nil {j : Live β} (h : j.held ≠ []) :
    j.flush =
      ⟨.ok (),
        ({ j with medium := (Medium.append j.medium j.held).2 }.withHeld []).booked
          j.held.length,
        [.flushed j.held.length j.logicalEnd]⟩ :=
  flush_of_append h (Steady.append_fst _ _)

theorem writeThrough_eq (j : Live β) (data : Bytes) :
    j.writeThrough data =
      ⟨.ok (),
        { { j with medium := (Medium.append j.medium data).2 }.booked data.length with
          tally.straightThrough := j.tally.straightThrough + 1 },
        [.wroteThrough data.length (j.boundary + data.length)]⟩ :=
  writeThrough_of_append (Steady.append_fst _ _)

theorem sync_eq (j : Live β) :
    j.sync =
      .done ()
        { j with
          medium := (Medium.sync j.medium).2
          unsynced := 0
          tally.syncs := j.tally.syncs + 1 } :=
  sync_of_sync (Steady.sync_fst _)

@[simp] theorem flush_result (j : Live β) : j.flush.result = .ok () := by
  by_cases h : j.held = []
  · rw [flush_of_nil h]
    rfl
  · rw [flush_of_ne_nil h]

@[simp] theorem flush_held (j : Live β) : j.flush.after.held = [] := by
  by_cases h : j.held = []
  · rw [flush_of_nil h]
    exact h
  · rw [flush_of_ne_nil h]
    exact held_withHeld_nil _

@[simp] theorem flush_boundary (j : Live β) : j.flush.after.boundary = j.logicalEnd := by
  by_cases h : j.held = []
  · rw [flush_of_nil h, logicalEnd, h]
    rfl
  · rw [flush_of_ne_nil h]
    rfl

@[simp] theorem flush_unsynced (j : Live β) : j.flush.after.unsynced = j.exposed := by
  by_cases h : j.held = []
  · rw [flush_of_nil h, exposed, h]
    rfl
  · rw [flush_of_ne_nil h]
    rfl

@[simp] theorem flush_settings (j : Live β) : j.flush.after.settings = j.settings := by
  by_cases h : j.held = []
  · rw [flush_of_nil h]
    rfl
  · rw [flush_of_ne_nil h]
    rfl

theorem flush_tally (j : Live β) :
    j.flush.after.tally =
      if j.held = [] then j.tally
      else { j.tally with
        appends := j.tally.appends + 1
        bytesFlushed := j.tally.bytesFlushed + j.held.length } := by
  by_cases h : j.held = []
  · rw [flush_of_nil h, if_pos h]
    rfl
  · rw [flush_of_ne_nil h, if_neg h]
    rfl

theorem flush_buffer {j : Live β} {buffer : Buffer} (hbuffer : j.buffer = .ok buffer) :
    j.flush.after.buffer = .ok { buffer with held := [] } := by
  have hheld := held_of_buffer hbuffer
  by_cases h : j.held = []
  · rw [flush_of_nil h]
    show j.buffer = _
    rw [hbuffer, ← h, hheld]
  · rw [flush_of_ne_nil h]
    show Except.map _ j.buffer = _
    rw [hbuffer]
    rfl

@[simp] theorem flush_logicalEnd (j : Live β) : j.flush.after.logicalEnd = j.logicalEnd := by
  simp [logicalEnd]

@[simp] theorem flush_exposed (j : Live β) : j.flush.after.exposed = j.exposed := by
  simp [exposed]

@[simp] theorem sync_result (j : Live β) : j.sync.result = .ok () := by
  rw [sync_eq]
  rfl

@[simp] theorem sync_held (j : Live β) : j.sync.after.held = j.held := by
  rw [sync_eq]
  rfl

@[simp] theorem sync_unsynced (j : Live β) : j.sync.after.unsynced = 0 := by
  rw [sync_eq]
  rfl

end Steady

/-! ## Beneath the screen

Everything a journal is, its medium apart, is the same on both sides of a
screen; the lemmas tagged here let `simp` move freely between them. -/

section Screen

variable {σ β : Type} [Medium σ] [Medium β] [Screened σ β]

/-- The journal beneath the screen: the same journal over the base. -/
def bare (j : Live σ) : Live β :=
  ⟨j.settings, Screened.base j.medium, j.buffer, j.boundary, j.unsynced, j.tally⟩

@[simp] theorem bare_settings (j : Live σ) : j.bare.settings = j.settings := rfl

@[simp] theorem bare_medium (j : Live σ) : j.bare.medium = Screened.base j.medium := rfl

@[simp] theorem bare_buffer (j : Live σ) : j.bare.buffer = j.buffer := rfl

@[simp] theorem bare_boundary (j : Live σ) : j.bare.boundary = j.boundary := rfl

@[simp] theorem bare_unsynced (j : Live σ) : j.bare.unsynced = j.unsynced := rfl

@[simp] theorem bare_tally (j : Live σ) : j.bare.tally = j.tally := rfl

@[simp] theorem bare_held (j : Live σ) : j.bare.held = j.held := rfl

@[simp] theorem bare_logicalEnd (j : Live σ) : j.bare.logicalEnd = j.logicalEnd := rfl

@[simp] theorem bare_exposed (j : Live σ) : j.bare.exposed = j.exposed := rfl

@[simp] theorem bare_overBound (j : Live σ) : j.bare.overBound = j.overBound := rfl

@[simp] theorem bare_withHeld (j : Live σ) (held : Bytes) :
    (j.withHeld held).bare = j.bare.withHeld held := rfl

@[simp] theorem bare_counted (j : Live σ) (count : Nat) :
    (j.counted count).bare = j.bare.counted count := rfl

theorem bare_of_base_eq (j : Live σ) {medium : σ}
    (h : Screened.base medium = Screened.base j.medium) :
    ({ j with medium } : Live σ).bare = j.bare :=
  congrArg (fun base => { j.bare with medium := base }) h

/-- A flush is the flush of the bare journal, or it was stopped with bytes
in the tail. -/
theorem flush_cases (j : Live σ) :
    j.flush.lift bare = j.bare.flush ∨
      j.held ≠ [] ∧ j.flush.lift bare = .fail (.stopped .writeAppend) j.bare := by
  by_cases hheld : j.held = []
  · left
    rw [flush_of_nil hheld, flush_of_nil (j := j.bare) hheld]
    rfl
  have hfull : ¬ j.held.isEmpty = true := by simpa using hheld
  have hcases := Screened.append_cases j.medium j.held
  rw [flush, if_neg hfull]
  cases happend : Medium.append j.medium j.held with
  | mk answer medium =>
      rw [happend] at hcases
      rcases hcases with ⟨hanswer, hbase⟩ | ⟨hanswer, hbase⟩
      · right
        refine ⟨hheld, ?_⟩
        cases hanswer
        simp [Outcome.lift, Outcome.fail, bare, hbase]
      · left
        have hbare : Medium.append j.bare.medium j.held = (answer, Screened.base medium) :=
          Prod.ext hanswer.symm hbase.symm
        rw [flush, bare_held, if_neg hfull, hbare]
        cases answer <;> rfl

theorem writeThrough_cases (j : Live σ) (data : Bytes) :
    (j.writeThrough data).lift bare = j.bare.writeThrough data ∨
      (j.writeThrough data).lift bare = .fail (.stopped .writeAppend) j.bare := by
  have hcases := Screened.append_cases j.medium data
  rw [writeThrough]
  cases happend : Medium.append j.medium data with
  | mk answer medium =>
      rw [happend] at hcases
      rcases hcases with ⟨hanswer, hbase⟩ | ⟨hanswer, hbase⟩
      · right
        cases hanswer
        simp [Outcome.lift, Outcome.fail, bare, hbase]
      · left
        have hbare : Medium.append j.bare.medium data = (answer, Screened.base medium) :=
          Prod.ext hanswer.symm hbase.symm
        rw [writeThrough, hbare]
        cases answer <;> rfl

theorem sync_cases (j : Live σ) :
    j.sync.lift bare = j.bare.sync ∨ j.sync.lift bare = .fail (.stopped .sync) j.bare := by
  have hcases := Screened.sync_cases j.medium
  rw [sync]
  cases hsync : Medium.sync j.medium with
  | mk answer medium =>
      rw [hsync] at hcases
      rcases hcases with ⟨hanswer, hbase⟩ | ⟨hanswer, hbase⟩
      · right
        cases hanswer
        simp [Outcome.lift, Outcome.fail, bare, hbase]
      · left
        have hbare : Medium.sync j.bare.medium = (answer, Screened.base medium) :=
          Prod.ext hanswer.symm hbase.symm
        rw [sync, hbare]
        cases answer <;> rfl

/-! ## Reading moves nothing

A read may be stopped, but the base is left as it was, and so is the bare
journal. -/

variable [Steady β]

theorem readAt_base (m : σ) (offset wanted : Nat) :
    Screened.base (Medium.readAt m offset wanted).2 = Screened.base m := by
  rcases Screened.readAt_cases m offset wanted with ⟨-, hbase⟩ | ⟨-, hbase⟩
  · exact hbase
  · rw [hbase, Steady.readAt_snd]

theorem copyOut_bare (j : Live σ) (dest : Bytes) (start count : Nat) :
    (j.copyOut dest start count).1.after.bare = j.bare := by
  have hbase := Medium.gather_view readAt_base j.medium start (j.onMedium start count)
  unfold copyOut
  dsimp only
  split
  · next hgather =>
      rw [hgather] at hbase
      exact bare_of_base_eq j hbase
  · next hgather =>
      rw [hgather] at hbase
      exact bare_of_base_eq j hbase
  · next hgather =>
      rw [hgather] at hbase
      exact bare_of_base_eq j hbase

theorem read_bare (j : Live σ) (dest : Bytes) (position length : Int64) :
    (j.read dest position length).1.after.bare = j.bare := by
  unfold read
  split
  · rfl
  · exact copyOut_bare j dest _ _

end Screen

end Live

end WriteBack
