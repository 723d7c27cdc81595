/-
# Recording — what a call on a journal asks of the medium

Which calls a journal makes on its medium cannot be told from the medium
afterwards: a panel in front may have swallowed some of them.  A *recorded*
medium writes down every call on it that is more than a look at its length,
with the answer, before anything else can happen to the call; otherwise it is
the medium that it records.

Recording changes nothing (`perform_recorded`).  So what is written down
while a recorded journal performs a call, or is dropped, is what the journal
itself asks of its medium then.
-/
import WriteBack.Proofs.Mirror

namespace WriteBack

/-! ## Recorded media -/

/-- A call on a medium with its answer. -/
structure Exchange where
  call : Medium.Call
  answer : Medium.Answer
deriving Repr

/-- The medium refused what it was given, or to sync. -/
def Exchange.Fails (exchange : Exchange) : Prop :=
  ∃ error, exchange.answer = .accepted (.error error)

/-- A medium and what has been asked of it, oldest first. -/
structure Recorded (σ : Type) where
  inner : σ
  log : List Exchange := []
deriving Repr

namespace Recorded

variable {σ : Type} [Medium σ]

/-- The medium after a call that it has answered so. -/
def noting (m : Recorded σ) (inner : σ) (call : Medium.Call) (answer : Medium.Answer) :
    Recorded σ :=
  ⟨inner, m.log ++ [⟨call, answer⟩]⟩

instance : Medium (Recorded σ) where
  position m := Medium.position m.inner
  size m := Medium.size m.inner
  readAt m offset wanted :=
    let (answer, inner) := Medium.readAt m.inner offset wanted
    (answer, m.noting inner (.readAt offset wanted) (.delivered answer))
  append m data :=
    let (answer, inner) := Medium.append m.inner data
    (answer, m.noting inner (.append data) (.accepted answer))
  sync m :=
    let (answer, inner) := Medium.sync m.inner
    (answer, m.noting inner .sync (.accepted answer))
  patience m := Medium.patience m.inner
  length_le h := Medium.length_le h
  patience_lt h := Medium.patience_lt h

theorem mirrors :
    Medium.Mirrors (fun (m : σ) (recorded : Recorded σ) => recorded.inner = m)
      (fun _ => False) where
  position_eq h := congrArg Medium.position h.symm
  size_eq h := congrArg Medium.size h.symm
  append _ h := h ▸ ⟨rfl, rfl⟩
  sync h := h ▸ ⟨rfl, rfl⟩
  readAt _ _ h := .inr (h ▸ ⟨rfl, rfl⟩)

end Recorded

/-! ## Moves on record -/

namespace Live

/-- The journal over its medium, of which a record is kept that begins so. -/
def recording {σ : Type} (j : Live σ) (log : List Exchange) : Live (Recorded σ) :=
  j.atop ⟨j.medium, log⟩

variable {σ : Type} [Medium σ]

/-- What a flush asks of the medium: to append the tail, if there is one. -/
def flushing (j : Live σ) : List Exchange :=
  if j.held = [] then []
  else [⟨.append j.held, .accepted (Medium.append j.medium j.held).1⟩]

theorem flushing_of_nil {j : Live σ} (h : j.held = []) : j.flushing = [] := by
  rw [flushing, if_pos h]

theorem flush_recording (j : Live σ) (log : List Exchange) :
    (j.recording log).flush = j.flush.lift (·.recording (log ++ j.flushing)) := by
  by_cases hheld : j.held = []
  · rw [flushing_of_nil hheld, List.append_nil, flush_of_nil hheld,
      flush_of_nil (j := j.recording log) hheld]
    rfl
  · have hfull : ¬ j.held.isEmpty = true := by simpa using hheld
    have happend : Medium.append (j.recording log).medium (j.recording log).held =
        ((Medium.append j.medium j.held).1, ⟨(Medium.append j.medium j.held).2,
          log ++ [⟨.append j.held, .accepted (Medium.append j.medium j.held).1⟩]⟩) := rfl
    have hfull' : ¬ (j.recording log).held.isEmpty = true := hfull
    rw [flushing, if_neg hheld, flush, flush, happend, if_neg hfull, if_neg hfull']
    cases Medium.append j.medium j.held with
    | mk answer medium =>
        cases answer with
        | ok value => rfl
        | error error => rfl

theorem sync_recording (j : Live σ) (log : List Exchange) :
    (j.recording log).sync =
      j.sync.lift (·.recording (log ++ [⟨.sync, .accepted (Medium.sync j.medium).1⟩])) := by
  have hsync : Medium.sync (j.recording log).medium =
      ((Medium.sync j.medium).1, ⟨(Medium.sync j.medium).2,
        log ++ [⟨.sync, .accepted (Medium.sync j.medium).1⟩]⟩) := rfl
  rw [sync, sync, hsync]
  cases Medium.sync j.medium with
  | mk answer medium =>
      cases answer with
      | ok value => rfl
      | error error => rfl

/-- What a flush that syncs asks of the medium: to append the tail, and if that
does not fail to sync. -/
def syncing (j : Live σ) : List Exchange :=
  match j.flush.result with
  | .ok () => j.flushing ++ [⟨.sync, .accepted (Medium.sync j.flush.after.medium).1⟩]
  | .error _ => j.flushing

theorem flushAnd_true_recording (j : Live σ) (log : List Exchange) :
    ((j.recording log).flushAnd true).after =
      (j.flushAnd true).after.recording (log ++ j.syncing) := by
  have hrecording := flush_recording j log
  rw [flushAnd, flushAnd, syncing]
  cases hflush : j.flush.result with
  | ok value =>
      have hflush' : (j.recording log).flush.result = .ok value := hrecording ▸ hflush
      rw [Outcome.andThen_of_ok _ hflush, Outcome.andThen_of_ok _ hflush', hrecording,
        ← List.append_assoc]
      exact congrArg Outcome.after (sync_recording j.flush.after (log ++ j.flushing))
  | error failure =>
      have hflush' : (j.recording log).flush.result = .error failure := hrecording ▸ hflush
      rw [Outcome.andThen_of_error _ hflush, Outcome.andThen_of_error _ hflush', hrecording]
      rfl

/-- A flush fails exactly if what it asks of the medium does. -/
theorem flush_ok_iff (j : Live σ) :
    j.flush.result = .ok () ↔ ∀ exchange ∈ j.flushing, ¬ exchange.Fails := by
  by_cases hheld : j.held = []
  · rw [flushing_of_nil hheld, flush_of_nil hheld]
    refine ⟨fun _ exchange hmem => ?_, fun _ => rfl⟩
    cases hmem
  · have hfull : ¬ j.held.isEmpty = true := by simpa using hheld
    rw [flushing, if_neg hheld, flush, if_neg hfull]
    cases Medium.append j.medium j.held with
    | mk answer medium =>
        cases answer with
        | ok value =>
            refine ⟨fun _ => ?_, fun _ => rfl⟩
            rintro exchange hmem ⟨error, hfailed⟩
            rw [List.mem_singleton.mp hmem] at hfailed
            cases hfailed
        | error error =>
            refine ⟨fun hok => ?_, fun hnone => ?_⟩
            · cases hok
            · exact absurd ⟨error, rfl⟩ (hnone _ (List.mem_singleton_self _))

end Live

/-! ## Calls on record -/

namespace Journal

variable {σ : Type}

def recorded (j : Journal σ) : Journal (Recorded σ) := j.atop ⟨j.medium, []⟩

variable [Medium σ]

/-- What the journal asks of its medium while it performs a call. -/
def exchanges (j : Journal σ) (request : Request) : List Exchange :=
  (j.recorded.perform request).1.after.medium.log

/-- What the journal asks of its medium while it is dropped. -/
def exchangesOnDrop (j : Journal σ) : List Exchange := j.recorded.drop.1.log

/-- Recording changes nothing: a recorded journal performs every call as the
journal does, with the same result, events and destination, and is afterwards
the same journal. -/
theorem perform_recorded (j : Journal σ) (request : Request) :
    j.report request = j.recorded.report request ∧
      (j.recorded.perform request).1.after =
        (j.perform request).1.after.atop
          ⟨(j.perform request).1.after.medium, j.exchanges request⟩ := by
  have hrecorded : j.Mirrored (fun m recorded => recorded.inner = m) j.recorded := ⟨_, rfl, rfl⟩
  rcases hrecorded.perform Recorded.mirrors request with ⟨_, hnever, -⟩ | ⟨hcall, hdest⟩
  · exact hnever.elim
  · refine ⟨report_eq hcall hdest, ?_⟩
    obtain ⟨recorded, hinner, hafter⟩ := hcall.after
    have hlog : j.exchanges request = recorded.log := by rw [exchanges, hafter, atop_medium]
    have hsame : recorded = ⟨(j.perform request).1.after.medium, j.exchanges request⟩ := by
      rw [hlog, ← hinner]
    exact hsame ▸ hafter

end Journal

end WriteBack
