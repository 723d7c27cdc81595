/-
# Asking — what a journal ever asks of its medium

For every call on a journal there is an equation that tells what the call asks
of the medium, whatever the medium answers: a write goes through its stages, a
flush appends the tail, a forced write syncs after that, a read asks for its
part below the boundary.  Reading the equations side by side shows what is never
asked for.  An append is only made if it carries something; and a closed journal
asks for nothing at all.

What holds of everything that the live states of a run ask holds of the record
of the run (`Traces.forall_record`).
-/
import WriteBack.Proofs.Pieces
import WriteBack.Proofs.Shutdown
import WriteBack.Proofs.Tallies

namespace WriteBack

/-! ## Appends carry something -/

namespace Live

variable {σ : Type} [Medium σ]

theorem flushing_call_ne (j : Live σ) :
    ∀ exchange ∈ j.flushing, exchange.call ≠ .append [] := by
  intro exchange hmem
  by_cases hheld : j.held = []
  · rw [flushing_of_nil hheld] at hmem
    cases hmem
  · rw [flushing, if_neg hheld, List.mem_singleton] at hmem
    simpa [hmem] using hheld

theorem syncing_call_ne (j : Live σ) :
    ∀ exchange ∈ j.syncing, exchange.call ≠ .append [] := by
  have hflushing := j.flushing_call_ne
  intro exchange hmem
  rw [syncing] at hmem
  split at hmem
  · rcases List.mem_append.mp hmem with hmem | hmem
    · exact hflushing exchange hmem
    · simp [List.mem_singleton.mp hmem]
  · exact hflushing exchange hmem

theorem settling_call_ne (j : Live σ) :
    ∀ exchange ∈ j.settling, exchange.call ≠ .append [] := by
  intro exchange hmem
  rw [settling] at hmem
  split at hmem
  · rcases List.mem_append.mp hmem with hmem | hmem
    · exact j.flushing_call_ne exchange hmem
    · rw [Outcome.ifOk] at hmem
      split at hmem
      · simp [List.mem_singleton.mp hmem, Medium.urged]
      · cases hmem
  · cases hmem

theorem writing_call_ne (j : Live σ) {data : Bytes} (hdata : data ≠ []) :
    ∀ exchange ∈ j.writing data, exchange.call ≠ .append [] := by
  intro exchange hmem
  rw [writing, Outcome.ifOk] at hmem
  rcases List.mem_append.mp hmem with hroom | hrest
  · rw [makingRoom] at hroom
    split at hroom
    · exact j.flushing_call_ne exchange hroom
    · cases hroom
  · split at hrest
    · rcases List.mem_append.mp hrest with hplace | hsettle
      · rw [placing] at hplace
        split at hplace
        · simpa [List.mem_singleton.mp hplace, Medium.offered] using hdata
        · cases hplace
      · rw [Outcome.ifOk] at hsettle
        split at hsettle
        · exact settling_call_ne _ exchange hsettle
        · cases hsettle
    · cases hrest

end Live

namespace Journal

/-! ## Call by call -/

section Calls

variable {σ : Type} [Medium σ]

theorem exchanges_flush (j : Live σ) (syncing : Bool) :
    (live j).exchanges (.flush syncing) = if syncing then j.syncing else j.flushing := by
  show ((j.recording []).flushAnd syncing).after.medium.log = _
  cases syncing with
  | true =>
      rw [Live.flushAnd_true_recording]
      rfl
  | false =>
      rw [Live.flushAnd_false, Live.flush_recording]
      rfl

theorem exchanges_forceWrite (j : Live σ) : (live j).exchanges .forceWrite = j.syncing := by
  show (j.recording []).forceWrite.after.medium.log = _
  rw [Live.forceWrite_eq]
  show ((j.recording []).flushAnd true).after.medium.log = _
  rw [Live.flushAnd_true_recording]
  rfl

theorem exchanges_call_ne (j : Live σ) (request : Request) :
    ∀ exchange ∈ (live j).exchanges request, exchange.call ≠ .append [] := by
  intro exchange hmem
  cases request with
  | write data =>
      cases hbuffer : j.buffer with
      | error shortage =>
          rw [exchanges_write_of_shortage hbuffer] at hmem
          cases hmem
      | ok buffer =>
          by_cases hdata : data = []
          · rw [hdata, exchanges_write_nil hbuffer] at hmem
            cases hmem
          · rw [exchanges_write hbuffer hdata] at hmem
            exact j.writing_call_ne hdata exchange hmem
  | flush syncing =>
      rw [exchanges_flush] at hmem
      split at hmem
      · exact j.syncing_call_ne exchange hmem
      · exact j.flushing_call_ne exchange hmem
  | forceWrite =>
      rw [exchanges_forceWrite] at hmem
      exact j.syncing_call_ne exchange hmem
  | read dest position length =>
      rw [exchanges_read] at hmem
      obtain ⟨offset, missing, hcall, -⟩ :=
        (j.sparing_reading dest.length position length).below exchange hmem
      simp [hcall]
  | close =>
      rw [exchanges_close] at hmem
      exact j.flushing_call_ne exchange hmem

theorem exchangesOnDrop_call_ne (j : Live σ) :
    ∀ exchange ∈ (live j).exchangesOnDrop, exchange.call ≠ .append [] := by
  intro exchange hmem
  rw [exchangesOnDrop_live] at hmem
  split at hmem
  · cases hmem
  · exact j.syncing_call_ne exchange hmem

end Calls

/-! ## Runs -/

section Runs

variable {σ β : Type} [Medium σ] [Medium β] [Screened σ β] {j j' : Journal σ}
  {steps : List Step}

theorem Traces.follows (h : Traces j steps j') : Follows j (steps.map Step.report) j' := by
  induction h with
  | here => exact .here
  | called request _ ih =>
      rw [List.map_append]
      exact ih.called request
  | asked query _ ih =>
      rw [List.map_append]
      exact ih.asked query
  | meddled _ hmeddled ih => exact ih.meddled hmeddled

/-- Everything on the record of a run was asked for by a call on a live journal
that the run had led to. -/
theorem Traces.forall_record {P : Exchange → Prop} (h : Traces j steps j')
    (hcalls : ∀ (before : List Step) (state : Live σ) (request : Request),
      Traces j before (live state) →
        ∀ exchange ∈ (live state).exchanges request, P exchange) :
    ∀ exchange ∈ record steps, P exchange := by
  induction h with
  | here =>
      intro exchange hmem
      cases hmem
  | @called before state request hbefore ih =>
      rw [record_concat]
      refine List.forall_mem_append.mpr ⟨ih, ?_⟩
      cases state with
      | live state => exact hcalls _ _ _ hbefore
      | closed settings medium =>
          intro exchange hmem
          dsimp only at hmem
          rw [(inert_of_closed settings medium).exchanges_eq] at hmem
          cases hmem
  | asked query _ ih =>
      rw [record_concat, List.append_nil]
      exact ih
  | meddled _ _ ih => exact ih

theorem Traces.call_ne (h : Traces j steps j') :
    ∀ exchange ∈ record steps ++ j'.exchangesOnDrop, exchange.call ≠ .append [] := by
  refine List.forall_mem_append.mpr ⟨?_, ?_⟩
  · apply h.forall_record (P := fun exchange => exchange.call ≠ .append [])
    intro _ state request _
    exact exchanges_call_ne state request
  · cases j' with
    | live state => exact exchangesOnDrop_call_ne state
    | closed settings medium =>
        intro exchange hmem
        rw [(inert_of_closed settings medium).exchangesOnDrop_eq] at hmem
        cases hmem

end Runs

end Journal

end WriteBack
