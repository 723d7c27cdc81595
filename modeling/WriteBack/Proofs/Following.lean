/-
# Following — what happens to a journal from some state on

A call is one step: while it lasts nobody else gets at the journal.  When
several clients use a journal at once, what they do therefore happens one
call after the other, in an order that nobody has chosen, with questions and
meddling in between.  `Follows j later j'` is any such order from the state
`j` on, whoever makes the calls.  What holds of every run that follows holds
of every interleaving of one writer with any number of readers.

What a run keeps from the start it also keeps from any state on.
-/
import WriteBack.Proofs.Hereditary
import WriteBack.Proofs.Stream

namespace WriteBack.Journal

open Live (Hereditary)

variable {σ β : Type} [Medium σ] [Medium β] [Screened σ β]

/-- From `j` on some steps, with these reports, have led to `j'`. -/
inductive Follows (j : Journal σ) : List Report → Journal σ → Prop
  | here : Follows j [] j
  | called {later : List Report} {j' : Journal σ} (request : Request) :
      Follows j later j' →
      Follows j (later ++ [j'.report request]) (j'.perform request).1.after
  | asked {later : List Report} {j' : Journal σ} (query : Query) :
      Follows j later j' →
      Follows j (later ++ [.asked query (j'.answer query)]) j'
  | meddled {later : List Report} {j' : Journal σ} {medium : σ} :
      Follows j later j' → Screened.Meddled j'.medium medium →
      Follows j later (j'.mapMedium fun _ => medium)

theorem Follows.switched {j j' : Journal (Rigged β)} {later : List Report}
    (h : Follows j later j') (layer : Nat) (switch : Rig.Switch) :
    Follows j later (j'.mapMedium fun _ => j'.medium.mapPanel layer switch.turn) :=
  h.meddled ⟨layer, switch, rfl⟩

variable {j j' : Journal σ} {later : List Report}

theorem Follows.carries [Faithful β] {stream : Bytes} (h : j.Carries stream)
    (hlater : Follows j later j') : j'.Carries (stream ++ accepted later) := by
  induction hlater with
  | here => exact h.append_nil
  | called request _ ih =>
      rw [accepted_concat, ← List.append_assoc]
      exact ih.perform_after request
  | asked query _ ih =>
      rw [accepted_concat, ← List.append_assoc]
      exact ih.append_nil
  | meddled _ hmeddled ih => exact ih.meddled hmeddled

theorem Follows.keeps [Steady β] {I : Live β → Prop} (hI : Hereditary I) (h : j.Keeps I)
    (hlater : Follows j later j') : j'.Keeps I := by
  induction hlater with
  | here => exact h
  | called request _ ih => exact ih.perform hI request
  | asked query _ ih => exact ih
  | meddled _ hmeddled ih => exact ih.meddled hmeddled

end WriteBack.Journal
