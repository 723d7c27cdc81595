/-
# Sessions — one store, opened again and again

A journal lives for a session; its base lives on.  Where it lies between two
sessions is a *depot*: memory is its own depot, and for a file it is the path
on its disk.  What a depot has in its keeping is a string of bytes.  Fetching
opens it as a base, which holds exactly these bytes, and leaving a base puts
it back.

A depot counts on what sessions do to a base, which is to append and to sync.
`Sound` is what fetching establishes and neither of them destroys; it is what
makes a base that is left the same store when it is fetched again.

`Leads` is the run over any number of sessions.  It starts anywhere, also in
the middle of a session, and each session opens a journal over a screen of its
own, with settings and a supply of its own.
-/
import WriteBack.Proofs.Hereditary

namespace WriteBack

open Faithful (contents Undisturbed)

/-! ## Where a base lies between sessions -/

/-- A place that keeps a base while no journal is open over it.  `Mode` is what
whoever fetches it may choose. -/
class Depot (ρ : Type) (β : outParam Type) [Medium β] [Faithful β] where
  Mode : Type
  kept : ρ → Bytes
  fetch : ρ → Mode → Except MediumError β
  leave : β → ρ
  Sound : β → Prop
  contents_of_fetch {place : ρ} {mode : Mode} {base : β} : fetch place mode = .ok base →
    contents base = kept place
  undisturbed_of_fetch {place : ρ} {mode : Mode} {base : β} : fetch place mode = .ok base →
    Undisturbed base
  sound_of_fetch {place : ρ} {mode : Mode} {base : β} : fetch place mode = .ok base →
    Sound base
  sound_append (base : β) (data : Bytes) : Sound base → Sound (Medium.append base data).2
  sound_sync (base : β) : Sound base → Sound (Medium.sync base).2
  kept_leave {base : β} : Sound base → kept (leave base) = contents base
  fetch_leave {base : β} (mode : Mode) : Sound base → ∃ base', fetch (leave base) mode = .ok base'

/-- Memory is shared by all who hold it, and lies where it is. -/
instance : Depot InMemory InMemory where
  Mode := Unit
  kept m := m.bytes
  fetch m _ := .ok m
  leave m := m
  Sound _ := True
  contents_of_fetch h := by
    cases h
    rfl
  undisturbed_of_fetch _ := trivial
  sound_of_fetch _ := trivial
  sound_append _ _ _ := trivial
  sound_sync _ _ := trivial
  kept_leave _ := rfl
  fetch_leave {base} _ _ := ⟨base, rfl⟩

/-! ## Runs over many sessions -/

/-- A store in its depot, or a journal over it. -/
inductive Stage (ρ σ : Type) where
  | resting (place : ρ)
  | running (j : Journal σ)

open Journal (Report)

section Leads

variable {ρ σ β : Type} [Medium σ] [Medium β] [Screened σ β] [Faithful β] [Depot ρ β]

/-- `Leads first history last`: some run leads from the one stage to the other,
with the reports of its steps, oldest first. -/
inductive Leads (first : Stage ρ σ) : List Report → Stage ρ σ → Prop
  | here : Leads first [] first
  | opened {history : List Report} {place : ρ} {mode : Depot.Mode ρ} {medium : σ}
      {settings : Settings} {supply : Supply} {j : Journal σ} {events : List Event} :
      Leads first history (.resting place) →
      Depot.fetch place mode = .ok (Screened.base medium) → supply.Honest →
      Journal.start medium settings supply = (.ok j, events) →
      Leads first (history ++ [.opened settings events]) (.running j)
  | called {history : List Report} {j : Journal σ} (request : Journal.Request) :
      Leads first history (.running j) →
      Leads first (history ++ [j.report request]) (.running (j.perform request).1.after)
  | asked {history : List Report} {j : Journal σ} (query : Journal.Query) :
      Leads first history (.running j) →
      Leads first (history ++ [.asked query (j.answer query)]) (.running j)
  | meddled {history : List Report} {j : Journal σ} {medium : σ} :
      Leads first history (.running j) → Screened.Meddled j.medium medium →
      Leads first history (.running (j.mapMedium fun _ => medium))
  | dropped {history : List Report} {j : Journal σ} :
      Leads first history (.running j) →
      Leads first history (.resting (Depot.leave (Screened.base j.drop.1)))

/-- In the depot, or beneath the journal, the store has its property. -/
def Stage.Keeps (Q : ρ → Prop) (P : β → Prop) : Stage ρ σ → Prop
  | resting place => Q place
  | running j => j.Keeps fun last => P last.medium

/-- What the base keeps when it takes an append or a sync, and when it is left
and fetched, it keeps over any number of sessions. -/
theorem Leads.keeps {Q : ρ → Prop} {P : β → Prop} {first last : Stage ρ σ}
    {history : List Report}
    (hfetch : ∀ (place : ρ) (mode : Depot.Mode ρ) (base : β), Q place →
      Depot.fetch place mode = .ok base → P base)
    (hleave : ∀ base : β, P base → Q (Depot.leave base))
    (happend : ∀ (m : β) (data : Bytes), P m → P (Medium.append m data).2)
    (hsync : ∀ m : β, P m → P (Medium.sync m).2)
    (h : Leads first history last) (hfirst : first.Keeps Q P) : last.Keeps Q P := by
  have hP : Live.Hereditary fun j : Live β => P j.medium :=
    Live.hereditary_medium happend hsync
  induction h with
  | here => exact hfirst
  | opened _ hopen _ hstart ih =>
      have hbase := hfetch _ _ _ ih hopen
      exact Journal.keeps_of_start (I := fun j : Live β => P j.medium) hbase hstart
  | called request _ ih => exact Journal.Keeps.perform hP ih request
  | asked query _ ih => exact ih
  | meddled _ hmeddled ih =>
      exact Journal.Keeps.meddled (I := fun j : Live β => P j.medium) ih hmeddled
  | dropped _ ih =>
      obtain ⟨last, hlast, hmedium⟩ := Journal.Keeps.drop hP ih
      apply hleave
      rw [← hmedium]
      exact hlast

end Leads

end WriteBack
