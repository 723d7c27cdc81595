/-
# Rigged media — a medium behind a stack of panels

A call on a rigged medium passes the panels from the outermost inward.  The
first panel that trips answers it; the panels further in and the medium
itself never see the call.  If none trips the medium answers.  Position and
size are the medium's own.
-/
import WriteBack.Rig.Panel

namespace WriteBack

namespace Rig

/-- Passes a call down a stack of panels, outermost first: the answer of the
first panel that has one, and the panels afterwards. -/
def passDown {α : Type} (meet : Panel → Option α × Panel) :
    List Panel → Option α × List Panel
  | [] => (none, [])
  | panel :: inner =>
    match meet panel with
    | (some answer, panel) => (some answer, panel :: inner)
    | (none, panel) =>
      let (answer, inner) := passDown meet inner
      (answer, panel :: inner)

theorem passDown_fst_eq_some {α : Type} {meet : Panel → Option α × Panel} {answer : α} :
    ∀ {panels : List Panel}, (passDown meet panels).1 = some answer →
      ∃ panel ∈ panels, (meet panel).1 = some answer
  | [], h => nomatch h
  | panel :: inner, h => by
    unfold passDown at h
    split at h
    · next met hm => exact ⟨panel, List.mem_cons_self, by rw [hm]; exact h⟩
    · obtain ⟨found, hmem, hfound⟩ := passDown_fst_eq_some h
      exact ⟨found, List.mem_cons_of_mem _ hmem, hfound⟩

end Rig

/-- A medium behind panels, the outermost panel first. -/
structure Rigged (β : Type) where
  panels : List Rig.Panel
  base : β
deriving DecidableEq, Repr

namespace Rigged

open Rig

variable {β : Type}

/-- A medium behind so many panels with nothing armed. -/
def behind (layers : Nat) (base : β) : Rigged β :=
  ⟨List.replicate layers {}, base⟩

/-- Changes the panel with the given index, counted from the outermost. -/
def mapPanel (m : Rigged β) (index : Nat) (f : Panel → Panel) : Rigged β :=
  { m with panels := m.panels.modify index f }

variable [Medium β]

/-- A read passes the panels, then reaches the medium. -/
def readAt (m : Rigged β) (offset wanted : Nat) : Delivery × Rigged β :=
  match passDown Panel.meetRead m.panels with
  | (some answer, panels) => (answer, { m with panels })
  | (none, panels) =>
    let (answer, base) := Medium.readAt m.base offset wanted
    (answer, ⟨panels, base⟩)

def append (m : Rigged β) (data : Bytes) : Except MediumError Unit × Rigged β :=
  match passDown Panel.meetAppend m.panels with
  | (some error, panels) => (.error error, { m with panels })
  | (none, panels) =>
    let (answer, base) := Medium.append m.base data
    (answer, ⟨panels, base⟩)

def sync (m : Rigged β) : Except MediumError Unit × Rigged β :=
  match passDown Panel.meetSync m.panels with
  | (some error, panels) => (.error error, { m with panels })
  | (none, panels) =>
    let (answer, base) := Medium.sync m.base
    (answer, ⟨panels, base⟩)

/-- Panels never interrupt a read, and deliver no bytes of their own. -/
theorem passDown_meetRead {panels : List Panel} {answer : Delivery}
    (h : (passDown Panel.meetRead panels).1 = some answer) :
    answer = .bytes [] ∨ answer = .failed (.injected .readAt) := by
  obtain ⟨panel, _, hp⟩ := passDown_fst_eq_some h
  rcases panel.meetRead_fst with h' | h' | h' <;> rw [h'] at hp
  · exact nomatch hp
  · exact .inl (Option.some.inj hp).symm
  · exact .inr (Option.some.inj hp).symm

instance : Medium (Rigged β) where
  position m := Medium.position m.base
  size m := Medium.size m.base
  readAt := readAt
  append := append
  sync := sync
  patience m := Medium.patience m.base
  length_le {m offset wanted delivered} h := by
    unfold readAt at h
    split at h
    · next answer panels hp =>
      rcases passDown_meetRead (by rw [hp]) with ha | ha <;> rw [ha] at h <;> cases h
      exact Nat.zero_le _
    · exact Medium.length_le h
  patience_lt {m offset wanted} h := by
    unfold readAt at h ⊢
    split at h
    · next answer panels hp =>
      rcases passDown_meetRead (by rw [hp]) with ha | ha <;> rw [ha] at h <;> cases h
    · exact Medium.patience_lt h

end Rigged

end WriteBack
