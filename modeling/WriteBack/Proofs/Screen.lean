/-
# Screens — media that stop some calls and pass on the rest

Faults enter through a screen: a medium that stands before another one, its
base, and either stops a call or passes it on.  A call that is stopped
reports the point at which it was, and the base never sees it; a call that
is passed on comes to exactly what the base makes of it.  Which calls are
stopped is the screen's own affair, and between two calls somebody may meddle
with it, but never with the base.

Panels are a screen, however many of them stand in a row, and arming and
clearing is what meddling with them means.  They stop the first call at an
armed point, so that within one write of a journal the second append is never
stopped when the first was not.  A *fitful* medium has no such rule: it
follows a plan that says of every single call whether it is stopped.  And a
medium *alone* is its own screen: nothing is ever stopped.

Whatever is proved of journals over screened media therefore holds for every
pattern of faults, and for panels in particular.
-/
import WriteBack.Rig.Rigged

namespace WriteBack

/-- A medium that stands before another one.  `Meddled m m'` says that
somebody may turn `m` into `m'` between two calls. -/
class Screened (σ : Type) (β : outParam Type) [Medium σ] [Medium β] where
  base : σ → β
  Meddled : σ → σ → Prop
  base_of_meddled {m m' : σ} : Meddled m m' → base m' = base m
  position_eq (m : σ) : Medium.position m = Medium.position (base m)
  append_cases (m : σ) (data : Bytes) :
    ((Medium.append m data).1 = .error (.injected .writeAppend) ∧
      base (Medium.append m data).2 = base m) ∨
    ((Medium.append m data).1 = (Medium.append (base m) data).1 ∧
      base (Medium.append m data).2 = (Medium.append (base m) data).2)
  sync_cases (m : σ) :
    ((Medium.sync m).1 = .error (.injected .sync) ∧ base (Medium.sync m).2 = base m) ∨
    ((Medium.sync m).1 = (Medium.sync (base m)).1 ∧
      base (Medium.sync m).2 = (Medium.sync (base m)).2)
  readAt_cases (m : σ) (offset wanted : Nat) :
    (((Medium.readAt m offset wanted).1 = .bytes [] ∨
        (Medium.readAt m offset wanted).1 = .failed (.injected .readAt)) ∧
      base (Medium.readAt m offset wanted).2 = base m) ∨
    ((Medium.readAt m offset wanted).1 = (Medium.readAt (base m) offset wanted).1 ∧
      base (Medium.readAt m offset wanted).2 = (Medium.readAt (base m) offset wanted).2)

/-! ## Panels are a screen -/

namespace Rig

/-- What an operator does to a panel. -/
inductive Switch where
  | arm (point : Point) (arming : Arming)
  | clear
deriving DecidableEq, Repr

def Switch.turn : Switch → Panel → Panel
  | arm point arming, panel => panel.arm point arming
  | clear, panel => panel.clear

theorem Panel.meetAppend_fst (panel : Panel) :
    panel.meetAppend.1 = none ∨ panel.meetAppend.1 = some (.injected .writeAppend) := by
  unfold meetAppend
  split <;> simp

theorem Panel.meetSync_fst (panel : Panel) :
    panel.meetSync.1 = none ∨ panel.meetSync.1 = some (.injected .sync) := by
  unfold meetSync
  split <;> simp

theorem passDown_fst {α : Type} {meet : Panel → Option α × Panel} {answer : α}
    (hmeet : ∀ panel, (meet panel).1 = none ∨ (meet panel).1 = some answer)
    (panels : List Panel) :
    (passDown meet panels).1 = none ∨ (passDown meet panels).1 = some answer := by
  cases hdown : (passDown meet panels).1 with
  | none => exact .inl rfl
  | some said =>
      obtain ⟨panel, -, hsaid⟩ := passDown_fst_eq_some hdown
      rcases hmeet panel with h | h
      · exact nomatch hsaid.symm.trans h
      · exact .inr (hsaid.symm.trans h)

end Rig

namespace Rigged

open Rig

variable {β : Type} [Medium β]

theorem append_of_none {m : Rigged β} {panels : List Panel} (data : Bytes)
    (h : passDown Panel.meetAppend m.panels = (none, panels)) :
    m.append data =
      ((Medium.append m.base data).1, ⟨panels, (Medium.append m.base data).2⟩) := by
  rw [append, h]

theorem sync_of_none {m : Rigged β} {panels : List Panel}
    (h : passDown Panel.meetSync m.panels = (none, panels)) :
    m.sync = ((Medium.sync m.base).1, ⟨panels, (Medium.sync m.base).2⟩) := by
  rw [sync, h]

theorem readAt_of_none {m : Rigged β} {panels : List Panel} (offset wanted : Nat)
    (h : passDown Panel.meetRead m.panels = (none, panels)) :
    m.readAt offset wanted =
      ((Medium.readAt m.base offset wanted).1,
        ⟨panels, (Medium.readAt m.base offset wanted).2⟩) := by
  rw [readAt, h]

instance : Screened (Rigged β) β where
  base := Rigged.base
  Meddled m m' := ∃ layer, ∃ switch : Switch, m' = m.mapPanel layer switch.turn
  base_of_meddled := by
    rintro m _ ⟨layer, switch, rfl⟩
    rfl
  position_eq _ := rfl
  append_cases m data := by
    show (m.append data).1 = _ ∧ (m.append data).2.base = _ ∨ _
    match h : passDown Panel.meetAppend m.panels with
    | (some error, panels) =>
        have herror : error = .injected .writeAppend := by
          have := passDown_fst Panel.meetAppend_fst m.panels
          simpa [h] using this
        left
        simp [append, h, herror]
    | (none, panels) =>
        right
        exact ⟨congrArg Prod.fst (append_of_none data h),
          congrArg (fun out => out.2.base) (append_of_none data h)⟩
  sync_cases m := by
    show m.sync.1 = _ ∧ m.sync.2.base = _ ∨ _
    match h : passDown Panel.meetSync m.panels with
    | (some error, panels) =>
        have herror : error = .injected .sync := by
          have := passDown_fst Panel.meetSync_fst m.panels
          simpa [h] using this
        left
        simp [sync, h, herror]
    | (none, panels) =>
        right
        exact ⟨congrArg Prod.fst (sync_of_none h),
          congrArg (fun out => out.2.base) (sync_of_none h)⟩
  readAt_cases m offset wanted := by
    show (((m.readAt offset wanted).1 = _ ∨ (m.readAt offset wanted).1 = _) ∧
      (m.readAt offset wanted).2.base = _) ∨ _
    match h : passDown Panel.meetRead m.panels with
    | (some answer, panels) =>
        have hanswer := passDown_meetRead (by rw [h])
        left
        simpa [readAt, h] using hanswer
    | (none, panels) =>
        right
        exact ⟨congrArg Prod.fst (readAt_of_none offset wanted h),
          congrArg (fun out => out.2.base) (readAt_of_none offset wanted h)⟩

end Rigged

/-! ## Every pattern of faults is a screen -/

/-- A medium before which calls are stopped as planned: the plan says of one
call after the other whether it is stopped, and where it ends every further
call is passed on. -/
structure Fitful (β : Type) where
  plan : List Bool := []
  base : β
deriving DecidableEq, Repr

namespace Fitful

variable {β : Type} [Medium β]

def stops (m : Fitful β) : Bool := m.plan.headD false

/-- The medium after a call that the base answered so. -/
def onward (m : Fitful β) (base : β) : Fitful β := ⟨m.plan.tail, base⟩

instance : Medium (Fitful β) where
  position m := Medium.position m.base
  size m := Medium.size m.base
  readAt m offset wanted :=
    if m.stops then (.failed (.injected .readAt), m.onward m.base)
    else
      let (answer, base) := Medium.readAt m.base offset wanted
      (answer, m.onward base)
  append m data :=
    if m.stops then (.error (.injected .writeAppend), m.onward m.base)
    else
      let (answer, base) := Medium.append m.base data
      (answer, m.onward base)
  sync m :=
    if m.stops then (.error (.injected .sync), m.onward m.base)
    else
      let (answer, base) := Medium.sync m.base
      (answer, m.onward base)
  patience m := Medium.patience m.base
  length_le {m offset wanted delivered} h := by
    split at h
    · exact nomatch h
    · exact Medium.length_le h
  patience_lt {m offset wanted} h := by
    by_cases hstops : m.stops
    · simp only [hstops, if_true] at h
      exact nomatch h
    · simp only [hstops, if_false, Bool.false_eq_true] at h ⊢
      exact Medium.patience_lt h

instance : Screened (Fitful β) β where
  base := Fitful.base
  Meddled m m' := m'.base = m.base
  base_of_meddled h := h
  position_eq _ := rfl
  append_cases m data := by
    simp only [Medium.append]
    split
    · exact .inl ⟨rfl, rfl⟩
    · exact .inr ⟨rfl, rfl⟩
  sync_cases m := by
    simp only [Medium.sync]
    split
    · exact .inl ⟨rfl, rfl⟩
    · exact .inr ⟨rfl, rfl⟩
  readAt_cases m offset wanted := by
    simp only [Medium.readAt]
    split
    · exact .inl ⟨.inr rfl, rfl⟩
    · exact .inr ⟨rfl, rfl⟩

end Fitful

/-! ## A medium alone

Nothing before it is a screen too, one that stops no call and that nobody can
meddle with.  So what holds behind every screen holds of a journal on the
medium itself. -/

instance (priority := low) {β : Type} [Medium β] : Screened β β where
  base m := m
  Meddled m m' := m' = m
  base_of_meddled h := h
  position_eq _ := rfl
  append_cases _ _ := .inr ⟨rfl, rfl⟩
  sync_cases _ := .inr ⟨rfl, rfl⟩
  readAt_cases _ _ _ := .inr ⟨rfl, rfl⟩

end WriteBack
