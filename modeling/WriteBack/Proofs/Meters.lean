/-
# Meters — what the outermost panel and the record have in common

A record says of every call on a medium whether it was refused; a panel only
counts the calls that reach it.  The outermost panel is met by every call, so
that its counts are those of the record, whatever was armed, whichever panel
further in tripped and whatever lies behind all of them.
-/
import WriteBack.Proofs.Recording

namespace WriteBack

/-! ## Kinds of exchanges -/

namespace Medium.Call

def isAppend : Call → Bool
  | append _ => true
  | _ => false

def isSync : Call → Bool
  | sync => true
  | _ => false

end Medium.Call

namespace Exchange

def ofAppend (exchange : Exchange) : Bool := exchange.call.isAppend

def ofSync (exchange : Exchange) : Bool := exchange.call.isSync

/-- The medium refused what it was asked for. -/
def refused (exchange : Exchange) : Bool :=
  match exchange.answer with
  | .accepted (.error _) => true
  | _ => false

end Exchange

def appendsAccepted (log : List Exchange) : Nat :=
  log.countP fun exchange => exchange.ofAppend && !exchange.refused

def appendsRefused (log : List Exchange) : Nat :=
  log.countP fun exchange => exchange.ofAppend && exchange.refused

def syncsAccepted (log : List Exchange) : Nat :=
  log.countP fun exchange => exchange.ofSync && !exchange.refused

def syncsRefused (log : List Exchange) : Nat :=
  log.countP fun exchange => exchange.ofSync && exchange.refused

/-! ## Counts and panels -/

section Panels

open Rig

theorem Rig.Panel.trip_counts (panel : Panel) (point : Point) :
    (panel.trip point).2.appends = panel.appends ∧ (panel.trip point).2.syncs = panel.syncs := by
  unfold Panel.trip
  split
  · exact ⟨rfl, rfl⟩
  · exact ⟨rfl, rfl⟩
  · cases point with
    | readAt => exact ⟨rfl, rfl⟩
    | shortRead => exact ⟨rfl, rfl⟩
    | writeAppend => exact ⟨rfl, rfl⟩
    | sync => exact ⟨rfl, rfl⟩

theorem Rig.Panel.meetAppend_counts (panel : Panel) :
    panel.meetAppend.2.appends = panel.appends + 1 ∧ panel.meetAppend.2.syncs = panel.syncs := by
  have hcounts := Panel.trip_counts { panel with appends := panel.appends + 1 } .writeAppend
  unfold Panel.meetAppend
  split <;> next htrip => rwa [htrip] at hcounts

theorem Rig.Panel.meetSync_counts (panel : Panel) :
    panel.meetSync.2.appends = panel.appends ∧ panel.meetSync.2.syncs = panel.syncs + 1 := by
  have hcounts := Panel.trip_counts { panel with syncs := panel.syncs + 1 } .sync
  unfold Panel.meetSync
  split <;> next htrip => rwa [htrip] at hcounts

theorem Rig.Panel.meetRead_counts (panel : Panel) :
    panel.meetRead.2.appends = panel.appends ∧ panel.meetRead.2.syncs = panel.syncs := by
  have hfirst := Panel.trip_counts { panel with reads := panel.reads + 1 } .readAt
  unfold Panel.meetRead
  split
  · next htrip => rwa [htrip] at hfirst
  · next between htrip =>
      rw [htrip] at hfirst
      have hsecond := Panel.trip_counts between .shortRead
      split <;> next htrip' =>
        rw [htrip'] at hsecond
        exact ⟨hsecond.1.trans hfirst.1, hsecond.2.trans hfirst.2⟩

theorem Rig.Switch.turn_counts (switch : Switch) (panel : Panel) :
    (switch.turn panel).appends = panel.appends ∧ (switch.turn panel).syncs = panel.syncs := by
  cases switch with
  | clear => exact ⟨rfl, rfl⟩
  | arm point arming =>
      cases point with
      | readAt => exact ⟨rfl, rfl⟩
      | shortRead => exact ⟨rfl, rfl⟩
      | writeAppend => exact ⟨rfl, rfl⟩
      | sync => exact ⟨rfl, rfl⟩

theorem Rig.passDown_outermost {α : Type} (meet : Panel → Option α × Panel) (panel : Panel)
    (inner : List Panel) :
    ∃ inner' : List Panel, (passDown meet (panel :: inner)).2 = (meet panel).2 :: inner' := by
  rw [passDown]
  cases hmeet : meet panel with
  | mk answer met =>
      cases answer with
      | some answer => exact ⟨_, rfl⟩
      | none => exact ⟨_, rfl⟩

namespace Rigged

variable {γ : Type}

/-- The outermost panel has counted so many appends and so many syncs. -/
def Outermost (m : Rigged γ) (appends syncs : Nat) : Prop :=
  ∃ (panel : Panel) (inner : List Panel), m.panels = panel :: inner ∧
    panel.appends = appends ∧ panel.syncs = syncs

variable {m : Rigged γ} {appends syncs : Nat}

theorem Outermost.passDown {α : Type} {meet : Panel → Option α × Panel} {appends' syncs' : Nat}
    (h : m.Outermost appends syncs) {m' : Rigged γ}
    (hpanels : m'.panels = (passDown meet m.panels).2)
    (hmeet : ∀ panel : Panel, panel.appends = appends → panel.syncs = syncs →
      (meet panel).2.appends = appends' ∧ (meet panel).2.syncs = syncs') :
    m'.Outermost appends' syncs' := by
  obtain ⟨panel, inner, hm, happends, hsyncs⟩ := h
  obtain ⟨inner', hdown⟩ := passDown_outermost meet panel inner
  rw [hm, hdown] at hpanels
  exact ⟨_, inner', hpanels, hmeet panel happends hsyncs⟩

theorem Outermost.answer [Medium γ] (h : m.Outermost appends syncs) (call : Medium.Call) :
    (Medium.answer m call).2.Outermost (appends + if call.isAppend then 1 else 0)
      (syncs + if call.isSync then 1 else 0) := by
  cases call with
  | position => exact h
  | size => exact h
  | readAt offset wanted =>
      have hpanels : (m.readAt offset wanted).2.panels =
          (Rig.passDown Panel.meetRead m.panels).2 := by
        unfold Rigged.readAt
        split <;> next hdown => rw [hdown]
      refine h.passDown hpanels ?_
      rintro panel rfl rfl
      exact panel.meetRead_counts
  | append data =>
      have hpanels : (m.append data).2.panels = (Rig.passDown Panel.meetAppend m.panels).2 := by
        unfold Rigged.append
        split <;> next hdown => rw [hdown]
      refine h.passDown hpanels ?_
      rintro panel rfl rfl
      exact panel.meetAppend_counts
  | sync =>
      have hpanels : m.sync.2.panels = (Rig.passDown Panel.meetSync m.panels).2 := by
        unfold Rigged.sync
        split <;> next hdown => rw [hdown]
      refine h.passDown hpanels ?_
      rintro panel rfl rfl
      exact panel.meetSync_counts

theorem Outermost.switched (h : m.Outermost appends syncs) (layer : Nat) (switch : Switch) :
    (m.mapPanel layer switch.turn).Outermost appends syncs := by
  obtain ⟨panel, inner, hm, rfl, rfl⟩ := h
  cases layer with
  | zero =>
      refine ⟨switch.turn panel, inner, ?_, switch.turn_counts panel⟩
      show m.panels.modify 0 switch.turn = _
      rw [hm]
      rfl
  | succ layer =>
      refine ⟨panel, inner.modify layer switch.turn, ?_, rfl, rfl⟩
      show m.panels.modify (layer + 1) switch.turn = _
      rw [hm]
      rfl

end Rigged

end Panels

/-! ## Counts and records -/

/-- Where a history that ends so can be cut in two at an entry: at its end, or before. -/
theorem concat_eq_cut {α : Type} {history before since : List α} {last entry : α} :
    history ++ [last] = before ++ entry :: since ↔
      (history = before ∧ last = entry ∧ since = []) ∨
        ∃ since' : List α, history = before ++ entry :: since' ∧ since = since' ++ [last] := by
  constructor
  · intro hcut
    rcases List.eq_nil_or_concat since with rfl | ⟨since', final, rfl⟩
    · obtain ⟨rfl, hlast⟩ := List.append_inj' hcut rfl
      exact .inl ⟨rfl, (List.cons.inj hlast).1, rfl⟩
    · rw [List.concat_eq_append, ← List.cons_append, ← List.append_assoc] at hcut
      obtain ⟨rfl, hlast⟩ := List.append_inj' hcut rfl
      exact .inr ⟨since', rfl, by rw [(List.cons.inj hlast).1, List.concat_eq_append]⟩
  · rintro (⟨rfl, rfl, rfl⟩ | ⟨since', rfl, rfl⟩)
    · rfl
    · rw [← List.cons_append, ← List.append_assoc]

theorem appendsAccepted_concat (log : List Exchange) (exchange : Exchange) :
    appendsAccepted (log ++ [exchange]) =
      appendsAccepted log + if exchange.ofAppend && !exchange.refused then 1 else 0 := by
  rw [appendsAccepted, List.countP_append, List.countP_singleton]
  rfl

theorem syncsAccepted_concat (log : List Exchange) (exchange : Exchange) :
    syncsAccepted (log ++ [exchange]) =
      syncsAccepted log + if exchange.ofSync && !exchange.refused then 1 else 0 := by
  rw [syncsAccepted, List.countP_append, List.countP_singleton]
  rfl

theorem countP_refused (kind : Exchange → Bool) (log : List Exchange) :
    log.countP (fun exchange => kind exchange && !exchange.refused) +
      log.countP (fun exchange => kind exchange && exchange.refused) = log.countP kind := by
  induction log with
  | nil => rfl
  | cons exchange log ih =>
      simp only [List.countP_cons]
      cases kind exchange with
      | false => exact ih
      | true =>
          cases exchange.refused with
          | false =>
              simp
              omega
          | true =>
              simp
              omega

section Metered

variable {γ : Type}

/-- Since the record was begun the outermost panel has counted what is on it. -/
def Recorded.Metered (m : Recorded (Rigged γ)) (appends syncs : Nat) : Prop :=
  m.inner.Outermost (appends + m.log.countP Exchange.ofAppend)
    (syncs + m.log.countP Exchange.ofSync)

theorem Recorded.Metered.noting [Medium γ] {m m' : Recorded (Rigged γ)} {appends syncs : Nat}
    (h : m.Metered appends syncs) {exchange : Exchange}
    (hinner : m'.inner = (Medium.answer m.inner exchange.call).2)
    (hlog : m'.log = m.log ++ [exchange]) : m'.Metered appends syncs := by
  rw [Metered, hlog, hinner, List.countP_append, List.countP_append, List.countP_singleton,
    List.countP_singleton, ← Nat.add_assoc, ← Nat.add_assoc]
  exact Rigged.Outermost.answer h exchange.call

theorem Recorded.Metered.answer [Medium γ] {m : Recorded (Rigged γ)} {appends syncs : Nat}
    (h : m.Metered appends syncs) (call : Medium.Call) :
    (Medium.answer m call).2.Metered appends syncs := by
  cases call with
  | position => exact h
  | size => exact h
  | readAt offset wanted => exact h.noting rfl rfl
  | append data => exact h.noting rfl rfl
  | sync => exact h.noting rfl rfl

end Metered

end WriteBack
