/-
# Panels — what one panel makes of a call

A call meets one point of a panel after the other, a read two of them and every other
call at most one.  It trips at the first that is armed, and then the panel answers for
whatever lies behind it; otherwise it goes on inward.  Either way the panel counts it.

So a medium behind panels can be told from its outermost panel and from the medium
behind the others (`Rigged.answer_cons`), whichever call it is.
-/
import WriteBack.Proofs.Meters

namespace WriteBack

open Rig (Panel Point Arming Switch)

def Medium.Call.isRead : Medium.Call → Bool
  | readAt _ _ => true
  | _ => false

/-- The points that a call meets, in this order. -/
def Medium.Call.points : Medium.Call → List Point
  | readAt _ _ => [.readAt, .shortRead]
  | append _ => [.writeAppend]
  | sync => [.sync]
  | _ => []

namespace Rig

/-- What a panel answers to a call that trips at the point. -/
def Point.answer : Point → Medium.Answer
  | readAt => .delivered (.failed (.injected .readAt))
  | shortRead => .delivered (.bytes [])
  | writeAppend => .accepted (.error (.injected .writeAppend))
  | sync => .accepted (.error (.injected .sync))

namespace Panel

/-- Where a call trips, if it does. -/
def tripsAt? (panel : Panel) (call : Medium.Call) : Option Point :=
  call.points.find? fun point => (panel.armed point).isSome

def counted (panel : Panel) : Medium.Call → Panel
  | .readAt _ _ => { panel with reads := panel.reads + 1 }
  | .append _ => { panel with appends := panel.appends + 1 }
  | .sync => { panel with syncs := panel.syncs + 1 }
  | _ => panel

/-- The panel after a call has tripped at the point: what was armed there for once is
used up. -/
def spent (panel : Panel) (point : Point) : Panel :=
  if panel.armed point = some .once then panel.set none point else panel

/-- The panel after it has met a call. -/
def met (panel : Panel) (call : Medium.Call) : Panel :=
  match panel.tripsAt? call with
  | some point => (panel.counted call).spent point
  | none => panel.counted call

@[simp] theorem armed_counted (panel : Panel) (call : Medium.Call) (point : Point) :
    (panel.counted call).armed point = panel.armed point := by
  cases call <;> cases point <;> rfl

theorem armed_set (panel : Panel) (arming : Option Arming) (point other : Point) :
    (panel.set arming point).armed other = if other = point then arming else panel.armed other := by
  cases point <;> cases other <;> rfl

theorem spent_of_none {panel : Panel} {point : Point} (h : panel.armed point = none) :
    panel.spent point = panel := by
  rw [spent, h]
  rfl

theorem trip_eq (panel : Panel) (point : Point) :
    panel.trip point = ((panel.armed point).isSome, panel.spent point) := by
  cases harmed : panel.armed point with
  | none => rw [trip, harmed, spent_of_none harmed, Option.isSome_none]
  | some arming =>
      rw [trip, spent, harmed]
      cases arming with
      | always => rfl
      | once => rfl

theorem of_tripsAt? {panel : Panel} {call : Medium.Call} {point : Point}
    (h : panel.tripsAt? call = some point) : point ∈ call.points ∧ panel.armed point ≠ none := by
  have harmed := List.find?_some (p := fun point => (panel.armed point).isSome) h
  exact ⟨List.mem_of_find?_eq_some h, Option.isSome_iff_ne_none.mp harmed⟩

theorem tripsAt?_of_points {call : Medium.Call} {point : Point} (h : call.points = [point])
    (panel : Panel) :
    panel.tripsAt? call = if (panel.armed point).isSome then some point else none := by
  rw [tripsAt?, h, List.find?_singleton]

theorem met_of_points {call : Medium.Call} {point : Point} (h : call.points = [point])
    (panel : Panel) : panel.met call = (panel.counted call).spent point := by
  rw [met, tripsAt?_of_points h]
  cases harmed : panel.armed point with
  | some arming => rfl
  | none =>
      have hcounted : (panel.counted call).armed point = none := by rw [armed_counted, harmed]
      rw [spent_of_none hcounted]
      rfl

theorem meetAppend_eq (panel : Panel) (data : Bytes) :
    panel.meetAppend =
      ((panel.tripsAt? (.append data)).map fun _ => .injected .writeAppend,
        panel.met (.append data)) := by
  have htrip := trip_eq (panel.counted (.append data)) .writeAppend
  rw [armed_counted] at htrip
  rw [met_of_points rfl, tripsAt?_of_points rfl, meetAppend]
  change Panel.trip { panel with appends := panel.appends + 1 } .writeAppend = _ at htrip
  rw [htrip]
  cases (panel.armed .writeAppend).isSome <;> rfl

theorem meetSync_eq (panel : Panel) :
    panel.meetSync =
      ((panel.tripsAt? .sync).map fun _ => .injected .sync, panel.met .sync) := by
  have htrip := trip_eq (panel.counted .sync) .sync
  rw [armed_counted] at htrip
  rw [met_of_points rfl, tripsAt?_of_points rfl, meetSync]
  change Panel.trip { panel with syncs := panel.syncs + 1 } .sync = _ at htrip
  rw [htrip]
  cases (panel.armed .sync).isSome <;> rfl

def delivery : Point → Delivery
  | .readAt => .failed (.injected .readAt)
  | _ => .bytes []

theorem meetRead_eq (panel : Panel) (offset wanted : Nat) :
    panel.meetRead =
      ((panel.tripsAt? (.readAt offset wanted)).map delivery,
        panel.met (.readAt offset wanted)) := by
  have hread := trip_eq (panel.counted (.readAt offset wanted)) .readAt
  have hshort := trip_eq (panel.counted (.readAt offset wanted)) .shortRead
  rw [armed_counted] at hread hshort
  change Panel.trip { panel with reads := panel.reads + 1 } .readAt = _ at hread
  rw [meetRead, hread, met, tripsAt?, Medium.Call.points, List.find?_cons]
  cases harmed : panel.armed .readAt with
  | some arming => rfl
  | none =>
      have hcounted : (panel.counted (.readAt offset wanted)).armed .readAt = none := by
        rw [armed_counted, harmed]
      rw [spent_of_none hcounted]
      simp only [Option.isSome_none, hshort, List.find?_singleton]
      cases hshorted : panel.armed .shortRead with
      | some arming => rfl
      | none =>
          have hcounted : (panel.counted (.readAt offset wanted)).armed .shortRead = none := by
            rw [armed_counted, hshorted]
          rw [spent_of_none hcounted]
          rfl

theorem tripsAt?_eq_some_iff (panel : Panel) (call : Medium.Call) (point : Point) :
    panel.tripsAt? call = some point ↔
      (point ∈ call.points ∧ (point = .shortRead → panel.armed .readAt = none)) ∧
        panel.armed point ≠ none := by
  cases call with
  | position => simp [tripsAt?, Medium.Call.points]
  | size => simp [tripsAt?, Medium.Call.points]
  | readAt offset wanted =>
      cases hread : panel.armed .readAt <;> cases hshort : panel.armed .shortRead <;>
        cases point <;> simp [tripsAt?, Medium.Call.points, hread, hshort]
  | append data =>
      cases harmed : panel.armed .writeAppend <;>
        cases point <;> simp [tripsAt?, Medium.Call.points, harmed]
  | sync =>
      cases harmed : panel.armed .sync <;>
        cases point <;> simp [tripsAt?, Medium.Call.points, harmed]

/-- After a call everything is armed as it was, but for what was used up. -/
theorem armed_met_iff (panel : Panel) (call : Medium.Call) (point : Point) (arming : Arming) :
    (panel.met call).armed point = some arming ↔
      panel.armed point = some arming ∧
        (arming = .once → panel.tripsAt? call ≠ some point) := by
  cases hat : panel.tripsAt? call with
  | none => simp [met, hat]
  | some tripped =>
      rw [met, hat]
      dsimp only
      rw [spent, armed_counted]
      by_cases honce : panel.armed tripped = some .once
      · rw [if_pos honce, armed_set, armed_counted]
        by_cases hsame : point = tripped
        · subst hsame
          rw [if_pos rfl, honce]
          simp [eq_comm]
        · have hother : tripped ≠ point := fun h => hsame h.symm
          simp [hsame, hother]
      · rw [if_neg honce, armed_counted]
        constructor
        · rintro harmed
          refine ⟨harmed, ?_⟩
          rintro rfl hsame
          exact honce (Option.some.inj hsame ▸ harmed)
        · exact And.left

theorem spent_counts (panel : Panel) (point : Point) :
    (panel.spent point).reads = panel.reads ∧ (panel.spent point).appends = panel.appends ∧
      (panel.spent point).syncs = panel.syncs := by
  rw [spent]
  split
  · cases point <;> exact ⟨rfl, rfl, rfl⟩
  · exact ⟨rfl, rfl, rfl⟩

theorem met_counts (panel : Panel) (call : Medium.Call) :
    (panel.met call).reads = (panel.counted call).reads ∧
      (panel.met call).appends = (panel.counted call).appends ∧
        (panel.met call).syncs = (panel.counted call).syncs := by
  rw [met]
  split
  · exact spent_counts _ _
  · exact ⟨rfl, rfl, rfl⟩

end Panel

theorem Switch.turn_reads (switch : Switch) (panel : Panel) :
    (switch.turn panel).reads = panel.reads := by
  cases switch with
  | clear => rfl
  | arm point arming => cases point <;> rfl

end Rig

namespace Rigged

variable {β : Type} [Medium β]

theorem answer_nil (base : β) (call : Medium.Call) :
    Medium.answer (⟨[], base⟩ : Rigged β) call =
      ((Medium.answer base call).1, ⟨[], (Medium.answer base call).2⟩) := by
  cases call <;> rfl

/-- A call trips at the outermost panel, or goes on to what lies behind it. -/
theorem answer_cons (panel : Panel) (inner : List Panel) (base : β) (call : Medium.Call) :
    Medium.answer (⟨panel :: inner, base⟩ : Rigged β) call =
      match panel.tripsAt? call with
      | some point => (point.answer, ⟨panel.met call :: inner, base⟩)
      | none =>
        ((Medium.answer (⟨inner, base⟩ : Rigged β) call).1,
          ⟨panel.met call :: (Medium.answer (⟨inner, base⟩ : Rigged β) call).2.panels,
            (Medium.answer (⟨inner, base⟩ : Rigged β) call).2.base⟩) := by
  cases call with
  | position => rfl
  | size => rfl
  | readAt offset wanted =>
      show (Medium.Answer.delivered (Rigged.readAt ⟨panel :: inner, base⟩ offset wanted).1,
        (Rigged.readAt ⟨panel :: inner, base⟩ offset wanted).2) = _
      rw [Rigged.readAt, Rig.passDown, Panel.meetRead_eq panel offset wanted]
      cases hat : panel.tripsAt? (.readAt offset wanted) with
      | some point =>
          obtain ⟨hmem, -⟩ := Panel.of_tripsAt? hat
          simp only [Medium.Call.points, List.mem_cons, List.not_mem_nil, or_false] at hmem
          rcases hmem with rfl | rfl <;> rfl
      | none =>
          show _ = (Medium.Answer.delivered (Rigged.readAt ⟨inner, base⟩ offset wanted).1,
            (⟨_ :: (Rigged.readAt ⟨inner, base⟩ offset wanted).2.panels,
              (Rigged.readAt ⟨inner, base⟩ offset wanted).2.base⟩ : Rigged β))
          rw [Rigged.readAt]
          cases Rig.passDown Panel.meetRead inner with
          | mk answer panels => cases answer <;> rfl
  | append data =>
      show (Medium.Answer.accepted (Rigged.append ⟨panel :: inner, base⟩ data).1,
        (Rigged.append ⟨panel :: inner, base⟩ data).2) = _
      rw [Rigged.append, Rig.passDown, Panel.meetAppend_eq panel data]
      cases hat : panel.tripsAt? (.append data) with
      | some point =>
          obtain ⟨hmem, -⟩ := Panel.of_tripsAt? hat
          obtain rfl := List.mem_singleton.mp hmem
          rfl
      | none =>
          show _ = (Medium.Answer.accepted (Rigged.append ⟨inner, base⟩ data).1,
            (⟨_ :: (Rigged.append ⟨inner, base⟩ data).2.panels,
              (Rigged.append ⟨inner, base⟩ data).2.base⟩ : Rigged β))
          rw [Rigged.append]
          cases Rig.passDown Panel.meetAppend inner with
          | mk answer panels => cases answer <;> rfl
  | sync =>
      show (Medium.Answer.accepted (Rigged.sync ⟨panel :: inner, base⟩).1,
        (Rigged.sync ⟨panel :: inner, base⟩).2) = _
      rw [Rigged.sync, Rig.passDown, Panel.meetSync_eq panel]
      cases hat : panel.tripsAt? .sync with
      | some point =>
          obtain ⟨hmem, -⟩ := Panel.of_tripsAt? hat
          obtain rfl := List.mem_singleton.mp hmem
          rfl
      | none =>
          show _ = (Medium.Answer.accepted (Rigged.sync ⟨inner, base⟩).1,
            (⟨_ :: (Rigged.sync ⟨inner, base⟩).2.panels,
              (Rigged.sync ⟨inner, base⟩).2.base⟩ : Rigged β))
          rw [Rigged.sync]
          cases Rig.passDown Panel.meetSync inner with
          | mk answer panels => cases answer <;> rfl

end Rigged

end WriteBack
