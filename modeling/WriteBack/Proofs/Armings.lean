/-
# Armings — what a panel does follows from what was done to it

A panel remembers one thing for each point, overwrites it, uses it up and forgets it.
What it does to a call can be told without any of that, from the history of what was
done to it: at a point that the call gets to, the latest arming decides, if nothing has
been cleared since.  If it was for good the call trips.  If it was for once the call
trips unless another one has got to that point in between.

A read gets to two points, but to the second only if it does not trip at the first.  So
the rule for short reads speaks of the rule for reads that fail, at every earlier read;
and an arming for a short read outlives the reads that fail before they get there.
-/
import WriteBack.Proofs.Panels

namespace WriteBack

namespace Rig

/-! ## Histories -/

/-- What can be done to a panel: it is switched, or a call reaches it. -/
inductive Deed where
  | switched (switch : Switch)
  | called (call : Medium.Call)
deriving DecidableEq, Repr

namespace Deed

/-- The deed replaces what is armed at the point, or clears it. -/
def Resets (point : Point) : Deed → Prop
  | switched .clear => True
  | switched (.arm other _) => other = point
  | called _ => False

def isCall (kind : Medium.Call → Bool) : Deed → Bool
  | called call => kind call
  | switched _ => false

end Deed

/-- The latest arming of the point since the panel was cleared is this one; and if it is
for once, no call has got to the point since then. -/
def Latest (Gets : List Deed → Medium.Call → Prop) (point : Point) (history : List Deed)
    (arming : Arming) : Prop :=
  ∃ before since : List Deed, history = before ++ .switched (.arm point arming) :: since ∧
    (∀ deed ∈ since, ¬ deed.Resets point) ∧
      (arming = .once → ∀ (between : List Deed) (call : Medium.Call) (later : List Deed),
        since = between ++ .called call :: later →
          ¬ Gets (before ++ .switched (.arm point arming) :: between) call)

/-- After this history the call gets to the point.  A read gets to the point of short
reads if it has not failed before. -/
def Gets : Point → List Deed → Medium.Call → Prop
  | .readAt, _, call => call.isRead = true
  | .shortRead, history, call =>
    call.isRead = true ∧
      ∀ arming, ¬ Latest (fun _ call => call.isRead = true) .readAt history arming
  | .writeAppend, _, call => call.isAppend = true
  | .sync, _, call => call.isSync = true

/-- An arming of the point is in force after this history. -/
def InForce (point : Point) (history : List Deed) (arming : Arming) : Prop :=
  Latest (Gets point) point history arming

/-- After this history the call trips at the point. -/
def Trips (history : List Deed) (call : Medium.Call) (point : Point) : Prop :=
  Gets point history call ∧ ∃ arming, InForce point history arming

/-! ## One deed more -/

section Latest

variable {G : List Deed → Medium.Call → Prop} {point : Point} {history : List Deed}
  {arming : Arming}

theorem not_latest_nil : ¬ Latest G point [] arming := by
  rintro ⟨before, since, hhistory, -⟩
  simp at hhistory

theorem latest_switched_iff (switch : Switch) :
    Latest G point (history ++ [.switched switch]) arming ↔
      switch = .arm point arming ∨
        (¬ (Deed.switched switch).Resets point ∧ Latest G point history arming) := by
  constructor
  · rintro ⟨before, since, hcut, hkept, honce⟩
    rcases concat_eq_cut.mp hcut with ⟨-, hlast, -⟩ | ⟨since', hhistory, rfl⟩
    · exact .inl (Deed.switched.inj hlast)
    · obtain ⟨hkept, hlast⟩ := List.forall_mem_append.mp hkept
      refine .inr ⟨hlast _ (List.mem_singleton_self _), before, since', hhistory, hkept, ?_⟩
      intro hmode between call later hsince
      apply honce hmode between call (later ++ [.switched switch])
      rw [hsince, List.append_assoc, List.cons_append]
  · rintro (rfl | ⟨hlast, before, since, rfl, hkept, honce⟩)
    · refine ⟨history, [], rfl, List.forall_mem_nil _, ?_⟩
      intro _ between call later hsince
      simp at hsince
    · refine ⟨before, since ++ [.switched switch], by simp, ?_, ?_⟩
      · exact List.forall_mem_append.mpr ⟨hkept, List.forall_mem_singleton.mpr hlast⟩
      · intro hmode between call later hsince
        rcases concat_eq_cut.mp hsince with ⟨-, hcall, -⟩ | ⟨later', hsince, -⟩
        · cases hcall
        · exact honce hmode between call later' hsince

theorem latest_called_iff (call : Medium.Call) :
    Latest G point (history ++ [.called call]) arming ↔
      Latest G point history arming ∧ (arming = .once → ¬ G history call) := by
  constructor
  · rintro ⟨before, since, hcut, hkept, honce⟩
    rcases concat_eq_cut.mp hcut with ⟨-, hlast, -⟩ | ⟨since', rfl, rfl⟩
    · cases hlast
    · refine ⟨⟨before, since', rfl, (List.forall_mem_append.mp hkept).1, ?_⟩, ?_⟩
      · intro hmode between earlier later hsince
        apply honce hmode between earlier (later ++ [.called call])
        rw [hsince, List.append_assoc, List.cons_append]
      · intro hmode
        exact honce hmode since' call [] rfl
  · rintro ⟨⟨before, since, rfl, hkept, honce⟩, hlast⟩
    refine ⟨before, since ++ [.called call], by simp, ?_, ?_⟩
    · exact List.forall_mem_append.mpr ⟨hkept, List.forall_mem_singleton.mpr id⟩
    · intro hmode between earlier later hsince
      rcases concat_eq_cut.mp hsince with ⟨rfl, hcall, -⟩ | ⟨later', hsince, -⟩
      · cases hcall
        exact hlast hmode
      · exact honce hmode between earlier later' hsince

end Latest

/-! ## What a panel remembers of its history -/

/-- The panel remembers what is in force after this history, and how many calls of each
kind there have been. -/
structure Panel.Remembers (panel : Panel) (history : List Deed) : Prop where
  armed_iff (point : Point) (arming : Arming) :
    panel.armed point = some arming ↔ InForce point history arming
  reads_eq : panel.reads = history.countP (Deed.isCall Medium.Call.isRead)
  appends_eq : panel.appends = history.countP (Deed.isCall Medium.Call.isAppend)
  syncs_eq : panel.syncs = history.countP (Deed.isCall Medium.Call.isSync)

namespace Panel.Remembers

variable {panel : Panel} {history : List Deed}

theorem nil : Panel.Remembers {} [] where
  armed_iff point arming := by
    refine ⟨fun harmed => ?_, fun hforce => absurd hforce not_latest_nil⟩
    cases point <;> cases harmed
  reads_eq := rfl
  appends_eq := rfl
  syncs_eq := rfl

theorem armed_ne_none_iff (h : panel.Remembers history) (point : Point) :
    panel.armed point ≠ none ↔ ∃ arming, InForce point history arming := by
  rw [Option.ne_none_iff_exists']
  exact exists_congr (h.armed_iff point)

theorem gets_iff (h : panel.Remembers history) (point : Point) (call : Medium.Call) :
    Gets point history call ↔
      point ∈ call.points ∧ (point = .shortRead → panel.armed .readAt = none) := by
  have hread : panel.armed .readAt = none ↔ ∀ arming, ¬ InForce .readAt history arming := by
    rw [← not_exists, ← h.armed_ne_none_iff, Classical.not_not]
  rw [hread]
  cases point with
  | readAt => cases call <;> simp [Gets, Medium.Call.points, Medium.Call.isRead]
  | shortRead =>
      have hgets : Gets .shortRead history call ↔
          call.isRead = true ∧ ∀ arming, ¬ InForce .readAt history arming := Iff.rfl
      rw [hgets]
      cases call <;> simp [Medium.Call.points, Medium.Call.isRead]
  | writeAppend => cases call <;> simp [Gets, Medium.Call.points, Medium.Call.isAppend]
  | sync => cases call <;> simp [Gets, Medium.Call.points, Medium.Call.isSync]

/-- A call trips by the panel where it does by the history. -/
theorem tripsAt?_iff (h : panel.Remembers history) (call : Medium.Call) (point : Point) :
    panel.tripsAt? call = some point ↔ Trips history call point := by
  rw [tripsAt?_eq_some_iff, Trips, h.gets_iff, h.armed_ne_none_iff]

theorem switched (h : panel.Remembers history) (switch : Switch) :
    (switch.turn panel).Remembers (history ++ [.switched switch]) where
  armed_iff point arming := by
    rw [InForce, latest_switched_iff, ← InForce, ← h.armed_iff]
    cases switch with
    | clear => cases point <;> simp [Switch.turn, clear, armed, Deed.Resets]
    | arm other mode =>
        rw [Switch.turn, arm, armed_set]
        by_cases hsame : point = other
        · subst hsame
          simp [Deed.Resets]
        · have hother : other ≠ point := fun h => hsame h.symm
          simp [Deed.Resets, hsame, hother]
  reads_eq := by
    rw [Switch.turn_reads, h.reads_eq, List.countP_append]
    rfl
  appends_eq := by
    rw [(Switch.turn_counts switch panel).1, h.appends_eq, List.countP_append]
    rfl
  syncs_eq := by
    rw [(Switch.turn_counts switch panel).2, h.syncs_eq, List.countP_append]
    rfl

theorem called (h : panel.Remembers history) (call : Medium.Call) :
    (panel.met call).Remembers (history ++ [.called call]) where
  armed_iff point arming := by
    rw [armed_met_iff, InForce, latest_called_iff, ← InForce, ← h.armed_iff]
    -- where the point is armed the call trips there if it gets there
    refine and_congr_right fun harmed => imp_congr_right fun _ => not_congr ?_
    rw [tripsAt?_eq_some_iff, h.gets_iff]
    exact and_iff_left (by rw [harmed]; exact Option.some_ne_none arming)
  reads_eq := by
    rw [(met_counts panel call).1, List.countP_append, ← h.reads_eq]
    cases call <;> rfl
  appends_eq := by
    rw [(met_counts panel call).2.1, List.countP_append, ← h.appends_eq]
    cases call <;> rfl
  syncs_eq := by
    rw [(met_counts panel call).2.2, List.countP_append, ← h.syncs_eq]
    cases call <;> rfl

end Panel.Remembers

theorem Point.answer_injective : Function.Injective Point.answer := by
  intro point other h
  cases point <;> cases other <;> first | rfl | cases h

end Rig

/-! ## A medium behind a panel -/

/-- What the caller has in the destination of a read after this answer. -/
def Medium.Answer.over (dest : Bytes) : Medium.Answer → Bytes
  | .delivered (.bytes bytes) => dest.overlay bytes
  | _ => dest

theorem Rig.Point.answer_over (point : Rig.Point) (dest : Bytes) :
    point.answer.over dest = dest := by
  cases point <;> rfl

namespace Rigged

open Rig

variable {β : Type} [Medium β]

/-- The medium after a deed, of which the outermost panel is the object. -/
def afterDeed (m : Rigged β) : Deed → Rigged β
  | .switched switch => m.mapPanel 0 switch.turn
  | .called call => (Medium.answer m call).2

def withHistory (base : β) (history : List Deed) : Rigged β :=
  history.foldl afterDeed (behind 1 base)

theorem answer_single (panel : Panel) (base : β) (call : Medium.Call) :
    Medium.answer (⟨[panel], base⟩ : Rigged β) call =
      match panel.tripsAt? call with
      | some point => (point.answer, ⟨[panel.met call], base⟩)
      | none =>
        ((Medium.answer base call).1, ⟨[panel.met call], (Medium.answer base call).2⟩) := by
  cases hmet : panel.tripsAt? call <;> simp only [answer_cons, answer_nil, hmet]

/-- A panel that remembers what was done to it remembers the next deed, whatever the
medium behind it does. -/
theorem remembers_afterDeed {panel : Panel} {history : List Deed}
    (h : panel.Remembers history) (base : β) (deed : Deed) :
    ∃ (panel' : Panel) (base' : β), afterDeed ⟨[panel], base⟩ deed = ⟨[panel'], base'⟩ ∧
      panel'.Remembers (history ++ [deed]) := by
  cases deed with
  | switched switch => exact ⟨_, base, rfl, h.switched switch⟩
  | called call =>
      cases hat : panel.tripsAt? call with
      | some point =>
          refine ⟨panel.met call, base, ?_, h.called call⟩
          rw [afterDeed, answer_single, hat]
      | none =>
          refine ⟨panel.met call, (Medium.answer base call).2, ?_, h.called call⟩
          rw [afterDeed, answer_single, hat]

theorem remembers_foldl (history : List Deed) :
    ∀ (before : List Deed) (panel : Panel) (base : β), panel.Remembers before →
      ∃ (panel' : Panel) (base' : β),
        history.foldl afterDeed (⟨[panel], base⟩ : Rigged β) = ⟨[panel'], base'⟩ ∧
          panel'.Remembers (before ++ history) := by
  induction history with
  | nil =>
      intro before panel base h
      exact ⟨panel, base, rfl, by rwa [List.append_nil]⟩
  | cons deed history ih =>
      intro before panel base h
      obtain ⟨panel', base', hdeed, hremembers⟩ := remembers_afterDeed h base deed
      rw [List.foldl_cons, hdeed, List.append_cons]
      exact ih _ panel' base' hremembers

/-- **A panel does what its history says.**  Take a medium behind one panel, switch the
panel and call the medium in any order, and then make a call.  It is answered with what
a point has to say exactly if it trips there by the history, or if it trips nowhere and
the medium says so itself.  If it trips neither the medium nor the destination of the
caller changes; if not it is the call on the medium.  And the panel has counted all
calls of each kind, those that tripped among them. -/
theorem faults_follow_history (base : β) (history : List Deed) (call : Medium.Call)
    (dest : Bytes) :
    (∀ point : Point, (Medium.answer (withHistory base history) call).1 = point.answer ↔
        Trips history call point ∨
          (∀ other : Point, ¬ Trips history call other) ∧
            (Medium.answer (withHistory base history).base call).1 = point.answer) ∧
      ((∃ point : Point, Trips history call point) →
        (Medium.answer (withHistory base history) call).2.base =
            (withHistory base history).base ∧
          (Medium.answer (withHistory base history) call).1.over dest = dest) ∧
      ((∀ point : Point, ¬ Trips history call point) →
        (Medium.answer (withHistory base history) call).1 =
            (Medium.answer (withHistory base history).base call).1 ∧
          (Medium.answer (withHistory base history) call).2.base =
            (Medium.answer (withHistory base history).base call).2) ∧
      ∃ panel : Panel, (withHistory base history).panels = [panel] ∧
        panel.reads = history.countP (Deed.isCall Medium.Call.isRead) ∧
        panel.appends = history.countP (Deed.isCall Medium.Call.isAppend) ∧
        panel.syncs = history.countP (Deed.isCall Medium.Call.isSync) := by
  obtain ⟨panel, inner, hm, hremembers⟩ := remembers_foldl history [] {} base .nil
  have hm : withHistory base history = ⟨[panel], inner⟩ := hm
  have hcounts := And.intro hremembers.reads_eq (And.intro hremembers.appends_eq
    hremembers.syncs_eq)
  rw [hm, answer_single]
  cases hat : panel.tripsAt? call with
  | some point =>
      have htrips := (hremembers.tripsAt?_iff call point).mp hat
      -- a call trips at one point at most
      have hthere : ∀ other, Trips history call other ↔ point = other := by
        intro other
        have hother := hremembers.tripsAt?_iff call other
        rw [hat, Option.some_inj] at hother
        exact hother.symm
      refine ⟨?_, ?_, ?_, panel, rfl, hcounts⟩
      · intro other
        have helse : ¬ ∀ other, ¬ Trips history call other := fun hnone => hnone point htrips
        rw [hthere, or_iff_left fun h => helse h.1]
        exact Point.answer_injective.eq_iff
      · intro _
        exact ⟨rfl, point.answer_over dest⟩
      · intro hnone
        exact absurd htrips (hnone point)
  | none =>
      have hnone : ∀ other, ¬ Trips history call other := by
        intro other htrips
        have hother := (hremembers.tripsAt?_iff call other).mpr htrips
        rw [hat] at hother
        cases hother
      refine ⟨?_, ?_, ?_, panel, rfl, hcounts⟩
      · intro other
        simp [hnone]
      · rintro ⟨other, htrips⟩
        exact absurd htrips (hnone other)
      · intro _
        exact ⟨rfl, rfl⟩

/-- A panel on which a read is to fail once and a read is to deliver nothing once, and
then a read. -/
def shielded : List Deed :=
  [.switched (.arm .shortRead .once), .switched (.arm .readAt .once), .called (.readAt 0 1)]

/-- The first read fails and does not get as far as the short read, which is what becomes
of the second; the third is a read of the medium. -/
theorem faults_follow_history_shielded :
    (Medium.answer (withHistory (InMemory.holding [9]) shielded) (.readAt 0 1)).1 =
        Point.shortRead.answer ∧
      (Medium.answer (withHistory (InMemory.holding [9]) (shielded ++ [.called (.readAt 0 1)]))
        (.readAt 0 1)).1 = .delivered (.bytes [9]) := by
  have hfirst := ((Panel.Remembers.nil.switched (.arm .shortRead .once)).switched
    (.arm .readAt .once)).called (.readAt 0 1)
  have hsecond := hfirst.called (.readAt 0 1)
  have htrips : Trips shielded (.readAt 0 1) .shortRead :=
    (hfirst.tripsAt?_iff (.readAt 0 1) .shortRead).mp (by decide)
  have hnone : ∀ point, ¬ Trips (shielded ++ [.called (.readAt 0 1)]) (.readAt 0 1) point := by
    intro point hpoint
    have hat := (hsecond.tripsAt?_iff (.readAt 0 1) point).mpr hpoint
    revert hat
    cases point <;> decide
  obtain ⟨hanswer, -, -, -⟩ :=
    faults_follow_history (InMemory.holding [9]) shielded (.readAt 0 1) []
  obtain ⟨-, -, hinner, -⟩ := faults_follow_history (InMemory.holding [9])
    (shielded ++ [.called (.readAt 0 1)]) (.readAt 0 1) []
  exact ⟨(hanswer .shortRead).mpr (.inl htrips), (hinner hnone).1⟩

end Rigged

end WriteBack
