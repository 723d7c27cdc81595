/-
# Layers — panels within panels

A panel does not care what it stands before.  So a medium behind a panel can itself be
put behind a panel, and so on, as often as one likes; and that comes to the same as one
medium behind all of these panels (`Nested.answer_flat`).

In such a stack the outermost panel at which a call trips answers it.  The panels before
that one count the call, it counts the call and uses up what was armed for once, and
what lies behind sees nothing of it.  Where nothing is armed nobody but the counts can
tell that there are panels at all: a journal over the stack is the journal over the
bare medium, step by step, and all the panels count alike.
-/
import WriteBack.Proofs.Panels

namespace WriteBack

open Rig (Panel Point)

/-! ## One medium wrapped around the other -/

/-- A medium that has been put behind panels so many times. -/
def Nested (β : Type) : Nat → Type
  | 0 => β
  | depth + 1 => Rigged (Nested β depth)

namespace Nested

variable {β : Type}

instance instMedium [Medium β] : (depth : Nat) → Medium (Nested β depth)
  | 0 => inferInstanceAs (Medium β)
  | depth + 1 =>
    have := instMedium depth
    inferInstanceAs (Medium (Rigged (Nested β depth)))

/-- All the panels in one stack, the outermost first, and the medium behind them. -/
def flat : (depth : Nat) → Nested β depth → Rigged β
  | 0, base => ⟨[], base⟩
  | depth + 1, m =>
    ⟨Rigged.panels m ++ (flat depth (Rigged.base m)).panels, (flat depth (Rigged.base m)).base⟩

end Nested

namespace Rigged

variable {β γ : Type} [Medium β] [Medium γ]

/-- If a medium can be seen as one behind panels, then behind more panels it can be seen
as one behind all of them. -/
theorem answer_flatten {view : γ → Rigged β} {call : Medium.Call}
    (hview : ∀ m : γ, (Medium.answer m call).1 = (Medium.answer (view m) call).1 ∧
      view (Medium.answer m call).2 = (Medium.answer (view m) call).2)
    (panels : List Panel) (m : γ) :
    (Medium.answer (⟨panels, m⟩ : Rigged γ) call).1 =
        (Medium.answer (⟨panels ++ (view m).panels, (view m).base⟩ : Rigged β) call).1 ∧
      (⟨(Medium.answer (⟨panels, m⟩ : Rigged γ) call).2.panels ++
          (view (Medium.answer (⟨panels, m⟩ : Rigged γ) call).2.base).panels,
        (view (Medium.answer (⟨panels, m⟩ : Rigged γ) call).2.base).base⟩ : Rigged β) =
        (Medium.answer (⟨panels ++ (view m).panels, (view m).base⟩ : Rigged β) call).2 := by
  induction panels with
  | nil =>
      rw [answer_nil]
      exact hview m
  | cons panel inner ih =>
      rw [List.cons_append, answer_cons, answer_cons]
      cases panel.tripsAt? call with
      | some point => exact ⟨rfl, rfl⟩
      | none =>
          obtain ⟨hanswer, hafter⟩ := ih
          refine ⟨hanswer, ?_⟩
          rw [← hafter]
          rfl

end Rigged

namespace Nested

variable {β : Type} [Medium β]

theorem answer_flat (call : Medium.Call) :
    ∀ (depth : Nat) (m : Nested β depth),
      (Medium.answer m call).1 = (Medium.answer (flat depth m) call).1 ∧
        flat depth (Medium.answer m call).2 = (Medium.answer (flat depth m) call).2 := by
  intro depth
  induction depth with
  | zero =>
      intro (base : β)
      have hbare := Rigged.answer_nil base call
      exact ⟨(congrArg Prod.fst hbare).symm, (congrArg Prod.snd hbare).symm⟩
  | succ depth ih =>
      intro m
      exact Rigged.answer_flatten ih (Rigged.panels m) (Rigged.base m)

end Nested

/-! ## Where a call ends in a stack -/

namespace Rigged

variable {β : Type} [Medium β]

theorem answer_append {call : Medium.Call} (outer inner : List Panel) (base : β)
    (hpasses : ∀ panel ∈ outer, panel.tripsAt? call = none) :
    Medium.answer (⟨outer ++ inner, base⟩ : Rigged β) call =
      ((Medium.answer (⟨inner, base⟩ : Rigged β) call).1,
        ⟨outer.map (·.counted call) ++ (Medium.answer (⟨inner, base⟩ : Rigged β) call).2.panels,
          (Medium.answer (⟨inner, base⟩ : Rigged β) call).2.base⟩) := by
  induction outer with
  | nil => rfl
  | cons panel outer ih =>
      obtain ⟨hpanel, houter⟩ := List.forall_mem_cons.mp hpasses
      have hmet : panel.met call = panel.counted call := by rw [Panel.met, hpanel]
      rw [List.cons_append, answer_cons, hpanel, ih houter, hmet]
      rfl

theorem answer_of_passes {call : Medium.Call} (panels : List Panel) (base : β)
    (hpasses : ∀ panel ∈ panels, panel.tripsAt? call = none) :
    Medium.answer (⟨panels, base⟩ : Rigged β) call =
      ((Medium.answer base call).1,
        ⟨panels.map (·.counted call), (Medium.answer base call).2⟩) := by
  have hall := answer_append panels [] base hpasses
  rw [List.append_nil, answer_nil, List.append_nil] at hall
  exact hall

theorem answer_of_trips {call : Medium.Call} {outer inner : List Panel} {panel : Panel}
    {point : Point} (base : β) (hpasses : ∀ passed ∈ outer, passed.tripsAt? call = none)
    (htrips : panel.tripsAt? call = some point) :
    Medium.answer (⟨outer ++ panel :: inner, base⟩ : Rigged β) call =
      (point.answer,
        ⟨outer.map (·.counted call) ++ (panel.counted call).spent point :: inner, base⟩) := by
  have hmet : panel.met call = (panel.counted call).spent point := by rw [Panel.met, htrips]
  rw [answer_append _ _ _ hpasses, answer_cons, htrips, hmet]

end Rigged

/-! ## Stacks with nothing armed -/

namespace Rig.Panel

def Idle (panel : Panel) : Prop := ∀ point : Point, panel.armed point = none

/-- The panel when it has counted so many more calls of each kind. -/
def advanced (panel : Panel) (reads appends syncs : Nat) : Panel :=
  { panel with
    reads := panel.reads + reads
    appends := panel.appends + appends
    syncs := panel.syncs + syncs }

theorem Idle.advanced {panel : Panel} (h : panel.Idle) (reads appends syncs : Nat) :
    (panel.advanced reads appends syncs).Idle := by
  intro point
  have harmed := h point
  cases point <;> exact harmed

theorem Idle.tripsAt?_eq {panel : Panel} (h : panel.Idle) (call : Medium.Call) :
    panel.tripsAt? call = none := by
  apply List.find?_eq_none.mpr
  intro point _
  rw [h point]
  exact Bool.false_ne_true

end Rig.Panel

theorem Rig.Panel.counted_advanced (reads appends syncs : Nat) (call : Medium.Call) :
    ∃ reads' appends' syncs' : Nat, ∀ panel : Panel,
      (panel.advanced reads appends syncs).counted call =
        panel.advanced reads' appends' syncs' := by
  cases call with
  | position => exact ⟨reads, appends, syncs, fun _ => rfl⟩
  | size => exact ⟨reads, appends, syncs, fun _ => rfl⟩
  | readAt offset wanted => exact ⟨reads + 1, appends, syncs, fun _ => rfl⟩
  | append data => exact ⟨reads, appends + 1, syncs, fun _ => rfl⟩
  | sync => exact ⟨reads, appends, syncs + 1, fun _ => rfl⟩

theorem Medium.Mirrors.of_answer {σ τ : Type} [Medium σ] [Medium τ] {R : σ → τ → Prop}
    (h : ∀ (m : σ) (n : τ) (call : Medium.Call), R m n →
      Alike R (Medium.answer m call) (Medium.answer n call)) :
    Medium.Mirrors R fun _ => False where
  position_eq {m n} hmedia := Medium.Answer.count.inj (h m n .position hmedia).1
  size_eq {m n} hmedia := Medium.Answer.count.inj (h m n .size hmedia).1
  append {m n} data hmedia := by
    obtain ⟨hanswer, hafter⟩ := h m n (.append data) hmedia
    exact ⟨Medium.Answer.accepted.inj hanswer, hafter⟩
  sync {m n} hmedia := by
    obtain ⟨hanswer, hafter⟩ := h m n .sync hmedia
    exact ⟨Medium.Answer.accepted.inj hanswer, hafter⟩
  readAt {m n} offset wanted hmedia := by
    obtain ⟨hanswer, hafter⟩ := h m n (.readAt offset wanted) hmedia
    exact .inr ⟨Medium.Answer.delivered.inj hanswer, hafter⟩

namespace Nested

variable {β : Type} {depth : Nat}

/-- The medium lies behind these panels, all of which have counted the same number of
calls in the meantime. -/
def Covers (panels : List Panel) (m : Nested β depth) (base : β) : Prop :=
  ∃ reads appends syncs : Nat,
    flat depth m = ⟨panels.map (·.advanced reads appends syncs), base⟩

variable [Medium β]

theorem covers_mirrors {panels : List Panel} (hidle : ∀ panel ∈ panels, panel.Idle) :
    Medium.Mirrors (Covers panels : Nested β depth → β → Prop) fun _ => False := by
  apply Medium.Mirrors.of_answer
  rintro m base call ⟨reads, appends, syncs, hflat⟩
  have hpasses : ∀ panel ∈ panels.map (·.advanced reads appends syncs),
      panel.tripsAt? call = none := by
    intro panel hmem
    obtain ⟨before, hbefore, rfl⟩ := List.mem_map.mp hmem
    exact ((hidle before hbefore).advanced reads appends syncs).tripsAt?_eq call
  obtain ⟨hanswer, hafter⟩ := answer_flat call depth m
  rw [hflat, Rigged.answer_of_passes _ _ hpasses] at hanswer hafter
  obtain ⟨reads', appends', syncs', hcounted⟩ :=
    Panel.counted_advanced reads appends syncs call
  refine ⟨hanswer, reads', appends', syncs', ?_⟩
  rw [hafter, List.map_map]
  simp only [Function.comp_def, hcounted]

end Nested

/-! ## Journals over stacks -/

namespace Journal

variable {σ : Type} [Medium σ]

/-- What a client does with an open journal. -/
inductive Move where
  | call (request : Request)
  | ask (query : Query)
deriving DecidableEq, Repr

/-- What comes back from one move after the other, and the journal afterwards. -/
def answered (j : Journal σ) : List Move → List Report × Journal σ
  | [] => ([], j)
  | .call request :: moves =>
    let (reports, last) := (j.perform request).1.after.answered moves
    (j.report request :: reports, last)
  | .ask query :: moves =>
    let (reports, last) := j.answered moves
    (.asked query (j.answer query) :: reports, last)

/-- Journals over media that mirror each other without exception answer all moves
alike. -/
theorem Mirrored.answered {τ : Type} [Medium τ] {R : σ → τ → Prop}
    (hmirrors : Medium.Mirrors R fun _ => False) (moves : List Move) :
    ∀ {j : Journal σ} {k : Journal τ}, j.Mirrored R k →
      (j.answered moves).1 = (k.answered moves).1 ∧
        (j.answered moves).2.Mirrored R (k.answered moves).2 := by
  induction moves with
  | nil =>
      intro j k h
      exact ⟨rfl, h⟩
  | cons move moves ih =>
      intro j k h
      cases move with
      | ask query =>
          obtain ⟨hreports, hlast⟩ := ih h
          refine ⟨?_, hlast⟩
          show Report.asked query (j.answer query) :: _ = .asked query (k.answer query) :: _
          rw [h.answer_eq query, hreports]
      | call request =>
          rcases h.perform hmirrors request with ⟨_, hexcused, _⟩ | ⟨hcall, hdest⟩
          · exact hexcused.elim
          · obtain ⟨hreports, hlast⟩ := ih hcall.after
            refine ⟨?_, hlast⟩
            show j.report request :: _ = k.report request :: _
            rw [report_eq hcall hdest, hreports]

end Journal

namespace Nested

open Journal (Move start)

variable {β : Type} [Medium β] {depth : Nat}

/-- A journal over a stack and one over the bare medium come to the same in these moves:
the same is reported, the journals are the same but for their media, the stack still lies
before that medium with counts that have gone the same way; and so it is when both are
dropped. -/
structure SeenThrough (panels : List Panel) (j : Journal (Nested β depth)) (k : Journal β)
    (moves : List Move) : Prop where
  reports_eq : (j.answered moves).1 = (k.answered moves).1
  state_eq : (k.answered moves).2 = (j.answered moves).2.atop (k.answered moves).2.medium
  covers : Covers panels (j.answered moves).2.medium (k.answered moves).2.medium
  dropped_events_eq : (j.answered moves).2.drop.2 = (k.answered moves).2.drop.2
  dropped_covers : Covers panels (j.answered moves).2.drop.1 (k.answered moves).2.drop.1

theorem seenThrough {panels : List Panel} (hidle : ∀ panel ∈ panels, panel.Idle)
    {j : Journal (Nested β depth)} {base : β} (hcovers : Covers panels j.medium base)
    (moves : List Move) : SeenThrough panels j (j.atop base) moves := by
  have hmirrors : Medium.Mirrors (Covers panels : Nested β depth → β → Prop) fun _ => False :=
    covers_mirrors hidle
  obtain ⟨hreports, hlast⟩ := Journal.Mirrored.answered hmirrors moves
    (j := j) (k := j.atop base) ⟨base, hcovers, rfl⟩
  obtain ⟨hdropped, hevents⟩ := hlast.drop hmirrors
  obtain ⟨medium, hmedium, hstate⟩ := hlast
  have hsame : ((j.atop base).answered moves).2.medium = medium := by
    rw [hstate, Journal.atop_medium]
  exact ⟨hreports, by rw [hsame, ← hstate], by rw [hsame]; exact hmedium, hevents, hdropped⟩

/-- **Layers compose.**  Put a medium behind panels as often as you like, with anything
armed anywhere.  A call that trips nowhere is one on the medium, and every panel counts
it.  Otherwise the outermost panel at which it trips answers: the panels before it count
the call, it counts the call and uses up what was armed for once, and what lies behind
is as it was.  And if nothing is armed, whoever opens a journal over the stack and calls
and asks it in any order gets what comes of a journal over the bare medium; the journals
stay the same, so do their media, and all the panels count alike. -/
theorem layers_compose (m : Nested β depth) :
    (∀ call : Medium.Call, (∀ panel ∈ (flat depth m).panels, panel.tripsAt? call = none) →
        (Medium.answer m call).1 = (Medium.answer (flat depth m).base call).1 ∧
          flat depth (Medium.answer m call).2 =
            ⟨(flat depth m).panels.map (·.counted call),
              (Medium.answer (flat depth m).base call).2⟩) ∧
      (∀ (call : Medium.Call) (outer inner : List Panel) (panel : Panel) (point : Point),
        (flat depth m).panels = outer ++ panel :: inner →
          (∀ passed ∈ outer, passed.tripsAt? call = none) →
            panel.tripsAt? call = some point →
              (Medium.answer m call).1 = point.answer ∧
                flat depth (Medium.answer m call).2 =
                  ⟨outer.map (·.counted call) ++ (panel.counted call).spent point :: inner,
                    (flat depth m).base⟩) ∧
      ((∀ panel ∈ (flat depth m).panels, panel.Idle) →
        ∀ (settings : Settings) (supply : Supply),
          start (flat depth m).base settings supply =
              ((start m settings supply).1.map fun j => j.atop (flat depth m).base,
                (start m settings supply).2) ∧
            ∀ (opened : Journal (Nested β depth)) (events : List Event),
              start m settings supply = (.ok opened, events) → ∀ moves : List Move,
                SeenThrough (flat depth m).panels opened (opened.atop (flat depth m).base)
                  moves) := by
  obtain ⟨panels, base, hflat⟩ : ∃ panels base, flat depth m = ⟨panels, base⟩ :=
    ⟨_, _, rfl⟩
  rw [hflat]
  refine ⟨?_, ?_, ?_⟩
  · intro call hpasses
    have hanswer := answer_flat call depth m
    rwa [hflat, Rigged.answer_of_passes panels base hpasses] at hanswer
  · rintro call outer inner panel point rfl hpasses htrips
    have hanswer := answer_flat call depth m
    rwa [hflat, Rigged.answer_of_trips base hpasses htrips] at hanswer
  · intro hidle settings supply
    have hcovers : Covers panels m base := by
      refine ⟨0, 0, 0, ?_⟩
      have hsame : panels.map (·.advanced 0 0 0) = panels := List.map_id _
      rw [hflat, hsame]
    refine ⟨Journal.start_atop (covers_mirrors hidle) hcovers settings supply, ?_⟩
    intro opened events hstart moves
    have hmedium : opened.medium = m := by
      rw [Journal.eq_fresh_of_start hstart]
      rfl
    exact seenThrough hidle (by rw [hmedium]; exact hcovers) moves

def threefold (outer middle inner : Panel) : Nested InMemory 3 :=
  (⟨[outer], (⟨[middle], (⟨[inner], .holding [9]⟩ : Rigged InMemory)⟩ :
    Rigged (Rigged InMemory))⟩ : Rigged (Rigged (Rigged InMemory)))

/-- A sync trips at the second of three panels, where it uses up what was armed, and not
at the third, where syncs are to fail for good; an append passes all three; and behind
three panels with nothing armed a write, a flush and a question come to what they come
to without any. -/
theorem layers_compose_threefold :
    (Medium.answer (threefold {} { sync := some .once } { sync := some .always }) .sync).1 =
        Point.sync.answer ∧
      flat 3 (Medium.answer (threefold {} { sync := some .once } { sync := some .always })
          .sync).2 =
        ⟨[{ syncs := 1 }, { syncs := 1 }, { sync := some .always }], .holding [9]⟩ ∧
      (flat 3 (Medium.answer (threefold {} { sync := some .once } { sync := some .always })
          (.append [1])).2).base = ⟨[9, 1], 1⟩ ∧
      ∃ opened : Journal (Nested InMemory 3),
        (start (threefold {} {} {}) {} .heap).1 = .ok opened ∧
          SeenThrough [{}, {}, {}] opened (opened.atop (InMemory.holding [9]))
            [.call (.write [1]), .call (.flush true), .ask .position] := by
  obtain ⟨hpasses, htrips, -⟩ :=
    layers_compose (threefold {} { sync := some .once } { sync := some .always })
  obtain ⟨hanswer, hafter⟩ := htrips .sync [{}] [{ sync := some .always }]
    { sync := some .once } .sync rfl (by decide) (by decide)
  obtain ⟨-, happended⟩ := hpasses (.append [1]) (by decide)
  have hidle : ∀ panel ∈ (flat 3 (threefold {} {} {})).panels, panel.Idle := by
    intro panel hmem point
    have hpanel : panel = {} := by
      simpa [flat, threefold] using hmem
    subst hpanel
    cases point <;> rfl
  have hstart : start (threefold {} {} {}) {} .heap = (.ok _, _) := rfl
  obtain ⟨-, hseen⟩ := (layers_compose (threefold {} {} {})).2.2 hidle {} .heap
  exact ⟨hanswer, hafter, congrArg Rigged.base happended, _, congrArg Prod.fst hstart,
    hseen _ _ hstart _⟩

end Nested

end WriteBack
