/-
# Accounting — the sums of a run stay below the limit

A journal may be opened at any position that there is a word for.  It then has a
budget, which is what is left of the words beyond that position; and only writes that
are accepted draw on it.  Writes that are rejected, or taken back when their forced
flush is refused, leave it as it was, however often they are tried again.

As long as the budget pays for what has been accepted and for the write under way, a
machine that keeps the journal in words goes through the same run step by step
(`Ledger.Computes`): no sum that it makes is too large for a word, and the bound is
compared as it is.
-/
import WriteBack.Proofs.Passage
import WriteBack.Proofs.Reckoning

namespace WriteBack

open Journal (Request Reply Query Answer Step Traces Audited)

/-! ## A journal in words, live or closed -/

/-- A journal kept in words as long as it is live. -/
inductive Ledger (σ : Type) where
  | live (w : Worded σ)
  | closed (settings : Settings) (medium : σ)

namespace Ledger

variable {σ : Type}

/-- The journal that is kept so, in numbers. -/
def value : Ledger σ → Journal σ
  | live w => .live w.value
  | closed settings medium => .closed settings medium

def mapMedium (f : σ → σ) : Ledger σ → Ledger σ
  | live w => live { w with medium := f w.medium }
  | closed settings medium => closed settings (f medium)

theorem value_mapMedium (f : σ → σ) (l : Ledger σ) :
    (l.mapMedium f).value = l.value.mapMedium f := by
  cases l with
  | live w => rfl
  | closed settings medium => rfl

/-- Answers a question.  Only where the stream ends has to be worked out. -/
def answer? : Ledger σ → Query → Option (Except Failure Answer)
  | live w, .position => w.logicalEnd?.map fun stop => .ok (.count stop.toNat)
  | live w, .size => w.logicalEnd?.map fun stop => .ok (.count stop.toNat)
  | live w, .heldCount =>
    (Word.ofLength? w.held.length).map fun length => .ok (.count length.toNat)
  | l, query => some (l.value.answer query)

variable [Medium σ]

/-- Performs a call in words.  A closed journal has no sums to make. -/
def perform? : Ledger σ → Request → Option (Outcome (Ledger σ) Reply × Bytes)
  | live w, .write data =>
    (w.write? data).map fun call => ((call.lift live).map fun _ => .nothing, [])
  | live w, .flush syncing =>
    (w.flushAnd? syncing).map fun call => ((call.lift live).map fun _ => .nothing, [])
  | live w, .forceWrite => w.forceWrite?.map fun call => ((call.lift live).map .durable, [])
  | live w, .read dest position length =>
    (w.serveRead? dest position length).map fun (call, dest) =>
      ((call.lift live).map .copied, dest)
  | live w, .close =>
    w.lastFlush?.map fun call =>
      ((call.lift fun last => closed last.settings last.medium).map fun _ => .nothing, [])
  | closed settings medium, request =>
    let (call, dest) := (Journal.closed settings medium).perform request
    some (⟨call.result, closed settings medium, call.events⟩, dest)

def drop? : Ledger σ → Option (σ × List Event)
  | live w => w.drop?
  | closed _ medium => some (medium, [])

end Ledger

def Journal.Request.size : Request → Nat
  | .write data => data.length
  | _ => 0

namespace Ledger

variable {σ : Type}

theorem lift_reply {α : Type} {call : Outcome (Worded σ) α} {number : Outcome (Live σ) α}
    (hvalue : call.lift Worded.value = number) {leave? : Worded σ → Ledger σ}
    {leave : Live σ → Journal σ} (hleave : ∀ w : Worded σ, (leave? w).value = leave w.value)
    (reply : α → Reply) :
    ((call.lift leave?).map reply).lift value = (number.lift leave).map reply := by
  subst hvalue
  exact congrArg (fun last => Outcome.mk _ last _) (hleave call.after)

theorem answer?_eq {l : Ledger σ}
    (h : ∀ w : Worded σ, l = live w → w.value.Contained 0 0) (query : Query) :
    l.answer? query = some (l.value.answer query) := by
  cases l with
  | closed settings medium => cases query <;> rfl
  | live w =>
      obtain ⟨stop, hstop, hend⟩ := Worded.logicalEnd?_eq (h w rfl).end_lt
      have hlength : w.held.length < UInt64.size :=
        Nat.lt_of_le_of_lt (Nat.le_add_left _ w.boundary.toNat) (h w rfl).end_lt
      obtain ⟨length, hheld, hcount⟩ := Word.ofLength?_of_lt hlength
      cases query with
      | position => simp [answer?, hstop, hend]; rfl
      | size => simp [answer?, hstop, hend]; rfl
      | heldCount => simp [answer?, hheld, hcount]; rfl
      | _ => rfl

variable [Medium σ]

/-- A call is exact if there is a word for where the stream would end with it. -/
theorem perform?_eq {l : Ledger σ} {request : Request}
    (h : ∀ w : Worded σ, l = live w → w.value.Contained 0 request.size) :
    ∃ (outcome : Outcome (Ledger σ) Reply) (dest : Bytes),
      l.perform? request = some (outcome, dest) ∧
        (outcome.lift value, dest) = l.value.perform request := by
  cases l with
  | closed settings medium =>
      refine ⟨_, _, rfl, ?_⟩
      cases request <;> rfl
  | live w =>
      have hcontained := h w rfl
      have hlive (w : Worded σ) : (live w).value = .live w.value := rfl
      cases request with
      | write data =>
          obtain ⟨call, hcall, hvalue⟩ := Worded.exact_write hcontained
          refine ⟨_, _, by rw [perform?, hcall]; rfl, ?_⟩
          exact congrArg (·, []) (lift_reply hvalue hlive fun _ => .nothing)
      | flush syncing =>
          obtain ⟨call, hcall, hvalue⟩ := Worded.exact_flushAnd hcontained syncing
          refine ⟨_, _, by rw [perform?, hcall]; rfl, ?_⟩
          exact congrArg (·, []) (lift_reply hvalue hlive fun _ => .nothing)
      | forceWrite =>
          obtain ⟨call, hcall, hvalue⟩ := Worded.exact_forceWrite hcontained
          refine ⟨_, _, by rw [perform?, hcall]; rfl, ?_⟩
          exact congrArg (·, []) (lift_reply hvalue hlive .durable)
      | read dest position length =>
          obtain ⟨call, hcall, hvalue⟩ := Worded.exact_read hcontained dest position length
          refine ⟨_, _, by rw [perform?, hcall]; rfl, ?_⟩
          exact congrArg (·, (w.value.read dest position length).2)
            (lift_reply hvalue hlive .copied)
      | close =>
          obtain ⟨call, hcall, hvalue⟩ := Worded.exact_lastFlush hcontained
          refine ⟨_, _, by rw [perform?, hcall]; rfl, ?_⟩
          exact congrArg (·, []) (lift_reply hvalue (fun _ => rfl) fun _ => .nothing)

theorem drop?_eq {l : Ledger σ} (h : ∀ w : Worded σ, l = live w → w.value.Contained 0 0) :
    l.drop? = some l.value.drop := by
  cases l with
  | live w => exact Worded.drop?_eq (h w rfl)
  | closed settings medium => rfl

/-! ## Runs in words -/

variable {β : Type} [Medium β] [Screened σ β]

/-- From `first` on a machine goes through these steps, every one of which has an
outcome, and arrives at the last of these ledgers. -/
inductive Computes (first : Ledger σ) : List Step → Ledger σ → Prop
  | here : Computes first [] first
  | called {steps : List Step} {l : Ledger σ} {request : Request}
      {outcome : Outcome (Ledger σ) Reply} {dest : Bytes} : Computes first steps l →
      l.perform? request = some (outcome, dest) →
      Computes first
        (steps ++ [⟨.called request outcome.result dest outcome.events,
          l.value.exchanges request⟩]) outcome.after
  | asked {steps : List Step} {l : Ledger σ} {query : Query} {answer : Except Failure Answer} :
      Computes first steps l → l.answer? query = some answer →
      Computes first (steps ++ [⟨.asked query answer, []⟩]) l
  | meddled {steps : List Step} {l : Ledger σ} {medium : σ} : Computes first steps l →
      Screened.Meddled l.value.medium medium → Computes first steps (l.mapMedium fun _ => medium)

end Ledger

/-! ## What the budget pays for -/

namespace Journal

def Step.size (step : Step) : Nat :=
  match step.report with
  | .called request _ _ _ => request.size
  | _ => 0

/-- The total length of the writes that were accepted. -/
def acceptedLength (steps : List Step) : Nat :=
  steps.foldl (fun total step => total + if step.accepts then step.size else 0) 0

@[simp] theorem acceptedLength_concat (steps : List Step) (last : Step) :
    acceptedLength (steps ++ [last]) =
      acceptedLength steps + if last.accepts then last.size else 0 := by
  rw [acceptedLength, List.foldl_concat]
  rfl

/-- Whenever a call is made there is a word for the position at the start, the writes
accepted so far and the call under way taken together. -/
def Affordable (start : Nat) (steps : List Step) : Prop :=
  ∀ (before : List Step) (step : Step) (after : List Step), steps = before ++ step :: after →
    start + acceptedLength before + step.size < UInt64.size

theorem affordable_nil (start : Nat) : Affordable start [] := by
  intro before step after hsteps
  simp at hsteps

theorem affordable_concat {start : Nat} {steps : List Step} {last : Step} :
    Affordable start (steps ++ [last]) ↔
      Affordable start steps ∧ start + acceptedLength steps + last.size < UInt64.size := by
  constructor
  · intro h
    refine ⟨?_, h steps last [] rfl⟩
    intro before step after hsteps
    apply h before step (after ++ [last])
    rw [hsteps, List.append_assoc]
    rfl
  · rintro ⟨hbefore, hlast⟩ before step after hsteps
    rcases concat_eq_cut.mp hsteps with ⟨rfl, rfl, -⟩ | ⟨between, rfl, -⟩
    · exact hlast
    · exact hbefore before step between rfl

theorem Affordable.acceptedLength_lt {start : Nat} (hstart : start < UInt64.size)
    {steps : List Step} (h : Affordable start steps) :
    start + acceptedLength steps < UInt64.size := by
  rcases List.eq_nil_or_concat steps with rfl | ⟨before, last, rfl⟩
  · exact hstart
  · rw [List.concat_eq_append] at h ⊢
    obtain ⟨-, hlast⟩ := affordable_concat.mp h
    rw [acceptedLength_concat]
    split
    · omega
    · omega

end Journal

/-! ## Only accepted writes are paid for -/

namespace Live

variable {σ : Type} [Medium σ]

theorem suspends_weighed (data : Bytes) (bytes writes : Nat) :
    Suspends data
      (fun j : Live σ =>
        j.tally.bytesWritten + data.length * writes = bytes + data.length * j.tally.writes)
      fun j : Live σ =>
        j.tally.bytesWritten + data.length * writes = bytes + data.length * j.tally.writes := by
  have hcalm : Calm fun j : Live σ =>
      j.tally.bytesWritten + data.length * writes = bytes + data.length * j.tally.writes :=
    ⟨fun _ h => h, fun _ _ h => h, fun _ _ h => h, fun _ h => h⟩
  refine ⟨hcalm, hcalm, fun _ _ h => h, fun _ _ _ h => h, ?_⟩
  intro j h
  show j.tally.bytesWritten + data.length + data.length * writes =
    bytes + data.length * (j.tally.writes + 1)
  rw [Nat.mul_add_one]
  omega

theorem calm_bytesWritten (bytes : Nat) : Calm fun j : Live σ => j.tally.bytesWritten = bytes :=
  ⟨fun _ h => h, fun _ _ h => h, fun _ _ h => h, fun _ h => h⟩

end Live

namespace Journal

section Runs

variable {σ : Type}

/-- The books of a run are right, and the bytes that were counted are those of the
writes that were accepted. -/
structure Paid (start : Nat) (steps : List Step) (j : Live σ) : Prop where
  audited : Audited start steps j
  bytesWritten_eq : j.tally.bytesWritten = acceptedLength steps

theorem Paid.contained {start : Nat} {steps : List Step} {j : Live σ} (h : Paid start steps j)
    {spare : Nat} (hspare : start + acceptedLength steps + spare < UInt64.size) :
    j.Contained 0 spare := by
  have hboundary := h.audited.balanced.boundary_eq
  have hunsynced := h.audited.balanced.unsynced_le
  have hend := h.audited.tallied.end_eq
  have hwritten := h.bytesWritten_eq
  refine ⟨?_, ?_, ?_, ?_⟩
  · omega
  · omega
  · omega
  · omega

theorem Paid.logicalEnd_eq {start : Nat} {steps : List Step} {j : Live σ}
    (h : Paid start steps j) : j.logicalEnd = start + acceptedLength steps := by
  rw [← h.audited.tallied.end_eq, h.bytesWritten_eq]
  rfl

variable {β : Type} [Medium σ] [Medium β] [Screened σ β]

/-- A call adds to the bytes that were counted what it adds to those accepted. -/
theorem Paid.perform {start : Nat} {steps : List Step} {j j' : Live σ} {request : Request}
    (h : Paid start steps j) (hafter : ((live j).perform request).1.after = live j') :
    Paid start (steps ++ [⟨(live j).report request, (live j).exchanges request⟩]) j' := by
  have haudited := h.audited.perform hafter
  refine ⟨haudited, ?_⟩
  rw [acceptedLength_concat, ← h.bytesWritten_eq]
  by_cases hwrite : ∃ data, request = .write data
  · obtain ⟨data, rfl⟩ := hwrite
    obtain rfl := live.inj hafter
    have hweighed := (Live.suspends_weighed data j.tally.bytesWritten j.tally.writes).write
      (j := j) rfl
    have hwrites := haudited.tallied.writes_eq
    rw [List.countP_append, List.countP_singleton, ← h.audited.tallied.writes_eq] at hwrites
    show (j.write data).after.tally.bytesWritten =
      j.tally.bytesWritten + if _ then data.length else 0
    change (j.write data).after.tally.writes = _ at hwrites
    rw [hwrites, Nat.mul_add] at hweighed
    split
    · next haccepts =>
        rw [if_pos haccepts] at hweighed
        omega
    · next hrejects =>
        rw [if_neg hrejects] at hweighed
        omega
  · have hother : ∀ data, request ≠ .write data := fun data hdata => hwrite ⟨data, hdata⟩
    rw [accepts_of_ne hother]
    exact calm_perform (Live.calm_bytesWritten _) rfl hother hafter

theorem Paid.traces {start : Nat} {j j' : Live σ} (h : Paid start [] j) {steps : List Step}
    (hrun : Traces (live j) steps (live j')) : Paid start steps j' := by
  apply hrun.live_induction h
  · intro steps j j' request hj hafter
    exact hj.perform hafter
  · intro steps j query hj
    refine ⟨hj.audited.asked query, ?_⟩
    rw [acceptedLength_concat]
    exact hj.bytesWritten_eq
  · intro steps j medium hj _
    exact ⟨hj.audited.withMedium medium, hj.bytesWritten_eq⟩

theorem paid_fresh {supply : Supply} (hsupply : supply.Honest) (medium : σ)
    (settings : Settings) :
    Paid (Medium.position medium) [] (Live.fresh medium settings supply) :=
  ⟨audited_fresh hsupply medium settings, rfl⟩

/-- A machine keeps up with a run that can be paid for. -/
theorem Traces.computed {start : Nat} {first : Worded σ} (hpaid : Paid start [] first.value)
    {steps : List Step} {j : Journal σ} (hrun : Traces (live first.value) steps j)
    (haffordable : Affordable start steps) :
    ∃ last : Ledger σ, (Ledger.live first).Computes steps last ∧ last.value = j := by
  induction hrun with
  | here => exact ⟨.live first, .here, rfl⟩
  | @called steps j request hrun ih =>
      obtain ⟨hbefore, hcall⟩ := affordable_concat.mp haffordable
      obtain ⟨last, hcomputes, rfl⟩ := ih hbefore
      have hcontained : ∀ w : Worded σ, last = .live w → w.value.Contained 0 request.size := by
        rintro w rfl
        exact (hpaid.traces hrun).contained hcall
      obtain ⟨outcome, dest, hperform, hvalue⟩ := Ledger.perform?_eq hcontained
      refine ⟨outcome.after, ?_, ?_⟩
      · have hstep := hcomputes.called hperform
        rw [Journal.report, ← hvalue]
        exact hstep
      · rw [← hvalue]
        rfl
  | @asked steps j query hrun ih =>
      obtain ⟨hbefore, hstep⟩ := affordable_concat.mp haffordable
      obtain ⟨last, hcomputes, rfl⟩ := ih hbefore
      have hcontained : ∀ w : Worded σ, last = .live w → w.value.Contained 0 0 := by
        rintro w rfl
        exact (hpaid.traces hrun).contained hstep
      exact ⟨last, hcomputes.asked (Ledger.answer?_eq hcontained query), rfl⟩
  | @meddled steps j medium hrun hmeddled ih =>
      obtain ⟨last, hcomputes, rfl⟩ := ih haffordable
      exact ⟨_, hcomputes.meddled hmeddled, Ledger.value_mapMedium _ last⟩

/-- **The sums of a run are exact.**  Open a journal at any position that there is a
word for, and follow it through any run, whatever the media answer.  As long as the
position, the writes that were accepted and the call under way can be paid for, a
machine goes through the same run in words: each of its sums is that of the numbers, and
so is the comparison with any bound.  The stream ends where the journal was opened plus
what was accepted; nothing else has been paid for, however much was tried in vain. -/
theorem accounting_exact {medium : σ} {settings : Settings} {supply : Supply}
    (hsupply : supply.Honest) {opened : Journal σ} {events : List Event}
    (hstart : start medium settings supply = (.ok opened, events))
    (hposition : Medium.position medium < UInt64.size) {steps : List Step} {j : Journal σ}
    (hrun : Traces opened steps j) (haffordable : Affordable (Medium.position medium) steps) :
    ∃ (first : Worded σ) (last : Ledger σ),
      live first.value = opened ∧ (Ledger.live first).Computes steps last ∧ last.value = j ∧
        last.drop? = some j.drop ∧
        ∀ w : Worded σ, last = .live w →
          w.value.logicalEnd = Medium.position medium + acceptedLength steps ∧
            ∀ bound : Int64, w.exceeds? bound =
              some (decide (0 < bound) && decide (bound.toInt < w.value.exposed)) := by
  obtain ⟨position, -, hvalue⟩ := Word.ofLength?_of_lt hposition
  have hfresh : (Worded.mk settings medium (supply settings.room) position 0 0 0 0 0 0 0).value =
      Live.fresh medium settings supply := by
    rw [Live.fresh, ← hvalue]
    rfl
  have hpaid : Paid (Medium.position medium) [] (Worded.value _) :=
    hfresh ▸ paid_fresh hsupply medium settings
  rw [eq_fresh_of_start hstart, ← hfresh] at hrun
  obtain ⟨last, hcomputes, rfl⟩ := hrun.computed hpaid haffordable
  have hcontained : ∀ w : Worded σ, last = .live w →
      Paid (Medium.position medium) steps w.value ∧ w.value.Contained 0 0 := by
    rintro w rfl
    have hlast := hpaid.traces hrun
    exact ⟨hlast, hlast.contained (haffordable.acceptedLength_lt hposition)⟩
  refine ⟨_, last, hfresh ▸ (eq_fresh_of_start hstart).symm, hcomputes, rfl,
    Ledger.drop?_eq fun w hw => (hcontained w hw).2, ?_⟩
  intro w hw
  obtain ⟨hlast, hexact⟩ := hcontained w hw
  exact ⟨hlast.logicalEnd_eq, Worded.exceeds?_eq hexact⟩

/-- A journal with some bytes in its tail, over a medium that ends six bytes below the
limit. -/
def nearLimit (panel : Rig.Panel) (held : Bytes) : Live (Rigged Blank) :=
  { settings := { capacity := 4, bound := 3 }
    medium := ⟨[panel], ⟨UInt64.size - 6⟩⟩
    buffer := .ok ⟨4, held⟩
    boundary := UInt64.size - 6
    tally := { writes := 1, bytesWritten := 2 } }

def atLimit : Live (Rigged Blank) :=
  { settings := { capacity := 4, bound := 3 }
    medium := ⟨[{ appends := 3, syncs := 1 }], ⟨UInt64.size - 1⟩⟩
    buffer := .ok ⟨4, []⟩
    boundary := UInt64.size - 1
    unsynced := 5
    tally := { writes := 2, bytesWritten := 5, appends := 2, bytesFlushed := 5 } }

/-- Three writes up to one byte below the limit.  The second is taken back, as the flush
that it forces is refused, and is not paid for. -/
theorem accounting_exact_at_limit :
    ∃ (opened : Journal (Rigged Blank)) (events : List Event) (steps : List Step)
      (first : Worded (Rigged Blank)) (last : Ledger (Rigged Blank)),
      start (Rigged.behind 1 (Blank.mk (UInt64.size - 6))) { capacity := 4, bound := 3 } .heap =
          (.ok opened, events) ∧
        live first.value = opened ∧ (Ledger.live first).Computes steps last ∧
        last.value = live atLimit ∧ steps.length = 3 ∧ acceptedLength steps = 5 := by
  have hstart : start (Rigged.behind 1 (Blank.mk (UInt64.size - 6)))
      { capacity := 4, bound := 3 } .heap = (.ok _, _) := rfl
  have hopened : Traces (live (Live.fresh (Rigged.behind 1 (Blank.mk (UInt64.size - 6)))
      { capacity := 4, bound := 3 } .heap)) [] _ := .here
  have hwritten : Traces _ _ (live (nearLimit {} [1, 2])) := hopened.called (.write [1, 2])
  have hjammed : Traces _ _ (live (nearLimit { writeAppend := some .once } [1, 2])) :=
    hwritten.meddled ⟨0, .arm .writeAppend .once, rfl⟩
  have htakenBack : Traces _ _ (live (nearLimit { appends := 1 } [1, 2])) :=
    hjammed.called (.write [3, 4])
  have hunsafe : Traces _ _ (live (nearLimit { appends := 1, sync := some .once } [1, 2])) :=
    htakenBack.meddled ⟨0, .arm .sync .once, rfl⟩
  have hforced : Traces _ _ (live atLimit) := hunsafe.called (.write [3, 4, 5])
  obtain ⟨first, last, hfirst, hcomputes, hlast, -, -⟩ :=
    accounting_exact Supply.heap_honest hstart (by decide) hforced
      (affordable_concat.mpr ⟨affordable_concat.mpr ⟨affordable_concat.mpr
        ⟨affordable_nil _, by decide⟩, by decide⟩, by decide⟩)
  exact ⟨_, _, _, first, last, hstart, hfirst, hcomputes, hlast, rfl, rfl⟩

end Runs

end Journal

end WriteBack
