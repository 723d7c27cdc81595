/-
# Lag — what one session leaves to the next

The bound caps the bytes that a journal has exposed, and a journal counts from
its own beginning.  It cannot know of bytes that lay on the memory before and
that no sync had covered.  Nor does closing sync: what is unsynced then stays
so, and the next session begins to count anew.

So the bound does not cap what is unsynced across sessions
(`exceeds_bound_after_close`).  What holds is that a session is late by at
most its bound and by what lagged behind when it was opened, and only by its
bound once it has synced; that a session which is closed leaves behind at most
its bound more than it found; and that one which is dropped leaves nothing more
behind.
-/
import WriteBack.Proofs.Bound
import WriteBack.Proofs.Durability
import WriteBack.Proofs.FaultFree

namespace WriteBack

open Journal (Report Request)

/-! ## Nothing is stopped -/

section Alone

variable {β : Type} [Medium β] [Steady β]

theorem Journal.Within.perform_alone {j : Journal β} (h : j.Within) (request : Request) :
    (j.perform request).1.after.Within := by
  cases j with
  | closed settings medium =>
      rw [perform_closed]
      trivial
  | live state =>
      cases request with
      | write data =>
          apply h.perform (.write data)
          show (state.write data).result.map _ ≠ _
          cases hbuffer : state.buffer with
          | error shortage =>
              rw [Live.write_of_shortage hbuffer]
              simp [Except.map, Outcome.fail]
          | ok buffer =>
              rw [Live.write_ok hbuffer]
              simp [Except.map]
      | flush syncing =>
          apply h.perform (.flush syncing)
          show (state.flushAnd syncing).result.map _ ≠ _
          rw [Live.flushAnd_result]
          simp [Except.map]
      | forceWrite =>
          apply h.perform .forceWrite
          show state.forceWrite.result.map _ ≠ _
          rw [Live.forceWrite_eq, Outcome.map, Live.flushAnd_result]
          simp [Except.map]
      | read dest position length =>
          have hsame : (state.read dest position length).1.after = state :=
            state.read_bare dest position length
          show (live (state.read dest position length).1.after).Within
          rw [hsame]
          exact h
      | close => trivial

end Alone

/-! ## Memory that is behind -/

/-- So many bytes of the memory are covered by no sync. -/
def InMemory.Behind (m : InMemory) (lag : Nat) : Prop := m.synced + lag = m.bytes.length

namespace Live

/-- A journal that began so far behind: its books agree with the memory but for
that, and it is within its bound. -/
structure Sails (bound : Int64) (lag : Nat) (j : Live InMemory) : Prop where
  bound_eq : j.settings.bound = bound
  lagging : j.Lagging lag
  within : (j.exposed : Int) ≤ bound.toInt

variable {bound : Int64} {lag : Nat} {j : Live InMemory}

theorem Lagging.unsynced_eq (h : j.Lagging lag) :
    j.medium.synced + (j.exposed + j.stillBehind lag) = j.logicalEnd := by
  have hsynced := h.synced_add
  unfold exposed logicalEnd
  omega

theorem stillBehind_le (j : Live InMemory) (lag : Nat) : j.stillBehind lag ≤ lag := by
  unfold stillBehind
  split
  · exact Nat.le_refl _
  · exact Nat.zero_le _

theorem Sails.of_fresh (hbound : 0 < bound) {m : InMemory} (hbehind : m.Behind lag)
    {settings : Settings} (hsettings : settings.bound = bound) {supply : Supply}
    (hsupply : supply.Honest) : (fresh m settings supply).Sails bound lag := by
  refine ⟨hsettings, fresh_lagging hbehind settings supply, ?_⟩
  have hexposed : (fresh m settings supply).exposed = 0 := by
    show 0 + (fresh m settings supply).held.length = 0
    rw [fresh_held hsupply]
    rfl
  rw [hexposed, ← hsettings]
  exact bound_nonneg (hsettings ▸ hbound)

theorem Sails.perform (hbound : 0 < bound) (h : j.Sails bound lag) {request : Request}
    {j' : Live InMemory} (hafter : ((Journal.live j).perform request).1.after = .live j') :
    j'.Sails bound lag := by
  have hsettings :=
    Journal.Keeps.perform (hereditary_settings j.settings) (j := .live j) rfl request
  have hlagging :=
    Journal.Keeps.perform (hereditary_lagging lag) (j := .live j) h.lagging request
  have hwithin : (Journal.live j).Within := by
    intro _
    exact h.bound_eq ▸ h.within
  have hwithin' := hwithin.perform_alone request
  rw [hafter] at hsettings hlagging hwithin'
  have hbound_eq : j'.settings.bound = bound :=
    (congrArg Settings.bound hsettings).trans h.bound_eq
  refine ⟨hbound_eq, hlagging, ?_⟩
  have hle := hwithin' (hbound_eq ▸ hbound)
  rwa [hbound_eq] at hle

theorem Sails.close (h : j.Sails bound lag) :
    ∃ left : Nat, j.lastFlush.after.medium.Behind left ∧ (left : Int) ≤ bound.toInt + lag := by
  obtain ⟨hsynced, hboundary⟩ := (hereditary_lagging lag).flush h.lagging
  have hstill := j.flush.after.stillBehind_le lag
  have hwithin := h.within
  rw [lastFlush_after]
  refine ⟨j.exposed + j.flush.after.stillBehind lag, ?_, by omega⟩
  show _ + _ = _
  rw [← hboundary, ← hsynced, flush_unsynced, Nat.add_assoc]

theorem Sails.drop (h : j.Sails bound lag) :
    ∃ left : Nat, j.drop.1.Behind left ∧ left ≤ lag := by
  rw [drop_fst]
  split
  · next hexposed =>
      obtain ⟨hsynced, hboundary⟩ := h.lagging
      have hunsynced : j.unsynced = 0 := (Nat.add_eq_zero_iff.mp hexposed).1
      rw [hunsynced, hboundary] at hsynced
      exact ⟨_, hsynced, j.stillBehind_le lag⟩
  · rw [flushAnd_true, sync_eq]
    exact ⟨0, rfl, Nat.zero_le _⟩

end Live

/-! ## Behind from session to session -/

def Journal.Report.closes : Report → Bool
  | called .close _ _ events => !events.isEmpty
  | _ => false

def Journal.closings (history : List Report) : Nat := history.countP Report.closes

theorem Journal.closings_concat (history : List Report) (last : Report) :
    closings (history ++ [last]) = closings history + if last.closes then 1 else 0 := by
  rw [closings, List.countP_append, List.countP_singleton]
  rfl

theorem Journal.report_closes (j : Live InMemory) : ((live j).report .close).closes = true := by
  show (!j.lastFlush.events.isEmpty) = true
  unfold Live.lastFlush
  dsimp only
  split <;> simp

theorem Journal.report_closes_of_ne (j : Journal InMemory) {request : Request}
    (hrequest : request ≠ .close) : (j.report request).closes = false := by
  cases request with
  | close => exact absurd rfl hrequest
  | write data => rfl
  | flush syncing => rfl
  | forceWrite => rfl
  | read dest position length => rfl

/-- If the step opened a journal, it did so with this bound. -/
def Journal.Report.Bounds (bound : Int64) : Report → Prop
  | opened settings _ => settings.bound = bound
  | _ => True

instance (bound : Int64) : DecidablePred (Journal.Report.Bounds bound) := fun report =>
  match report with
  | .opened settings _ => inferInstanceAs (Decidable (settings.bound = bound))
  | .called _ _ _ _ => isTrue trivial
  | .asked _ _ => isTrue trivial

/-- The memory is behind by no more than the bound for each journal that was
closed, and the live journal, if there is one, began with no more. -/
def Stage.Behind (bound : Int64) (closings : Nat) : Stage InMemory InMemory → Prop
  | resting m | running (.closed _ m) =>
    ∃ lag : Nat, m.Behind lag ∧ (lag : Int) ≤ bound.toInt * closings
  | running (.live j) => ∃ lag : Nat, j.Sails bound lag ∧ (lag : Int) ≤ bound.toInt * closings

theorem Stage.Behind.perform {bound : Int64} (hbound : 0 < bound) {closings : Nat}
    {j : Journal InMemory} (h : (Stage.running j : Stage InMemory InMemory).Behind bound closings)
    (request : Request) :
    (Stage.running (j.perform request).1.after : Stage InMemory InMemory).Behind bound
      (closings + if (j.report request).closes then 1 else 0) := by
  cases j with
  | closed settings m =>
      have hnone : ((Journal.closed settings m).report request).closes = false := by
        cases request <;> rfl
      rw [Journal.perform_closed, hnone]
      exact h
  | live state =>
      obtain ⟨lag, hsails, hle⟩ := h
      by_cases hrequest : request = .close
      · subst hrequest
        obtain ⟨left, hleft, hmore⟩ := hsails.close
        rw [Journal.report_closes state]
        refine ⟨left, hleft, ?_⟩
        rw [if_pos rfl, Int.natCast_add, Int.mul_add]
        omega
      · obtain ⟨outcome, hperform, -⟩ := Journal.perform_turned state hrequest
        have hafter := congrArg Outcome.after hperform
        rw [Journal.report_closes_of_ne _ hrequest, hafter]
        exact ⟨lag, hsails.perform hbound hafter, hle⟩

/-- Each session leaves behind at most its bound more than it found, and only
if it is closed. -/
theorem Leads.behind {bound : Int64} (hbound : 0 < bound) {first last : Stage InMemory InMemory}
    {history : List Report} (h : Leads first history last)
    (hsame : ∀ report ∈ history, report.Bounds bound) (hfirst : first.Behind bound 0) :
    last.Behind bound (Journal.closings history) := by
  induction h with
  | here => exact hfirst
  | @opened history place mode medium settings supply j events _ hfetch hsupply hstart ih =>
      obtain ⟨hbefore, hlast⟩ := List.forall_mem_append.mp hsame
      obtain ⟨lag, hbehind, hle⟩ := ih hbefore
      have hsettings : settings.bound = bound := hlast _ (List.mem_singleton_self _)
      obtain rfl : place = medium := Except.ok.inj hfetch
      rw [Journal.eq_fresh_of_start hstart, Journal.closings_concat]
      exact ⟨lag, .of_fresh hbound hbehind hsettings hsupply, hle⟩
  | called request _ ih =>
      rw [Journal.closings_concat]
      exact Stage.Behind.perform hbound (ih (List.forall_mem_append.mp hsame).1) request
  | asked query _ ih =>
      rw [Journal.closings_concat]
      exact ih (List.forall_mem_append.mp hsame).1
  | @meddled history j medium _ hmeddled ih =>
      cases hmeddled
      cases j with
      | live state => exact ih hsame
      | closed settings m => exact ih hsame
  | @dropped history j _ ih =>
      cases j with
      | closed settings m => exact ih hsame
      | live state =>
          obtain ⟨lag, hsails, hle⟩ := ih hsame
          obtain ⟨left, hleft, hless⟩ := hsails.drop
          exact ⟨left, hleft, by omega⟩

/-- **What is unsynced across sessions.**  Take memory that was all covered, used
by any number of sessions with the same positive bound, and then a session of
that bound.  After a write that succeeds the stream of this session is unsynced
by at most the bound and the bytes that no sync had covered when it was opened;
by the bound alone once it has synced.  And these bytes are no more than the
bound for each earlier session that was closed: if all were dropped there are
none. -/
theorem Leads.unsynced_le {bound : Int64} (hbound : 0 < bound) {m₀ m : InMemory}
    (hsynced : m₀.synced = m₀.bytes.length) {earlier : List Report}
    (hearlier : Leads (.resting m₀ : Stage InMemory InMemory) earlier (.resting m))
    (hsame : ∀ report ∈ earlier, report.Bounds bound)
    {session : List Report} {j : Live InMemory} (h : Journal.Reached m session (.live j))
    (hsettings : j.settings.bound = bound) {data : Bytes} (hdata : data ≠ [])
    (hok : ((Journal.live j).write data).result = .ok ()) :
    ∃ (lag : Nat) (j' : Live InMemory) (position : Nat),
      ((Journal.live j).write data).after = .live j' ∧ (Journal.live j').position = .ok position ∧
        m.synced + lag = m.bytes.length ∧
        (position : Int) - j'.medium.synced ≤ bound.toInt + lag ∧
        (0 < j'.tally.syncs → (position : Int) - j'.medium.synced ≤ bound.toInt) ∧
        (lag : Int) ≤ bound.toInt * Journal.closings earlier := by
  have hfirst : (Stage.resting m₀ : Stage InMemory InMemory).Behind bound 0 :=
    ⟨0, hsynced, by simp⟩
  obtain ⟨lag, hbehind, hle⟩ := hearlier.behind hbound hsame hfirst
  obtain ⟨buffer, hbuffer⟩ : ∃ buffer, j.buffer = .ok buffer := by
    cases hbuffer : j.buffer with
    | ok buffer => exact ⟨buffer, rfl⟩
    | error shortage =>
        rw [show (Journal.live j).write data = (j.write data).lift .live from rfl,
          Live.write_of_shortage hbuffer] at hok
        cases hok
  have hkeeps := h.keeps (Live.hereditary_lagging lag) fun settings supply _ =>
    Live.fresh_lagging hbehind settings supply
  have hlagging : (j.write data).after.Lagging lag :=
    hkeeps.perform (Live.hereditary_lagging lag) (.write data)
  have hexposed := Live.write_exposed_le (hsettings ▸ hbound) hbuffer hdata
  rw [hsettings] at hexposed
  have hunsynced := hlagging.unsynced_eq
  have hstill := (j.write data).after.stillBehind_le lag
  refine ⟨lag, (j.write data).after, (j.write data).after.logicalEnd, rfl, rfl, hbehind, ?_, ?_,
    hle⟩
  · omega
  · intro hsyncs
    rw [Live.stillBehind, if_neg (Nat.ne_of_gt hsyncs)] at hunsynced
    omega

/-- A session with a bound of three is closed on three bytes. -/
theorem leads_closed_on_three :
    ∃ earlier : List Report,
      Leads (.resting (.holding []) : Stage InMemory InMemory) earlier
          (.resting (InMemory.mk [1, 2, 3] 0)) ∧
        (∀ report ∈ earlier, report.Bounds 3) ∧ Journal.closings earlier = 1 := by
  have hhere : Leads (.resting (.holding []) : Stage InMemory InMemory) [] _ := .here
  have hfetch : Depot.fetch (InMemory.holding []) () =
      .ok (Screened.base (InMemory.holding [])) := rfl
  have hstart : Journal.start (InMemory.holding []) { capacity := 8, bound := 3 } .heap =
      (.ok _, _) := rfl
  have hopened := hhere.opened hfetch Supply.heap_honest hstart
  have hclosed := ((hopened.called (.write [1, 2, 3])).called .close).dropped
  exact ⟨_, hclosed, by decide, rfl⟩

/-- A journal of that bound that has just been opened after it. -/
def resumed : Live InMemory := .fresh ⟨[1, 2, 3], 0⟩ { capacity := 8, bound := 3 } .heap

/-- It writes three bytes more with success, and all six are unsynced. -/
theorem exceeds_bound_after_close :
    ∃ (history : List Report) (j' : Live InMemory) (position : Nat),
      Leads (.resting (.holding []) : Stage InMemory InMemory) history
          (.running (.live resumed)) ∧
        (∀ report ∈ history, report.Bounds 3) ∧
        ((Journal.live resumed).write [4, 5, 6]).result = .ok () ∧
        ((Journal.live resumed).write [4, 5, 6]).after = .live j' ∧
        (Journal.live j').position = .ok position ∧
        ¬ (position : Int) - j'.medium.synced ≤ (3 : Int64).toInt := by
  obtain ⟨earlier, hclosed, hsame, -⟩ := leads_closed_on_three
  have hfetch : Depot.fetch (InMemory.mk [1, 2, 3] 0) () =
      .ok (Screened.base (InMemory.mk [1, 2, 3] 0)) := rfl
  have hstart : Journal.start (InMemory.mk [1, 2, 3] 0) { capacity := 8, bound := 3 } .heap =
      (.ok (.live resumed), _) := rfl
  have hopened := hclosed.opened hfetch Supply.heap_honest hstart
  exact ⟨_, _, 6, hopened, List.forall_mem_append.mpr ⟨hsame, by decide⟩, rfl, rfl, rfl,
    by decide⟩

/-- It is late by no more than its bound and the three bytes that lagged behind
when it was opened. -/
theorem unsynced_le_after_close :
    ∃ (earlier session : List Report) (lag : Nat) (j' : Live InMemory) (position : Nat),
      Leads (.resting (.holding []) : Stage InMemory InMemory) earlier
          (.resting (InMemory.mk [1, 2, 3] 0)) ∧
        Journal.closings earlier = 1 ∧
        Journal.Reached (InMemory.mk [1, 2, 3] 0) session (.live resumed) ∧
        ((Journal.live resumed).write [4, 5, 6]).after = .live j' ∧
        (Journal.live j').position = .ok position ∧ lag = 3 ∧
        (position : Int) - j'.medium.synced ≤ 6 := by
  obtain ⟨earlier, hclosed, hsame, hclosings⟩ := leads_closed_on_three
  have hstart : Journal.start (InMemory.mk [1, 2, 3] 0) { capacity := 8, bound := 3 } .heap =
      (.ok (.live resumed), _) := rfl
  have hreached : Journal.Reached (InMemory.mk [1, 2, 3] 0) _ (.live resumed) :=
    .opened rfl Supply.heap_honest hstart
  obtain ⟨lag, j', position, hafter, hposition, hlag, hlate, -, -⟩ :=
    hclosed.unsynced_le (show (0 : Int64) < 3 by decide) rfl hsame hreached rfl
      (show ([4, 5, 6] : Bytes) ≠ [] by decide) rfl
  have hthree : lag = 3 := by simpa using hlag
  subst hthree
  exact ⟨_, _, 3, j', position, hclosed, hclosings, hreached, hafter, hposition, rfl, hlate⟩

end WriteBack
