/-
# The bound — how many bytes are exposed at most

With a bound that is positive, a journal keeps the bytes that no sync has
covered, on the medium and in the tail together, within the bound.  A write
that succeeds ends within it, whatever state it began in, because the last
thing that it looks at is whether too much is exposed; and if so a sync that
succeeds leaves nothing exposed at all.

Only one thing takes a journal over its bound: a write whose forced sync is
stopped, since then everything is on the medium and nothing is durable.  All
other failures leave as much exposed as there was, wherever the bytes are.
-/
import WriteBack.Proofs.Hereditary

namespace WriteBack

namespace Live

section Within

variable {β : Type}

theorem bound_nonneg {settings : Settings} (hbound : 0 < settings.bound) :
    0 ≤ settings.bound.toInt := by
  have hlt : (0 : Int64).toInt < settings.bound.toInt := Int64.lt_iff_toInt_lt.mp hbound
  exact Int.le_of_lt hlt

theorem exposed_le_of_within {j : Live β} (hbound : 0 < j.settings.bound)
    (h : j.overBound = false) : (j.exposed : Int) ≤ j.settings.bound.toInt := by
  have hforced : j.settings.syncsForced = true := decide_eq_true hbound
  rw [overBound, hforced, Bool.true_and, decide_eq_false_iff_not] at h
  exact Int.not_lt.mp h

end Within

section Steady

variable {β : Type} [Medium β] [Steady β]

theorem sync_exposed {j : Live β} (hheld : j.held = []) : j.sync.after.exposed = 0 := by
  rw [exposed, sync_unsynced, sync_held, hheld]
  rfl

theorem flushAnd_true_exposed (j : Live β) : (j.flushAnd true).after.exposed = 0 := by
  rw [flushAnd_true]
  exact sync_exposed (flush_held j)

theorem write_exposed_le {j : Live β} (hbound : 0 < j.settings.bound) {buffer : Buffer}
    (hbuffer : j.buffer = .ok buffer) {data : Bytes} (hdata : data ≠ []) :
    ((j.write data).after.exposed : Int) ≤ j.settings.bound.toInt := by
  have hsettings : (j.placed data).settings = j.settings :=
    (hereditary_settings j.settings).placed rfl hbuffer data
  rw [write_after hbuffer hdata]
  cases hover : (j.placed data).overBound with
  | true =>
      rw [if_pos rfl, sync_exposed (storing_held j data)]
      exact bound_nonneg hbound
  | false =>
      have hwithin := exposed_le_of_within (by rwa [hsettings]) hover
      rw [hsettings] at hwithin
      exact hwithin

variable {j : Live β}

/-- Of the ways in which a write can end, only a stopped sync leads over the
bound. -/
theorem Landing.exposed_le {buffer : Buffer} (hbuffer : j.buffer = .ok buffer) {data : Bytes}
    (hdata : data ≠ []) {outcome : Outcome (Live β) Unit} (hland : Landing j data outcome)
    (hsync : outcome.result ≠ .error (.stopped .sync)) (hbound : 0 < j.settings.bound)
    (h : (j.exposed : Int) ≤ j.settings.bound.toInt) :
    (outcome.after.exposed : Int) ≤ j.settings.bound.toInt := by
  cases hland with
  | through => exact write_exposed_le hbound hbuffer hdata
  | untouched => exact h
  | afterFlush =>
      rw [flush_exposed]
      exact h
  | undurable => exact absurd rfl hsync

theorem Flushing.exposed_le {syncing : Bool} {outcome : Outcome (Live β) Unit}
    (hflush : Flushing j syncing outcome) : outcome.after.exposed ≤ j.exposed := by
  cases hflush with
  | through =>
      cases syncing with
      | false =>
          rw [flushAnd_false]
          exact Nat.le_of_eq (flush_exposed j)
      | true =>
          rw [flushAnd_true_exposed]
          exact Nat.zero_le _
  | untouched => exact Nat.le_refl _
  | undurable => exact Nat.le_of_eq (flush_exposed j)

theorem Turned.exposed_le {request : Journal.Request} {outcome : Outcome (Live β) Journal.Reply}
    (hturned : Turned j request outcome) (hsync : outcome.result ≠ .error (.stopped .sync))
    (hbound : 0 < j.settings.bound) (h : (j.exposed : Int) ≤ j.settings.bound.toInt) :
    (outcome.after.exposed : Int) ≤ j.settings.bound.toInt := by
  cases hturned with
  | refused => exact h
  | idle => exact h
  | @landed buffer data outcome hbuffer hdata hland =>
      apply hland.exposed_le hbuffer hdata _ hbound h
      intro hstopped
      rw [Outcome.map, hstopped] at hsync
      exact hsync rfl
  | flushed hflush => exact Int.le_trans (Int.ofNat_le.mpr hflush.exposed_le) h
  | forced hflush => exact Int.le_trans (Int.ofNat_le.mpr hflush.exposed_le) h
  | served => exact h

end Steady

end Live

namespace Journal

variable {σ β : Type} [Medium σ] [Medium β] [Screened σ β]

/-! ## Within the bound through a run -/

def Report.failure? : Report → Option Failure
  | called _ (.error failure) _ _ => some failure
  | _ => none

theorem report_failure? {j : Journal σ} {request : Request} {failure : Failure}
    (h : (j.perform request).1.result = .error failure) :
    (j.report request).failure? = some failure := by
  show Report.failure? (.called request (j.perform request).1.result _ _) = some failure
  rw [h]
  rfl

/-- A call whose sync was stopped. -/
def Report.SyncStopped (report : Report) : Prop := report.failure? = some (.stopped .sync)

instance : DecidablePred Report.SyncStopped := fun report =>
  inferInstanceAs (Decidable (report.failure? = some (.stopped .sync)))

/-- A live journal with a positive bound exposes no more than that. -/
def Within : Journal σ → Prop
  | live j => 0 < j.settings.bound → (j.bare.exposed : Int) ≤ j.settings.bound.toInt
  | closed _ _ => True

variable [Steady β]

theorem Within.perform {j : Journal σ} (h : j.Within) (request : Request)
    (hsync : (j.perform request).1.result ≠ .error (.stopped .sync)) :
    (j.perform request).1.after.Within := by
  cases j with
  | closed settings medium =>
      rw [perform_closed]
      trivial
  | live state =>
      by_cases hrequest : request = .close
      · subst hrequest
        trivial
      · obtain ⟨outcome, hperform, hturned⟩ := perform_turned state hrequest
        have hsettings : outcome.after.settings = state.settings :=
          (Live.hereditary_settings state.settings).turned (j := state.bare) rfl hturned
        rw [hperform] at hsync ⊢
        intro hbound
        rw [hsettings] at hbound ⊢
        exact hturned.exposed_le hsync hbound (h hbound)

/-- As long as no sync is stopped a journal stays within its bound. -/
theorem Reached.within {base : β} {history : List Report} {j : Journal σ}
    (h : Reached base history j) (hsync : ∀ report ∈ history, ¬ report.SyncStopped) :
    j.Within := by
  induction h with
  | @opened medium settings supply j events hmedium hsupply hstart =>
      rw [eq_fresh_of_start hstart]
      intro hbound
      have hexposed : (Live.fresh medium settings supply).exposed = 0 := by
        show 0 + (Live.fresh medium settings supply).held.length = 0
        rw [Live.fresh_held hsupply]
        rfl
      rw [Live.bare_exposed, hexposed]
      exact Live.bound_nonneg hbound
  | @called history j request _ ih =>
      obtain ⟨hbefore, hlast⟩ := List.forall_mem_append.mp hsync
      apply (ih hbefore).perform request
      intro hstopped
      exact hlast (j.report request) (List.mem_singleton_self _) (report_failure? hstopped)
  | asked query _ ih => exact ih (List.forall_mem_append.mp hsync).1
  | @meddled history j medium _ _ ih =>
      cases j with
      | live state => exact ih hsync
      | closed settings old => trivial

/-- **The bound holds.**  From every state that a run can reach, also from one
that a stopped sync has left over the bound, a write that succeeds leaves at
most as many bytes exposed as the bound says; and a run in which no sync was
stopped never exposes more at all. -/
theorem Reached.exposed_le_bound {base : β} {history : List Report} {j : Live σ}
    (h : Reached base history (live j)) (hbound : 0 < j.settings.bound) :
    (∀ data : Bytes, data ≠ [] → ((live j).write data).result = .ok () →
      ∃ j' : Live σ, ((live j).write data).after = live j' ∧
        ((j'.unsynced + j'.held.length : Nat) : Int) ≤ j.settings.bound.toInt) ∧
    ((∀ report ∈ history, ¬ report.SyncStopped) →
      ((j.unsynced + j.held.length : Nat) : Int) ≤ j.settings.bound.toInt) := by
  refine ⟨?_, fun hsync => h.within hsync hbound⟩
  intro data hdata hok
  refine ⟨(j.write data).after, rfl, ?_⟩
  cases hbuffer : j.buffer with
  | error shortage =>
      rw [show (live j).write data = (j.write data).lift live from rfl,
        Live.write_of_shortage hbuffer] at hok
      exact nomatch hok
  | ok buffer =>
      have hthrough := (Live.write_lands hbuffer hdata).of_ok (j := j.bare) hok
      show ((((j.write data).lift Live.bare).after.exposed : Nat) : Int) ≤ _
      rw [hthrough]
      exact Live.write_exposed_le (j := j.bare) hbound hbuffer hdata

/-- A stopped sync leaves five bytes exposed where three are tolerated, and
the next write sets it right; a stopped append leaves no more than that. -/
theorem exposed_le_bound_after_stops :
    (∃ (history : List Report) (j j' : Live (Rigged InMemory)),
      Reached (InMemory.holding []) history (live j) ∧ j.settings.bound = 3 ∧ j.exposed = 5 ∧
        ((live j).write [6]).after = live j' ∧
        ((j'.unsynced + j'.held.length : Nat) : Int) ≤ j.settings.bound.toInt) ∧
    ∃ (history : List Report) (j : Live (Rigged InMemory)),
      Reached (InMemory.holding []) history (live j) ∧ j.held = [1, 2] ∧
        ((j.unsynced + j.held.length : Nat) : Int) ≤ j.settings.bound.toInt := by
  have hstart : start (Rigged.behind 1 (InMemory.holding [])) { capacity := 8, bound := 3 }
      .heap = (.ok _, _) := rfl
  have hopened : Reached (InMemory.holding []) _ _ := .opened rfl Supply.heap_honest hstart
  refine ⟨?_, ?_⟩
  · have hover := (hopened.switched 0 (.arm .sync .once)).called (.write [1, 2, 3, 4, 5])
    obtain ⟨j', hafter, hle⟩ := (hover.exposed_le_bound (by decide)).1 [6] (by decide) rfl
    exact ⟨_, _, j', hover, rfl, rfl, hafter, hle⟩
  · have hstopped := ((hopened.called (.write [1, 2])).switched 0
      (.arm .writeAppend .always)).called (.write [3, 4])
    exact ⟨_, _, hstopped, rfl, (hstopped.exposed_le_bound (by decide)).2 (by decide)⟩

end Journal

end WriteBack
