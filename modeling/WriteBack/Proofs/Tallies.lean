/-
# Tallies — the counts agree with what happened

A journal counts its writes, its appends and its syncs, in several places and
partly before it knows how a call will end.  Whatever the medium answers, the
counts are right: they fit the offsets that the journal tells, they are the
numbers of the calls on the medium that were accepted, and they never shrink.

Most of this abides, so that single answers are all there is to look at.  Where
the stream ends does not, since a write that fails may already have been in the
tail.  It is *ahead* of its count until the write is counted or the data is
taken out again (`Live.Tallied`); which of the two happens is told by the
answers to its syncs.
-/
import WriteBack.Proofs.Abiding
import WriteBack.Proofs.Following
import WriteBack.Proofs.Meters
import WriteBack.Proofs.Unhindered

namespace WriteBack

/-! ## Books that balance -/

namespace Live

section Books

variable {σ : Type}

/-- What the medium got since the journal was opened at `start` is what lies
between there and the boundary; and some of it may be unsynced, and some of the
appends may have been past the tail. -/
structure Balanced (start : Nat) (j : Live σ) : Prop where
  boundary_eq : start + j.tally.bytesFlushed = j.boundary
  unsynced_le : j.unsynced ≤ j.tally.bytesFlushed
  straight_le : j.tally.straightThrough ≤ j.tally.appends

theorem Balanced.booked {start : Nat} {j : Live σ} (h : j.Balanced start) (count : Nat) :
    (j.booked count).Balanced start where
  boundary_eq := by
    show start + (j.tally.bytesFlushed + count) = j.boundary + count
    rw [← h.boundary_eq, Nat.add_assoc]
  unsynced_le := Nat.add_le_add_right h.unsynced_le count
  straight_le := Nat.le_succ_of_le h.straight_le

theorem abiding_balanced [Medium σ] (start : Nat) : Abiding (Balanced start : Live σ → Prop) where
  refused _ h := ⟨h.boundary_eq, h.unsynced_le, h.straight_le⟩
  readAt _ _ h := ⟨h.boundary_eq, h.unsynced_le, h.straight_le⟩
  moved {j} _ _ h := by
    have hmoved : (({ j with medium := (Medium.append j.medium j.held).2 } : Live σ).withHeld
        []).Balanced start := ⟨h.boundary_eq, h.unsynced_le, h.straight_le⟩
    exact hmoved.booked j.held.length
  synced _ h := ⟨h.boundary_eq, Nat.zero_le _, h.straight_le⟩
  through {j data} _ h := by
    have hmoved : ({ j with medium := (Medium.append j.medium data).2 } : Live σ).Balanced
        start := ⟨h.boundary_eq, h.unsynced_le, h.straight_le⟩
    have hbooked := hmoved.booked data.length
    exact ⟨hbooked.boundary_eq, hbooked.unsynced_le, Nat.succ_le_succ h.straight_le⟩
  withHeld _ h := ⟨h.boundary_eq, h.unsynced_le, h.straight_le⟩
  counted _ h := ⟨h.boundary_eq, h.unsynced_le, h.straight_le⟩

end Books

end Live

/-! ## Counts never shrink -/

/-- No count of the one is larger than that of the other. -/
structure Tally.Precedes (tally tally' : Tally) : Prop where
  writes_le : tally.writes ≤ tally'.writes
  bytesWritten_le : tally.bytesWritten ≤ tally'.bytesWritten
  appends_le : tally.appends ≤ tally'.appends
  bytesFlushed_le : tally.bytesFlushed ≤ tally'.bytesFlushed
  straightThrough_le : tally.straightThrough ≤ tally'.straightThrough
  syncs_le : tally.syncs ≤ tally'.syncs

theorem Tally.Precedes.refl (tally : Tally) : tally.Precedes tally :=
  ⟨Nat.le_refl _, Nat.le_refl _, Nat.le_refl _, Nat.le_refl _, Nat.le_refl _, Nat.le_refl _⟩

namespace Live

theorem abiding_precedes {σ : Type} [Medium σ] (tally : Tally) :
    Abiding fun j : Live σ => tally.Precedes j.tally where
  refused _ h := h
  readAt _ _ h := h
  moved _ _ h := { h with
    appends_le := Nat.le_succ_of_le h.appends_le
    bytesFlushed_le := Nat.le_add_right_of_le h.bytesFlushed_le }
  synced _ h := { h with syncs_le := Nat.le_succ_of_le h.syncs_le }
  through _ h := { h with
    appends_le := Nat.le_succ_of_le h.appends_le
    bytesFlushed_le := Nat.le_add_right_of_le h.bytesFlushed_le
    straightThrough_le := Nat.le_succ_of_le h.straightThrough_le }
  withHeld _ h := h
  counted _ h := { h with
    writes_le := Nat.le_succ_of_le h.writes_le
    bytesWritten_le := Nat.le_add_right_of_le h.bytesWritten_le }

end Live

/-! ## Counts and records -/

namespace Live

section Records

variable {σ : Type}

/-- Since the counts were these, as many appends and syncs have been counted as
the record has that were accepted. -/
structure Matched (appends syncs : Nat) (j : Live (Recorded σ)) : Prop where
  appends_eq : j.tally.appends = appends + appendsAccepted j.medium.log
  syncs_eq : j.tally.syncs = syncs + syncsAccepted j.medium.log

theorem Matched.noting {appends syncs : Nat} {j j' : Live (Recorded σ)}
    (h : j.Matched appends syncs) {exchange : Exchange}
    (hlog : j'.medium.log = j.medium.log ++ [exchange])
    (happends : j'.tally.appends =
      j.tally.appends + if exchange.ofAppend && !exchange.refused then 1 else 0)
    (hsyncs : j'.tally.syncs =
      j.tally.syncs + if exchange.ofSync && !exchange.refused then 1 else 0) :
    j'.Matched appends syncs where
  appends_eq := by
    rw [hlog, appendsAccepted_concat, happends, h.appends_eq, Nat.add_assoc]
  syncs_eq := by
    rw [hlog, syncsAccepted_concat, hsyncs, h.syncs_eq, Nat.add_assoc]

variable [Medium σ]

theorem log_append {m : Recorded σ} {data : Bytes} {answer : Except MediumError Unit}
    (h : (Medium.append m data).1 = answer) :
    (Medium.append m data).2.log = m.log ++ [⟨.append data, .accepted answer⟩] :=
  h ▸ rfl

theorem log_sync {m : Recorded σ} {answer : Except MediumError Unit}
    (h : (Medium.sync m).1 = answer) :
    (Medium.sync m).2.log = m.log ++ [⟨.sync, .accepted answer⟩] :=
  h ▸ rfl

theorem abiding_matched (appends syncs : Nat) :
    Abiding (Matched appends syncs : Live (Recorded σ) → Prop) where
  refused {j call error} hanswer h := by
    cases call with
    | position => cases hanswer
    | size => cases hanswer
    | readAt offset wanted => cases hanswer
    | append data =>
        have hrefused : (Medium.append j.medium data).1 = .error error := by
          injection hanswer
        exact h.noting (log_append hrefused) rfl rfl
    | sync =>
        have hrefused : (Medium.sync j.medium).1 = .error error := by
          injection hanswer
        exact h.noting (log_sync hrefused) rfl rfl
  readAt _ _ h := h.noting rfl rfl rfl
  moved _ happend h := h.noting (log_append happend) rfl rfl
  synced hsync h := h.noting (log_sync hsync) rfl rfl
  through happend h := h.noting (log_append happend) rfl rfl
  withHeld _ h := ⟨h.appends_eq, h.syncs_eq⟩
  counted _ h := ⟨h.appends_eq, h.syncs_eq⟩

end Records

end Live

/-! ## Writes and their count -/

namespace Live

section Writes

variable {σ : Type} {start writes ahead : Nat} {j : Live σ}

/-- So many writes have been counted since the stream ended at `start`, and the
stream ends so far ahead of the bytes that were counted with them. -/
structure Tallied (start writes ahead : Nat) (j : Live σ) : Prop where
  end_eq : start + j.tally.bytesWritten + ahead = j.logicalEnd
  writes_eq : j.tally.writes = writes

theorem Tallied.counted {count : Nat} (h : j.Tallied start writes count) :
    (j.counted count).Tallied start (writes + 1) 0 where
  end_eq := by
    show start + (j.tally.bytesWritten + count) + 0 = j.logicalEnd
    rw [← h.end_eq]
    omega
  writes_eq := congrArg (· + 1) h.writes_eq

/-- A write has been taken if it succeeds or if a sync of its was refused.
Otherwise it has not been, and it has asked for no sync. -/
inductive Entered (start writes : Nat) (result : Except Failure Unit) (after : Live σ)
    (asked : List Exchange) : Prop
  | taken : after.Tallied start (writes + 1) 0 →
      result = .ok () ∨ (∃ exchange ∈ asked, exchange.ofSync = true ∧ exchange.refused = true) →
      Entered start writes result after asked
  | rejected (failure : Failure) : after.Tallied start writes 0 → result = .error failure →
      (∀ exchange ∈ asked, exchange.ofSync = false) → Entered start writes result after asked

theorem Entered.prepend {result : Except Failure Unit} {after : Live σ}
    {asked : List Exchange} (h : Entered start writes result after asked)
    {front : List Exchange} (hfront : ∀ exchange ∈ front, exchange.ofSync = false) :
    Entered start writes result after (front ++ asked) := by
  cases h with
  | taken hafter hok =>
      refine .taken hafter (hok.imp_right ?_)
      rintro ⟨exchange, hmem, hsync⟩
      exact ⟨exchange, List.mem_append_right _ hmem, hsync⟩
  | rejected failure hafter hfailed hnone =>
      exact .rejected failure hafter hfailed (List.forall_mem_append.mpr ⟨hfront, hnone⟩)

variable [Medium σ]

theorem calm_tallied (start writes ahead : Nat) :
    Calm (Tallied start writes ahead : Live σ → Prop) where
  refused _ h := ⟨h.end_eq, h.writes_eq⟩
  readAt _ _ h := ⟨h.end_eq, h.writes_eq⟩
  moved {j} _ _ h := by
    refine ⟨?_, h.writes_eq⟩
    show start + j.tally.bytesWritten + ahead = j.boundary + j.held.length +
      (({ j with medium := (Medium.append j.medium j.held).2 } : Live σ).withHeld []).held.length
    rw [held_withHeld_nil, h.end_eq]
    rfl
  synced _ h := ⟨h.end_eq, h.writes_eq⟩

theorem flushing_ofSync (j : Live σ) : ∀ exchange ∈ j.flushing, exchange.ofSync = false := by
  rw [flushing]
  split
  · exact List.forall_mem_nil _
  · exact List.forall_mem_singleton.mpr rfl

theorem makingRoom_ofSync (j : Live σ) (count : Nat) :
    ∀ exchange ∈ j.makingRoom count, exchange.ofSync = false := by
  rw [makingRoom]
  split
  · exact j.flushing_ofSync
  · exact List.forall_mem_nil _

theorem placing_ofSync (j : Live σ) (data : Bytes) :
    ∀ exchange ∈ j.placing data, exchange.ofSync = false := by
  rw [placing]
  split
  · exact List.forall_mem_singleton.mpr rfl
  · exact List.forall_mem_nil _

theorem held_of_flush (hok : j.flush.result = .ok ()) : j.flush.after.held = [] := by
  by_cases hheld : j.held = []
  · rw [flush_of_nil hheld]
    exact hheld
  · cases happend : (Medium.append j.medium j.held).1 with
    | ok value =>
        rw [flush_of_append hheld happend]
        exact held_withHeld_nil _
    | error error =>
        rw [flush_of_refused hheld happend] at hok
        cases hok

theorem Tallied.place (h : j.Tallied start writes 0) (hbuffer : ∃ buffer, j.buffer = .ok buffer)
    (data : Bytes) :
    (j.place data).after.Tallied start writes
      (match (j.place data).result with
        | .ok _ => data.length
        | .error _ => 0) := by
  have hend : start + j.tally.bytesWritten = j.boundary + j.held.length := h.end_eq
  by_cases hlarge : j.settings.room < data.length
  · rw [place_of_lt hlarge]
    cases happend : (Medium.append j.medium data).1 with
    | ok value =>
        rw [writeThrough_of_append happend]
        refine ⟨?_, h.writes_eq⟩
        show start + j.tally.bytesWritten + data.length =
          j.boundary + data.length + j.held.length
        omega
    | error error =>
        rw [writeThrough_of_refused happend]
        exact ⟨h.end_eq, h.writes_eq⟩
  · obtain ⟨buffer, hbuffer⟩ := hbuffer
    rw [place_of_le (Nat.le_of_not_lt hlarge)]
    refine ⟨?_, h.writes_eq⟩
    show start + j.tally.bytesWritten + data.length =
      j.boundary + (j.withHeld (j.held ++ data)).held.length
    rw [held_withHeld hbuffer, List.length_append]
    omega

theorem held_of_makeRoom {count : Nat} (hok : (j.makeRoom count).result = .ok ())
    (hlarge : (j.makeRoom count).after.settings.room < count) :
    (j.makeRoom count).after.held = [] := by
  have hsettings : (j.makeRoom count).after.settings = j.settings :=
    (abiding_settings j.settings).makeRoom rfl count
  rw [hsettings] at hlarge
  have hmake : j.makeRoom count = j.flush := by
    rw [makeRoom, if_pos (Nat.lt_add_left _ hlarge)]
  rw [hmake] at hok ⊢
  exact held_of_flush hok

theorem place_take_held (hbuffer : ∃ buffer, j.buffer = .ok buffer) {data : Bytes}
    (hempty : j.settings.room < data.length → j.held = [])
    (hheld : (j.place data).after.held ≠ []) :
    (j.place data).after.withHeld ((j.place data).after.held.take j.held.length) = j := by
  by_cases hlarge : j.settings.room < data.length
  · rw [place_of_lt hlarge] at hheld
    cases happend : (Medium.append j.medium data).1 with
    | ok value =>
        rw [writeThrough_of_append happend] at hheld
        exact absurd (hempty hlarge) hheld
    | error error =>
        rw [writeThrough_of_refused happend] at hheld
        exact absurd (hempty hlarge) hheld
  · obtain ⟨buffer, hbuffer⟩ := hbuffer
    have hplace : (j.place data).after = j.withHeld (j.held ++ data) := by
      rw [place_of_le (Nat.le_of_not_lt hlarge)]
      rfl
    rw [hplace, held_withHeld hbuffer, List.take_left, withHeld_withHeld, withHeld_held]

theorem Tallied.settle {kept count : Nat} (h : j.Tallied start writes count)
    (hback : j.held ≠ [] → (j.withHeld (j.held.take kept)).Tallied start writes 0) :
    Entered start writes (j.settle kept count).result (j.settle kept count).after
      j.settling := by
  cases hover : j.overBound with
  | false =>
      rw [settle_of_within _ _ hover]
      exact .taken h.counted (.inl rfl)
  | true =>
      rw [settling, if_pos hover]
      cases hflush : j.flush.result with
      | ok value =>
          obtain ⟨hresult, hstate⟩ := settle_of_flushed hover hflush kept count
          have hcounted := ((calm_tallied start writes count).flush h).counted
          have hafter := (calm_tallied start (writes + 1) 0).sync hcounted
          rw [hresult, hstate, Outcome.ifOk_of_ok hflush]
          refine .taken hafter ?_
          cases hsync : (Medium.sync j.flush.after.medium).1 with
          | ok value =>
              left
              exact congrArg Outcome.result
                (sync_of_sync (j := j.flush.after.counted count) hsync)
          | error error =>
              right
              refine ⟨_, List.mem_append_right _ (List.mem_singleton_self _), rfl, ?_⟩
              rw [Medium.urged, hsync]
              rfl
      | error failure =>
          obtain ⟨hresult, hstate⟩ := settle_of_unflushed hover hflush kept count
          rw [hresult, hstate, Outcome.ifOk_of_error hflush, List.append_nil]
          refine .rejected failure ?_ rfl j.flushing_ofSync
          obtain ⟨hheld, error, happend⟩ := refused_of_flush hflush
          rw [flush_of_refused hheld happend]
          exact ⟨(hback hheld).end_eq, (hback hheld).writes_eq⟩

theorem Tallied.write (h : j.Tallied start writes 0) {buffer : Buffer}
    (hbuffer : j.buffer = .ok buffer) {data : Bytes} (hdata : data ≠ []) :
    Entered start writes (j.write data).result (j.write data).after (j.writing data) := by
  have hcalm := calm_tallied (σ := σ) start writes 0
  have hroomy := hcalm.makeRoom h data.length
  have hbuffered : ∃ buffer, (j.makeRoom data.length).after.buffer = .ok buffer :=
    abiding_buffer.makeRoom ⟨buffer, hbuffer⟩ data.length
  rw [write_of_buffer hbuffer hdata, writing]
  cases hmade : (j.makeRoom data.length).result with
  | error failure =>
      rw [Outcome.andThen_of_error _ hmade, Outcome.ifOk_of_error hmade, List.append_nil]
      exact .rejected failure hroomy rfl (j.makingRoom_ofSync data.length)
  | ok value =>
      have hplaced := hroomy.place hbuffered data
      rw [Outcome.andThen_of_ok _ hmade, Outcome.ifOk_of_ok hmade]
      apply Entered.prepend _ (j.makingRoom_ofSync data.length)
      cases hput : ((j.makeRoom data.length).after.place data).result with
      | error failure =>
          rw [hput] at hplaced
          dsimp only
          rw [Outcome.andThen_of_error _ hput, Outcome.ifOk_of_error hput, List.append_nil]
          exact .rejected failure hplaced rfl (placing_ofSync _ data)
      | ok value =>
          rw [hput] at hplaced
          dsimp only
          rw [Outcome.andThen_of_ok _ hput, Outcome.ifOk_of_ok hput]
          apply Entered.prepend _ (placing_ofSync _ data)
          apply hplaced.settle
          intro hheld
          rw [place_take_held hbuffered (held_of_makeRoom hmade) hheld]
          exact hroomy

end Writes

end Live

namespace Journal

open Live (Balanced Tallied Matched)

/-! ## Runs with their record -/

/-- One step of a run: what it came to, and what it asked of the medium. -/
structure Step where
  report : Report
  asked : List Exchange := []

/-- The step is a write that was accepted: there was something to write, and it
succeeded or a sync of its was refused. -/
def Step.accepts (step : Step) : Bool :=
  match step.report with
  | .called (.write data) result _ _ =>
    !data.isEmpty &&
      (result.isOk || step.asked.any fun exchange => exchange.ofSync && exchange.refused)
  | _ => false

def record (steps : List Step) : List Exchange := steps.flatMap Step.asked

@[simp] theorem record_concat (steps : List Step) (last : Step) :
    record (steps ++ [last]) = record steps ++ last.asked := by
  simp [record]

section Traces

variable {σ β : Type} [Medium σ] [Medium β] [Screened σ β]

/-- From `j` on these steps have led to `j'`. -/
inductive Traces (j : Journal σ) : List Step → Journal σ → Prop
  | here : Traces j [] j
  | called {steps : List Step} {j' : Journal σ} (request : Request) : Traces j steps j' →
      Traces j (steps ++ [⟨j'.report request, j'.exchanges request⟩])
        (j'.perform request).1.after
  | asked {steps : List Step} {j' : Journal σ} (query : Query) : Traces j steps j' →
      Traces j (steps ++ [⟨.asked query (j'.answer query), []⟩]) j'
  | meddled {steps : List Step} {j' : Journal σ} {medium : σ} : Traces j steps j' →
      Screened.Meddled j'.medium medium → Traces j steps (j'.mapMedium fun _ => medium)

/-- What is said of live journals and of the steps that have led to them need
only be looked at where a call leaves the journal live. -/
theorem Traces.live_induction {P : List Step → Live σ → Prop} {first last : Live σ}
    {steps : List Step} (h : Traces (live first) steps (live last)) (hhere : P [] first)
    (hcalled : ∀ (steps : List Step) (j j' : Live σ) (request : Request), P steps j →
      ((live j).perform request).1.after = live j' →
        P (steps ++ [⟨(live j).report request, (live j).exchanges request⟩]) j')
    (hasked : ∀ (steps : List Step) (j : Live σ) (query : Query), P steps j →
      P (steps ++ [⟨.asked query ((live j).answer query), []⟩]) j)
    (hmeddled : ∀ (steps : List Step) (j : Live σ) (medium : σ), P steps j →
      Screened.Meddled j.medium medium → P steps { j with medium }) : P steps last := by
  generalize hlast : live last = after at h
  induction h generalizing last with
  | here =>
      obtain rfl := live.inj hlast
      exact hhere
  | @called steps j request _ ih =>
      cases j with
      | live state => exact hcalled _ _ _ _ (ih rfl) hlast.symm
      | closed settings medium =>
          -- what is closed stays closed, and the last journal is live
          rw [perform_closed] at hlast
          cases hlast
  | asked query _ ih =>
      subst hlast
      exact hasked _ _ _ (ih rfl)
  | @meddled steps j medium _ hmedium ih =>
      cases j with
      | live state =>
          obtain rfl := live.inj hlast
          exact hmeddled _ _ _ (ih rfl) hmedium
      | closed settings old => cases hlast

end Traces

/-! ## What a run is audited for -/

section Books

variable {σ : Type}

/-- The books are right: they balance, and they agree with the steps. -/
structure Audited (start : Nat) (steps : List Step) (j : Live σ) : Prop where
  balanced : j.Balanced start
  tallied : j.Tallied start (steps.countP Step.accepts) 0
  appends_eq : j.tally.appends = appendsAccepted (record steps)
  syncs_eq : j.tally.syncs = syncsAccepted (record steps)

theorem Audited.asked {start : Nat} {steps : List Step} {j : Live σ} (h : Audited start steps j)
    (query : Query) :
    Audited start (steps ++ [⟨.asked query ((live j).answer query), []⟩]) j := by
  have hquiet : List.countP Step.accepts (steps ++ [⟨.asked query ((live j).answer query), []⟩]) =
      List.countP Step.accepts steps := by
    rw [List.countP_append]
    rfl
  refine ⟨h.balanced, hquiet ▸ h.tallied, ?_, ?_⟩
  · rw [record_concat, List.append_nil]
    exact h.appends_eq
  · rw [record_concat, List.append_nil]
    exact h.syncs_eq

theorem Audited.withMedium {start : Nat} {steps : List Step} {j : Live σ}
    (h : Audited start steps j) (medium : σ) : Audited start steps { j with medium } :=
  ⟨⟨h.balanced.boundary_eq, h.balanced.unsynced_le, h.balanced.straight_le⟩,
    ⟨h.tallied.end_eq, h.tallied.writes_eq⟩, h.appends_eq, h.syncs_eq⟩

end Books

section Traces

variable {σ β : Type} [Medium σ] [Medium β] [Screened σ β]

/-- What a call adds to the counts is what it asked for and got. -/
theorem matched_perform {j j' : Live σ} {request : Request}
    (hafter : ((live j).perform request).1.after = live j') :
    j'.tally.appends = j.tally.appends + appendsAccepted ((live j).exchanges request) ∧
      j'.tally.syncs = j.tally.syncs + syncsAccepted ((live j).exchanges request) := by
  have hbegun : (j.recording []).Matched j.tally.appends j.tally.syncs := ⟨rfl, rfl⟩
  have hrecorded := (perform_recorded (live j) request).2
  rw [hafter] at hrecorded
  have hmatched := abiding_perform (Live.abiding_matched _ _) hbegun hrecorded
  exact ⟨hmatched.appends_eq, hmatched.syncs_eq⟩

theorem accepts_write (j : Live σ) (data : Bytes) (asked : List Exchange) :
    Step.accepts ⟨(live j).report (.write data), asked⟩ =
      (!data.isEmpty && ((j.write data).result.isOk ||
        asked.any fun exchange => exchange.ofSync && exchange.refused)) := by
  have hmap : ((j.write data).result.map fun _ => Reply.nothing).isOk =
      (j.write data).result.isOk := by
    cases (j.write data).result with
    | ok value => rfl
    | error failure => rfl
  rw [← hmap]
  rfl

theorem accepts_of_ne {request : Request} (hrequest : ∀ data, request ≠ .write data)
    (j : Live σ) (asked : List Exchange) :
    Step.accepts ⟨(live j).report request, asked⟩ = false := by
  cases request with
  | write data => exact absurd rfl (hrequest data)
  | flush syncing => rfl
  | forceWrite => rfl
  | read dest position length => rfl
  | close => rfl

/-- A write that has something to write and a buffer for it is accepted exactly
if it is counted. -/
theorem tallied_write {start writes : Nat} {j : Live σ} (h : j.Tallied start writes 0)
    {buffer : Buffer} (hbuffer : j.buffer = .ok buffer) {data : Bytes} (hdata : data ≠ []) :
    (j.write data).after.Tallied start
      (writes + if Step.accepts
        ⟨(live j).report (.write data), (live j).exchanges (.write data)⟩ then 1 else 0) 0 := by
  have hfull : data.isEmpty = false := by simpa using hdata
  rw [exchanges_write hbuffer hdata, accepts_write, hfull, Bool.not_false, Bool.true_and]
  cases h.write hbuffer hdata with
  | taken hafter hok =>
      have haccepted : ((j.write data).result.isOk ||
          (j.writing data).any fun exchange => exchange.ofSync && exchange.refused) = true := by
        rcases hok with hok | ⟨exchange, hmem, hsync, hrefused⟩
        · rw [hok]
          rfl
        · rw [Bool.or_eq_true]
          right
          exact List.any_eq_true.mpr ⟨exchange, hmem, by rw [hsync, hrefused]; rfl⟩
      rw [haccepted]
      exact hafter
  | rejected failure hafter hfailed hnone =>
      have hrejected : ((j.write data).result.isOk ||
          (j.writing data).any fun exchange => exchange.ofSync && exchange.refused) = false := by
        rw [hfailed]
        apply List.any_eq_false.mpr
        intro exchange hmem
        rw [hnone exchange hmem]
        exact Bool.false_ne_true
      rw [hrejected]
      exact hafter

theorem tallied_perform {start writes : Nat} {j j' : Live σ} {request : Request}
    (h : j.Tallied start writes 0) (hafter : ((live j).perform request).1.after = live j') :
    j'.Tallied start
      (writes + if Step.accepts ⟨(live j).report request, (live j).exchanges request⟩ then 1
        else 0) 0 := by
  by_cases hwrite : ∃ data, request = .write data
  · obtain ⟨data, rfl⟩ := hwrite
    obtain rfl := live.inj hafter
    show (j.write data).after.Tallied start _ 0
    cases hbuffer : j.buffer with
    | error shortage =>
        have hwrite := Live.write_of_shortage hbuffer data
        have hnothing := exchanges_write_of_shortage hbuffer data
        have hrejected : Step.accepts
            ⟨(live j).report (.write data), (live j).exchanges (.write data)⟩ = false := by
          rw [hnothing, accepts_write, hwrite]
          exact Bool.and_false _
        rw [hrejected, hwrite]
        exact h
    | ok buffer =>
        by_cases hdata : data = []
        · subst hdata
          rw [accepts_write, Live.write_nil hbuffer]
          exact h
        · exact tallied_write h hbuffer hdata
  · have hother : ∀ data, request ≠ .write data := fun data hdata => hwrite ⟨data, hdata⟩
    rw [accepts_of_ne hother]
    exact calm_perform (Live.calm_tallied start writes 0) h hother hafter

theorem Audited.perform {start : Nat} {steps : List Step} {j j' : Live σ} {request : Request}
    (h : Audited start steps j) (hafter : ((live j).perform request).1.after = live j') :
    Audited start (steps ++ [⟨(live j).report request, (live j).exchanges request⟩]) j' := by
  obtain ⟨happends, hsyncs⟩ := matched_perform hafter
  refine ⟨abiding_perform (Live.abiding_balanced start) h.balanced hafter, ?_, ?_, ?_⟩
  · rw [List.countP_append, List.countP_singleton]
    exact tallied_perform h.tallied hafter
  · rw [happends, h.appends_eq, record_concat]
    exact List.countP_append.symm
  · rw [hsyncs, h.syncs_eq, record_concat]
    exact List.countP_append.symm

theorem Audited.traces {start : Nat} {j j' : Live σ} (h : Audited start [] j)
    {steps : List Step} (hrun : Traces (live j) steps (live j')) : Audited start steps j' := by
  apply hrun.live_induction h
  · intro steps j j' request hj hafter
    exact hj.perform hafter
  · intro steps j query hj
    exact hj.asked query
  · intro steps j medium hj _
    exact hj.withMedium medium

theorem audited_fresh {supply : Supply} (hsupply : supply.Honest) (medium : σ)
    (settings : Settings) :
    Audited (Medium.position medium) [] (Live.fresh medium settings supply) where
  balanced := ⟨rfl, Nat.le_refl _, Nat.le_refl _⟩
  tallied := by
    refine ⟨?_, rfl⟩
    show Medium.position medium + 0 + 0 =
      Medium.position medium + (Live.fresh medium settings supply).held.length
    rw [Live.fresh_held hsupply]
    rfl
  appends_eq := rfl
  syncs_eq := rfl

theorem precedes_of_traces {j j' : Live σ} {steps : List Step}
    (hrun : Traces (live j) steps (live j')) : j.tally.Precedes j'.tally := by
  apply hrun.live_induction (P := fun _ last => j.tally.Precedes last.tally) (.refl _)
  · intro _ _ _ _ h hafter
    exact abiding_perform (Live.abiding_precedes _) h hafter
  · intro _ _ _ h
    exact h
  · intro _ _ _ h _
    exact h

end Traces

section Panels

variable {γ : Type} [Medium γ]

theorem outermost_perform {j j' : Live (Rigged γ)} {request : Request} {appends syncs : Nat}
    (h : j.medium.Outermost appends syncs)
    (hafter : ((live j).perform request).1.after = live j') :
    j'.medium.Outermost (appends + ((live j).exchanges request).countP Exchange.ofAppend)
      (syncs + ((live j).exchanges request).countP Exchange.ofSync) := by
  have hbegun : (j.recording []).medium.Metered appends syncs := h
  have hrecorded := (perform_recorded (live j) request).2
  rw [hafter] at hrecorded
  have hanswer : ∀ (m : Recorded (Rigged γ)) (call : Medium.Call), m.Metered appends syncs →
      (Medium.answer m call).2.Metered appends syncs := fun _ call h => h.answer call
  exact abiding_perform (Live.abiding_medium hanswer) hbegun hrecorded

theorem outermost_traces {j j' : Live (Rigged γ)} {steps : List Step} {appends syncs : Nat}
    (h : j.medium.Outermost appends syncs) (hrun : Traces (live j) steps (live j')) :
    j'.medium.Outermost (appends + (record steps).countP Exchange.ofAppend)
      (syncs + (record steps).countP Exchange.ofSync) := by
  apply hrun.live_induction (P := fun steps last =>
    last.medium.Outermost (appends + (record steps).countP Exchange.ofAppend)
      (syncs + (record steps).countP Exchange.ofSync)) h
  · intro steps j j' request hj hafter
    rw [record_concat, List.countP_append, List.countP_append, ← Nat.add_assoc, ← Nat.add_assoc]
    exact outermost_perform hj hafter
  · intro steps j query hj
    rw [record_concat, List.append_nil]
    exact hj
  · rintro steps j _ hj ⟨layer, switch, rfl⟩
    exact hj.switched layer switch

/-- **The counts agree with what happened.**  Open a journal over any medium at
all, behind panels or not, and follow it through any run, whatever the media
answer and whatever is armed.  The counts of bytes tell where the stream ends
and how far it has been flushed; the count of writes is that of the writes that
were accepted, and the counts of appends and syncs are those of the calls on the
medium that were; with the calls that were refused they make up what the
outermost panel has counted.  And they never shrink. -/
theorem tallies_agree {medium : Rigged γ} {settings : Settings} {supply : Supply}
    (hsupply : supply.Honest) {opened : Journal (Rigged γ)} {events : List Event}
    (hstart : start medium settings supply = (.ok opened, events)) {steps : List Step}
    {j : Live (Rigged γ)} (hrun : Traces opened steps (live j)) :
    (live j).position = .ok (Medium.position medium + j.tally.bytesWritten) ∧
      (live j).flushedPosition = .ok (Medium.position medium + j.tally.bytesFlushed) ∧
      j.unsynced ≤ j.tally.bytesFlushed ∧
      j.tally.writes = steps.countP Step.accepts ∧
      j.tally.appends = appendsAccepted (record steps) ∧
      j.tally.syncs = syncsAccepted (record steps) ∧
      j.tally.straightThrough ≤ j.tally.appends ∧
      (∀ appends syncs : Nat, medium.Outermost appends syncs →
        j.medium.Outermost (appends + (j.tally.appends + appendsRefused (record steps)))
          (syncs + (j.tally.syncs + syncsRefused (record steps)))) ∧
      ∀ (later : List Step) (j' : Live (Rigged γ)), Traces (live j) later (live j') →
        j.tally.Precedes j'.tally := by
  rw [eq_fresh_of_start hstart] at hrun
  have haudited := (audited_fresh hsupply medium settings).traces hrun
  refine ⟨congrArg Except.ok haudited.tallied.end_eq.symm,
    congrArg Except.ok haudited.balanced.boundary_eq.symm, haudited.balanced.unsynced_le,
    haudited.tallied.writes_eq, haudited.appends_eq, haudited.syncs_eq,
    haudited.balanced.straight_le, ?_, fun _ _ => precedes_of_traces⟩
  intro appends syncs houtermost
  rw [haudited.appends_eq, haudited.syncs_eq, appendsAccepted, appendsRefused, syncsAccepted,
    syncsRefused, countP_refused, countP_refused]
  exact outermost_traces houtermost hrun

/-- A journal with two bytes in its tail, over one byte behind a panel. -/
def halfFullBehind (panel : Rig.Panel) : Live (Rigged InMemory) :=
  { settings := { capacity := 4, bound := 3 }
    medium := ⟨[panel], .holding [9]⟩
    buffer := .ok ⟨4, [1, 2]⟩
    boundary := 1
    tally := { writes := 1, bytesWritten := 2 } }

/-- The same after three more bytes, none of which has been synced. -/
def drainedUnsynced : Live (Rigged InMemory) :=
  { settings := { capacity := 4, bound := 3 }
    medium := ⟨[{ appends := 3, syncs := 1 }], ⟨[9, 1, 2, 3, 4, 5], 1⟩⟩
    buffer := .ok ⟨4, []⟩
    boundary := 6
    unsynced := 5
    tally := { writes := 2, bytesWritten := 5, appends := 2, bytesFlushed := 5 } }

/-- Three writes, of which the second is rejected, as an append is refused, and
the third is accepted although the sync that it forces is refused. -/
theorem tallies_agree_after_faults :
    ∃ (opened : Journal (Rigged InMemory)) (events : List Event) (steps : List Step),
      start (Rigged.behind 1 (InMemory.holding [9])) { capacity := 4, bound := 3 } .heap =
          (.ok opened, events) ∧
        Traces opened steps (live drainedUnsynced) ∧
        steps.length = 3 ∧ steps.countP Step.accepts = 2 ∧
        appendsAccepted (record steps) = 2 ∧ syncsAccepted (record steps) = 0 ∧
        appendsRefused (record steps) = 1 ∧ syncsRefused (record steps) = 1 := by
  have hstart : start (Rigged.behind 1 (InMemory.holding [9])) { capacity := 4, bound := 3 }
      .heap = (.ok _, _) := rfl
  have hopened : Traces (live (Live.fresh (Rigged.behind 1 (InMemory.holding [9]))
      { capacity := 4, bound := 3 } .heap)) [] _ := .here
  have hwritten : Traces _ _ (live (halfFullBehind {})) := hopened.called (.write [1, 2])
  have hjammed : Traces _ _ (live (halfFullBehind { writeAppend := some .once })) :=
    hwritten.meddled ⟨0, .arm .writeAppend .once, rfl⟩
  have hrejected : Traces _ _ (live (halfFullBehind { appends := 1 })) :=
    hjammed.called (.write [3, 4, 5])
  have hunsafe : Traces _ _ (live (halfFullBehind { appends := 1, sync := some .once })) :=
    hrejected.meddled ⟨0, .arm .sync .once, rfl⟩
  have hforced : Traces _ _ (live drainedUnsynced) := hunsafe.called (.write [3, 4, 5])
  obtain ⟨-, -, -, hwrites, happends, hsyncs, -, hpanel, -⟩ :=
    tallies_agree Supply.heap_honest hstart hforced
  obtain ⟨panel, inner, hpanels, hofAppend, hofSync⟩ := hpanel 0 0 ⟨_, _, rfl, rfl, rfl⟩
  obtain ⟨rfl, rfl⟩ := List.cons.inj hpanels
  have hrefused : 3 = 0 + (2 + _) := hofAppend
  have hunsynced : 1 = 0 + (0 + _) := hofSync
  refine ⟨_, _, _, hstart, hforced, rfl, hwrites.symm, happends.symm, hsyncs.symm, ?_, ?_⟩
  · omega
  · omega

end Panels

end Journal

end WriteBack
