/-
# Retelling — the events tell where the journal stands

An operator has only the events.  They tell of every append that the medium
accepted, how many bytes it was and where the boundary was then, and of nothing
else that moves the boundary.  So whoever enters them one after the other into an
account of their own (`Account.enter`) finds there what the journal would have
answered: how far it has been flushed, and how often, how much and how much of it
past the tail.  An event that does not continue the account cannot be entered.

A call and its events are looked at together (`Live.Retold`): what the call tells
leads from the account before to the account after, also where it fails halfway.
-/
import WriteBack.Proofs.Tallies

namespace WriteBack

/-! ## Entering events into an account -/

namespace Event

def moves : Event → Bool
  | flushed _ _ | wroteThrough _ _ => true
  | _ => false

/-- How many bytes have gone to the medium, as the event tells. -/
def bytesMoved : Event → Nat
  | flushed bytes _ | wroteThrough bytes _ => bytes
  | _ => 0

def allMoved (told : List Event) : Nat :=
  told.foldr (fun event moved => event.bytesMoved + moved) 0

@[simp] theorem allMoved_cons (event : Event) (told : List Event) :
    allMoved (event :: told) = event.bytesMoved + allMoved told := rfl

def isStraight : Event → Bool
  | wroteThrough _ _ => true
  | _ => false

def isForced : Event → Bool
  | forcedSync _ _ => true
  | _ => false

end Event

/-- What can be known from events: how far the stream has been flushed, in how
many appends, of how many bytes, and how many of them were past the tail. -/
structure Account where
  boundary : Nat
  appends : Nat := 0
  bytesFlushed : Nat := 0
  straightThrough : Nat := 0
deriving DecidableEq, Repr

namespace Account

/-- The account with one more append.  It has to be of some bytes, and to lead
from the boundary so far to the one that is told. -/
def append (account : Account) (bytes boundary straight : Nat) : Option Account :=
  if 0 < bytes ∧ boundary = account.boundary + bytes then
    some
      { boundary
        appends := account.appends + 1
        bytesFlushed := account.bytesFlushed + bytes
        straightThrough := account.straightThrough + straight }
  else none

/-- Enters an event, if it continues the account. -/
def enter (account : Account) : Event → Option Account
  | .flushed bytes boundary => account.append bytes boundary 0
  | .wroteThrough bytes boundary => account.append bytes boundary 1
  | _ => some account

def enterAll (account : Account) (told : List Event) : Option Account :=
  told.foldlM enter account

@[simp] theorem enterAll_nil (account : Account) : account.enterAll [] = some account := rfl

theorem enterAll_append (account : Account) (told more : List Event) :
    account.enterAll (told ++ more) = (account.enterAll told).bind (·.enterAll more) :=
  List.foldlM_append

theorem enterAll_of_append {account between : Account} {told : List Event}
    (h : account.enterAll told = some between) (more : List Event) :
    account.enterAll (told ++ more) = between.enterAll more := by
  rw [enterAll_append, h]
  rfl

theorem enterAll_singleton (account : Account) (event : Event) :
    account.enterAll [event] = account.enter event := by
  show (account.enter event).bind some = _
  cases account.enter event <;> rfl

theorem append_eq_some {account after : Account} {bytes boundary straight : Nat}
    (h : account.append bytes boundary straight = some after) :
    after.appends = account.appends + 1 ∧ after.bytesFlushed = account.bytesFlushed + bytes ∧
      after.straightThrough = account.straightThrough + straight := by
  unfold append at h
  split at h
  · cases h
    exact ⟨rfl, rfl, rfl⟩
  · cases h

/-- The figures of an account are those of the events that were entered. -/
theorem figures_of_enterAll {account after : Account} {told : List Event}
    (h : account.enterAll told = some after) :
    after.appends = account.appends + told.countP Event.moves ∧
      after.bytesFlushed = account.bytesFlushed + Event.allMoved told ∧
      after.straightThrough = account.straightThrough + told.countP Event.isStraight := by
  induction told generalizing account with
  | nil =>
      cases h
      exact ⟨rfl, rfl, rfl⟩
  | cons event told ih =>
      obtain ⟨between, henter, hrest⟩ := Option.bind_eq_some_iff.mp h
      obtain ⟨happends, hbytes, hstraight⟩ := ih hrest
      have hone : between.appends = account.appends + (if event.moves then 1 else 0) ∧
          between.bytesFlushed = account.bytesFlushed + event.bytesMoved ∧
          between.straightThrough =
            account.straightThrough + (if event.isStraight then 1 else 0) := by
        cases event with
        | flushed bytes boundary => exact append_eq_some henter
        | wroteThrough bytes boundary => exact append_eq_some henter
        | _ =>
            cases henter
            exact ⟨rfl, rfl, rfl⟩
      rw [happends, hbytes, hstraight, hone.1, hone.2.1, hone.2.2, List.countP_cons,
        List.countP_cons, Event.allMoved_cons]
      omega

end Account

/-! ## Calls and what they tell -/

namespace Live

section Calls

variable {σ : Type}

/-- What the account of the journal is to be. -/
def account (j : Live σ) : Account :=
  ⟨j.boundary, j.tally.appends, j.tally.bytesFlushed, j.tally.straightThrough⟩

/-- The events of the call lead from the account of the journal to that of what
it leaves. -/
def Retold {α : Type} (j : Live σ) (call : Outcome (Live σ) α) : Prop :=
  j.account.enterAll call.events = some call.after.account

variable {α γ : Type} {j : Live σ}

theorem Retold.andThen {first : Outcome (Live σ) α} (h : j.Retold first)
    {next : α → Live σ → Outcome (Live σ) γ}
    (hnext : ∀ value, first.after.Retold (next value first.after)) :
    j.Retold (first.andThen next) := by
  cases hresult : first.result with
  | ok value =>
      rw [Outcome.andThen_of_ok next hresult]
      exact (Account.enterAll_of_append h _).trans (hnext value)
  | error failure =>
      rw [Outcome.andThen_of_error next hresult]
      exact h

theorem Retold.onFailure {call : Outcome (Live σ) α} (h : j.Retold call)
    {mend : Live σ → Live σ} (hmend : ∀ state : Live σ, (mend state).account = state.account) :
    j.Retold (call.onFailure mend) := by
  unfold Outcome.onFailure
  split
  · exact h
  · exact h.trans (congrArg some (hmend call.after).symm)

variable [Medium σ]

theorem flush_retold (j : Live σ) : j.Retold j.flush := by
  by_cases hheld : j.held = []
  · rw [flush_of_nil hheld]
    rfl
  · cases happend : (Medium.append j.medium j.held).1 with
    | ok value =>
        have hsome : 0 < j.held.length ∧ j.logicalEnd = j.boundary + j.held.length :=
          ⟨List.length_pos_iff.mpr hheld, rfl⟩
        rw [flush_of_append hheld happend]
        show j.account.enterAll [.flushed _ _] = _
        rw [Account.enterAll_singleton]
        exact if_pos hsome
    | error error =>
        rw [flush_of_refused hheld happend]
        rfl

theorem writeThrough_retold (j : Live σ) {data : Bytes} (hdata : data ≠ []) :
    j.Retold (j.writeThrough data) := by
  cases happend : (Medium.append j.medium data).1 with
  | ok value =>
      have hsome : 0 < data.length ∧ j.boundary + data.length = j.boundary + data.length :=
        ⟨List.length_pos_iff.mpr hdata, rfl⟩
      rw [writeThrough_of_append happend]
      show j.account.enterAll [.wroteThrough _ _] = _
      rw [Account.enterAll_singleton]
      exact if_pos hsome
  | error error =>
      rw [writeThrough_of_refused happend]
      rfl

theorem sync_retold (j : Live σ) : j.Retold j.sync := by
  cases hsync : (Medium.sync j.medium).1 with
  | ok value =>
      rw [sync_of_sync hsync]
      rfl
  | error error =>
      rw [sync_of_refused hsync]
      rfl

theorem makeRoom_retold (j : Live σ) (count : Nat) : j.Retold (j.makeRoom count) := by
  rw [makeRoom]
  split
  · exact j.flush_retold
  · rfl

theorem place_retold (j : Live σ) {data : Bytes} (hdata : data ≠ []) :
    j.Retold (j.place data) := by
  rw [place]
  split
  · exact j.writeThrough_retold hdata
  · rfl

theorem settle_retold (j : Live σ) (kept count : Nat) : j.Retold (j.settle kept count) := by
  rw [settle]
  split
  · have hflushed : j.Retold (j.flush.onFailure fun j' => j'.withHeld (j'.held.take kept)) :=
      j.flush_retold.onFailure fun _ => rfl
    have hstored : j.Retold ((j.flush.onFailure fun j' => j'.withHeld (j'.held.take kept)).andThen
        fun _ j' => (j'.counted count).sync) :=
      hflushed.andThen fun _ => sync_retold (counted _ count)
    exact hstored.andThen fun _ => rfl
  · rfl

theorem write_retold (j : Live σ) (data : Bytes) : j.Retold (j.write data) := by
  cases hbuffer : j.buffer with
  | error shortage =>
      rw [write_of_shortage hbuffer]
      rfl
  | ok buffer =>
      by_cases hdata : data = []
      · rw [hdata, write_nil hbuffer]
        rfl
      · rw [write_of_buffer hbuffer hdata]
        apply (j.makeRoom_retold data.length).andThen
        intro _
        apply (place_retold _ hdata).andThen
        intro _
        exact settle_retold _ _ _

theorem flushAnd_retold (j : Live σ) (syncing : Bool) : j.Retold (j.flushAnd syncing) := by
  apply j.flush_retold.andThen
  intro _
  cases syncing with
  | true => exact sync_retold _
  | false => rfl

theorem forceWrite_retold (j : Live σ) : j.Retold j.forceWrite :=
  (j.flushAnd_retold true).andThen fun _ => rfl

theorem read_retold (j : Live σ) (dest : Bytes) (position length : Int64) :
    j.Retold (j.read dest position length).1 := by
  unfold Retold
  rw [read_events]
  unfold read
  split
  · rfl
  · unfold copyOut
    dsimp only
    split <;> rfl

theorem lastFlush_retold (j : Live σ) : j.Retold j.lastFlush := by
  have hflush := j.flush_retold
  unfold lastFlush
  dsimp only
  split
  · exact Account.enterAll_of_append hflush _
  · exact Account.enterAll_of_append hflush _

theorem drop_retold (j : Live σ) : ∃ last : Account, j.account.enterAll j.drop.2 = some last := by
  have hflush := j.flushAnd_retold true
  unfold drop
  split
  · exact ⟨_, rfl⟩
  · dsimp only
    split
    · exact ⟨_, hflush⟩
    · exact ⟨_, Account.enterAll_of_append hflush _⟩

end Calls

/-! ## What is told of closing -/

section Closing

variable {σ : Type} [Medium σ]

theorem lastFlush_told (j : Live σ) :
    (j.lastFlush.result = .ok () ∧ ∃ moved : List Event, (∀ event ∈ moved, event.moves) ∧
        j.lastFlush.events = moved ++ [.closed j.logicalEnd]) ∨
      ∃ failure, j.lastFlush.result = .error failure ∧
        j.lastFlush.events = [.lostOnClose failure (j.logicalEnd - j.boundary)] := by
  have hlost : j.logicalEnd - j.boundary = j.held.length := Nat.add_sub_cancel_left _ _
  by_cases hheld : j.held = []
  · have hend : j.boundary = j.logicalEnd := by
      rw [logicalEnd, hheld]
      rfl
    rw [lastFlush, flush_of_nil hheld, ← hend]
    exact .inl ⟨rfl, [], List.forall_mem_nil _, rfl⟩
  · cases happend : (Medium.append j.medium j.held).1 with
    | ok value =>
        rw [lastFlush, flush_of_append hheld happend]
        exact .inl ⟨rfl, [.flushed _ _], List.forall_mem_singleton.mpr rfl, rfl⟩
    | error error =>
        rw [lastFlush, flush_of_refused hheld happend, hlost]
        exact .inr ⟨_, rfl, rfl⟩

end Closing

/-! ## What is told of forced syncs -/

section Forced

variable {σ : Type} [Medium σ]

def forcedIn (told : List Event) : List Event := told.filter Event.isForced

@[simp] theorem forcedIn_append (told more : List Event) :
    forcedIn (told ++ more) = forcedIn told ++ forcedIn more :=
  List.filter_append _ _

theorem flush_unforced (j : Live σ) : forcedIn j.flush.events = [] := by
  by_cases hheld : j.held = []
  · rw [flush_of_nil hheld]
    rfl
  · cases happend : (Medium.append j.medium j.held).1 with
    | ok value =>
        rw [flush_of_append hheld happend]
        rfl
    | error error =>
        rw [flush_of_refused hheld happend]
        rfl

theorem makeRoom_unforced (j : Live σ) (count : Nat) : forcedIn (j.makeRoom count).events = [] := by
  rw [makeRoom]
  split
  · exact j.flush_unforced
  · rfl

theorem place_unforced (j : Live σ) (data : Bytes) : forcedIn (j.place data).events = [] := by
  rw [place]
  split
  · cases happend : (Medium.append j.medium data).1 with
    | ok value =>
        rw [writeThrough_of_append happend]
        rfl
    | error error =>
        rw [writeThrough_of_refused happend]
        rfl
  · rfl

theorem sync_events (j : Live σ) : j.sync.events = [] := by
  cases hsync : (Medium.sync j.medium).1 with
  | ok value =>
      rw [sync_of_sync hsync]
      rfl
  | error error =>
      rw [sync_of_refused hsync]
      rfl

theorem flushAnd_unforced (j : Live σ) (syncing : Bool) :
    forcedIn (j.flushAnd syncing).events = [] := by
  have hflush := j.flush_unforced
  rw [flushAnd]
  cases hresult : j.flush.result with
  | ok value =>
      rw [Outcome.andThen_of_ok _ hresult]
      show forcedIn (j.flush.events ++ _) = []
      rw [forcedIn_append, hflush, List.nil_append]
      cases syncing with
      | true =>
          show forcedIn j.flush.after.sync.events = []
          rw [sync_events]
          rfl
      | false => rfl
  | error failure =>
      rw [Outcome.andThen_of_error _ hresult]
      exact hflush

theorem forceWrite_unforced (j : Live σ) : forcedIn j.forceWrite.events = [] := by
  rw [forceWrite_eq]
  exact j.flushAnd_unforced true

theorem lastFlush_unforced (j : Live σ) : forcedIn j.lastFlush.events = [] := by
  have hflush := j.flush_unforced
  unfold lastFlush
  dsimp only
  split
  · rw [forcedIn_append, hflush]
    rfl
  · rw [forcedIn_append, hflush]
    rfl

theorem exposed_of_flush (j : Live σ) : j.flush.after.exposed = j.exposed := by
  by_cases hheld : j.held = []
  · rw [flush_of_nil hheld]
    rfl
  · cases happend : (Medium.append j.medium j.held).1 with
    | ok value =>
        rw [flush_of_append hheld happend]
        show j.unsynced + j.held.length +
          (({ j with medium := (Medium.append j.medium j.held).2 } : Live σ).withHeld
            []).held.length = j.exposed
        rw [held_withHeld_nil]
        rfl
    | error error =>
        rw [flush_of_refused hheld happend]
        rfl

theorem exposed_of_makeRoom (j : Live σ) (count : Nat) :
    (j.makeRoom count).after.exposed = j.exposed := by
  rw [makeRoom]
  split
  · exact j.exposed_of_flush
  · rfl

theorem exposed_of_place {j : Live σ} (hbuffer : ∃ buffer, j.buffer = .ok buffer) {data : Bytes}
    (hok : (j.place data).result = .ok ()) :
    (j.place data).after.exposed = j.exposed + data.length := by
  by_cases hlarge : j.settings.room < data.length
  · rw [place_of_lt hlarge] at hok ⊢
    cases happend : (Medium.append j.medium data).1 with
    | ok value =>
        rw [writeThrough_of_append happend]
        exact Nat.add_right_comm _ _ _
    | error error =>
        rw [writeThrough_of_refused happend] at hok
        cases hok
  · obtain ⟨buffer, hbuffer⟩ := hbuffer
    rw [place_of_le (Nat.le_of_not_lt hlarge)]
    show j.unsynced + (j.withHeld (j.held ++ data)).held.length = j.exposed + data.length
    rw [held_withHeld hbuffer, List.length_append, ← Nat.add_assoc]
    rfl

theorem syncsAccepted_eq_zero {asked : List Exchange}
    (h : ∀ exchange ∈ asked, exchange.ofSync = false) : syncsAccepted asked = 0 := by
  apply List.countP_eq_zero.mpr
  intro exchange hmem
  simp [h exchange hmem]

theorem syncsAccepted_append {asked : List Exchange}
    (h : ∀ exchange ∈ asked, exchange.ofSync = false) (more : List Exchange) :
    syncsAccepted (asked ++ more) = syncsAccepted more := by
  rw [syncsAccepted, List.countP_append]
  exact (congrArg (· + _) (syncsAccepted_eq_zero h)).trans (Nat.zero_add _)

theorem syncsAccepted_settling_of_unflushed {j : Live σ} {failure : Failure}
    (hflush : j.flush.result = .error failure) : syncsAccepted j.settling = 0 := by
  rw [settling]
  split
  · rw [Outcome.ifOk_of_error hflush, List.append_nil]
    exact syncsAccepted_eq_zero j.flushing_ofSync
  · rfl

theorem syncsAccepted_settling_of_flushed {j : Live σ} (hover : j.overBound = true)
    (hflush : j.flush.result = .ok ()) :
    syncsAccepted j.settling = syncsAccepted [Medium.urged j.flush.after.medium] := by
  rw [settling, if_pos hover, Outcome.ifOk_of_ok hflush]
  exact syncsAccepted_append j.flushing_ofSync _

theorem settle_forced_of_unflushed {j : Live σ} (hover : j.overBound = true) {failure : Failure}
    (hflush : j.flush.result = .error failure) (kept count : Nat) :
    forcedIn (j.settle kept count).events = [] := by
  have hforced : (j.forcedFlush kept).result = .error failure := by
    rw [forcedFlush, Outcome.onFailure_of_error _ hflush]
    exact hflush
  have hevents : (j.forcedFlush kept).events = j.flush.events := by
    rw [forcedFlush, Outcome.onFailure_of_error _ hflush]
  rw [settle_of_forced hover, Outcome.andThen_of_error _ hforced, Outcome.andThen_of_error _ rfl,
    hevents]
  exact j.flush_unforced

theorem settle_forced_of_flushed {j : Live σ} (hover : j.overBound = true)
    (hflush : j.flush.result = .ok ()) (kept count : Nat) :
    forcedIn (j.settle kept count).events =
      List.replicate (syncsAccepted [Medium.urged j.flush.after.medium])
        (.forcedSync j.exposed j.settings.bound) := by
  have hforced : j.forcedFlush kept = j.flush := Outcome.onFailure_of_ok _ hflush
  have hstored := Outcome.andThen_of_ok (fun _ j' => (j'.counted count).sync) hflush
  have hevents : forcedIn (j.flush.andThen fun _ j' => (j'.counted count).sync).events = [] := by
    rw [hstored]
    show forcedIn (j.flush.events ++ (j.flush.after.counted count).sync.events) = []
    rw [sync_events, List.append_nil]
    exact j.flush_unforced
  have hresult : (j.flush.andThen fun _ j' => (j'.counted count).sync).result =
      (j.flush.after.counted count).sync.result := by
    rw [hstored]
  rw [settle_of_forced hover, hforced]
  cases hsync : (Medium.sync j.flush.after.medium).1 with
  | ok value =>
      rw [sync_of_sync (j := j.flush.after.counted count) hsync] at hresult
      rw [Outcome.andThen_of_ok _ hresult, Medium.urged, hsync]
      show forcedIn (_ ++ [.forcedSync j.exposed j.settings.bound]) = _
      rw [forcedIn_append, hevents]
      rfl
  | error error =>
      rw [sync_of_refused (j := j.flush.after.counted count) hsync] at hresult
      rw [Outcome.andThen_of_error _ hresult, Medium.urged, hsync]
      exact hevents

/-- Settling tells of a forced sync exactly if it has asked for one that was
accepted. -/
theorem settle_forced (j : Live σ) (kept count : Nat) :
    forcedIn (j.settle kept count).events =
      List.replicate (syncsAccepted j.settling) (.forcedSync j.exposed j.settings.bound) := by
  cases hover : j.overBound with
  | false =>
      rw [settle_of_within _ _ hover, settling, hover]
      rfl
  | true =>
      cases hflush : j.flush.result with
      | error failure =>
          rw [syncsAccepted_settling_of_unflushed hflush]
          exact settle_forced_of_unflushed hover hflush kept count
      | ok value =>
          rw [syncsAccepted_settling_of_flushed hover hflush]
          exact settle_forced_of_flushed hover hflush kept count

theorem settle_of_accepted {j : Live σ} (kept count : Nat) (h : 0 < syncsAccepted j.settling) :
    (j.settle kept count).result = .ok () ∧ j.settings.Exceeded j.exposed := by
  cases hover : j.overBound with
  | false =>
      rw [settling, hover] at h
      cases h
  | true =>
      refine ⟨?_, j.overBound_iff.mp hover⟩
      cases hflush : j.flush.result with
      | error failure =>
          rw [syncsAccepted_settling_of_unflushed hflush] at h
          cases h
      | ok value =>
          rw [(settle_of_flushed hover hflush kept count).1]
          rw [syncsAccepted_settling_of_flushed hover hflush, Medium.urged] at h
          cases hanswer : (Medium.sync j.flush.after.medium).1 with
          | ok value =>
              exact congrArg Outcome.result
                (sync_of_sync (j := j.flush.after.counted count) hanswer)
          | error error =>
              rw [hanswer] at h
              cases h

/-- A write tells of a forced sync exactly if it has asked for one that was
accepted.  It tells how much was exposed before and with the write, which is more
than the bound; and it has succeeded. -/
theorem write_forced {j : Live σ} {buffer : Buffer} (hbuffer : j.buffer = .ok buffer)
    {data : Bytes} (hdata : data ≠ []) :
    forcedIn (j.write data).events = List.replicate (syncsAccepted (j.writing data))
        (.forcedSync (j.exposed + data.length) j.settings.bound) ∧
      (0 < syncsAccepted (j.writing data) →
        (j.write data).result = .ok () ∧ j.settings.Exceeded (j.exposed + data.length)) := by
  have hroomEvents := j.makeRoom_unforced data.length
  have hplaceEvents := place_unforced (j.makeRoom data.length).after data
  have hbuffered : ∃ buffer, (j.makeRoom data.length).after.buffer = .ok buffer :=
    abiding_buffer.makeRoom ⟨buffer, hbuffer⟩ data.length
  have hsettings : (j.makeRoom data.length).after.settings = j.settings :=
    (abiding_settings j.settings).makeRoom rfl data.length
  rw [write_of_buffer hbuffer hdata, writing,
    syncsAccepted_append (j.makingRoom_ofSync data.length)]
  cases hmade : (j.makeRoom data.length).result with
  | error failure =>
      rw [Outcome.andThen_of_error _ hmade, Outcome.ifOk_of_error hmade]
      exact ⟨hroomEvents, fun h => absurd h (Nat.lt_irrefl 0)⟩
  | ok value =>
      rw [Outcome.andThen_of_ok _ hmade, Outcome.ifOk_of_ok hmade,
        syncsAccepted_append (placing_ofSync (j.makeRoom data.length).after data)]
      cases hput : ((j.makeRoom data.length).after.place data).result with
      | error failure =>
          rw [Outcome.andThen_of_error _ hput, Outcome.ifOk_of_error hput]
          refine ⟨?_, fun h => absurd h (Nat.lt_irrefl 0)⟩
          show forcedIn ((j.makeRoom data.length).events ++ _) = []
          rw [forcedIn_append, hroomEvents, hplaceEvents]
          rfl
      | ok value =>
          have hplaced := exposed_of_place hbuffered hput
          rw [j.exposed_of_makeRoom data.length] at hplaced
          have hkept : ((j.makeRoom data.length).after.place data).after.settings = j.settings :=
            (abiding_settings j.settings).place hsettings data
          rw [Outcome.andThen_of_ok _ hput, Outcome.ifOk_of_ok hput]
          refine ⟨?_, ?_⟩
          · show forcedIn ((j.makeRoom data.length).events ++
              (((j.makeRoom data.length).after.place data).events ++ _)) = _
            rw [forcedIn_append, forcedIn_append, hroomEvents, hplaceEvents, settle_forced,
              hplaced, hkept]
            rfl
          · intro haccepted
            have hsettled := settle_of_accepted (j.makeRoom data.length).after.held.length
              data.length haccepted
            rw [hplaced, hkept] at hsettled
            exact hsettled

end Forced

end Live

/-! ## The log of a run -/

namespace Journal

def Report.told : Report → List Event
  | opened _ events | called _ _ _ events => events
  | asked _ _ => []

/-- The events of all steps, in the order in which they were told. -/
def told (steps : List Step) : List Event := steps.flatMap fun step => step.report.told

@[simp] theorem told_concat (steps : List Step) (last : Step) :
    told (steps ++ [last]) = told steps ++ last.report.told := by
  simp [told]

section Start

variable {σ : Type} [Medium σ]

theorem told_of_start {medium : σ} {settings : Settings} {supply : Supply} {j : Journal σ}
    {events : List Event} (h : start medium settings supply = (.ok j, events)) :
    events.getLast? =
      some (.openedJournal (Medium.position medium) settings.room settings.bound) := by
  unfold start at h
  split at h
  · cases h
  · cases h
    exact List.getLast?_concat

/-- What a call tells leads from the account before to the account after, if the
journal is still live then. -/
theorem report_retold (j : Live σ) (request : Request) :
    ∃ after : Account, j.account.enterAll ((live j).report request).told = some after ∧
      ∀ j' : Live σ, ((live j).perform request).1.after = live j' → after = j'.account := by
  cases request with
  | write data =>
      refine ⟨_, j.write_retold data, ?_⟩
      intro j' hafter
      exact congrArg Live.account (live.inj hafter)
  | flush syncing =>
      refine ⟨_, j.flushAnd_retold syncing, ?_⟩
      intro j' hafter
      exact congrArg Live.account (live.inj hafter)
  | forceWrite =>
      refine ⟨_, j.forceWrite_retold, ?_⟩
      intro j' hafter
      exact congrArg Live.account (live.inj hafter)
  | read dest position length =>
      refine ⟨_, j.read_retold dest position length, ?_⟩
      intro j' hafter
      exact congrArg Live.account (live.inj hafter)
  | close => exact ⟨_, j.lastFlush_retold, nofun⟩

theorem report_unforced (j : Live σ) {request : Request}
    (hrequest : ∀ data, request ≠ .write data) :
    Live.forcedIn ((live j).report request).told = [] := by
  cases request with
  | write data => exact absurd rfl (hrequest data)
  | flush syncing => exact j.flushAnd_unforced syncing
  | forceWrite => exact j.forceWrite_unforced
  | read dest position length =>
      show Live.forcedIn (j.read dest position length).1.events = []
      rw [Live.read_events]
      rfl
  | close => exact j.lastFlush_unforced

theorem told_of_closed (settings : Settings) (medium : σ) (request : Request) :
    ((closed settings medium).report request).told = [] := by
  cases request <;> rfl

end Start

section Runs

variable {σ β : Type} [Medium σ] [Medium β] [Screened σ β]

/-- Whatever was told can be entered, and gives the account of the journal as
long as that is live. -/
theorem Traces.retold {first : Live σ} {steps : List Step} {j : Journal σ}
    (h : Traces (live first) steps j) :
    ∃ after : Account, first.account.enterAll (told steps) = some after ∧
      ∀ j' : Live σ, j = live j' → after = j'.account := by
  induction h with
  | here => exact ⟨_, rfl, fun j' hj => congrArg Live.account (live.inj hj)⟩
  | @called steps j request _ ih =>
      obtain ⟨between, hbefore, hsame⟩ := ih
      cases j with
      | live state =>
          obtain rfl := hsame state rfl
          obtain ⟨after, hcall, hlive⟩ := report_retold state request
          refine ⟨after, ?_, hlive⟩
          rw [told_concat]
          exact (Account.enterAll_of_append hbefore _).trans hcall
      | closed settings medium =>
          refine ⟨between, ?_, ?_⟩
          · rw [told_concat, told_of_closed, List.append_nil]
            exact hbefore
          · intro j' hafter
            rw [perform_closed] at hafter
            cases hafter
  | asked query _ ih =>
      rw [told_concat]
      obtain ⟨after, hbefore, hsame⟩ := ih
      exact ⟨after, (List.append_nil _).symm ▸ hbefore, hsame⟩
  | @meddled steps j medium _ _ ih =>
      obtain ⟨after, hbefore, hsame⟩ := ih
      refine ⟨after, hbefore, ?_⟩
      intro j' hj
      cases j with
      | live state =>
          obtain rfl := live.inj hj
          exact hsame state rfl
      | closed settings old => cases hj

/-- The log, begun at `start`, replays to the journal: all of it can be entered, and what
it comes to is what the journal answers. -/
structure ReplaysTo (start : Nat) (log : List Event) (j : Live σ) : Prop where
  account_eq : Account.enterAll ⟨start, 0, 0, 0⟩ log = some j.account
  appends_eq : log.countP Event.moves = j.tally.appends
  bytesFlushed_eq : Event.allMoved log = j.tally.bytesFlushed
  straightThrough_eq : log.countP Event.isStraight = j.tally.straightThrough

/-- A write tells of a forced sync as often as it gets one, and of how much was exposed
then; with that it has succeeded, and so much was too much.  No other call tells of
one. -/
structure TellsForced (bound : Int64) (j : Live σ) : Prop where
  write (data : Bytes) :
    Live.forcedIn (j.write data).events =
      List.replicate (syncsAccepted ((live j).exchanges (.write data)))
        (.forcedSync (j.exposed + data.length) bound)
  justified (data : Bytes) (h : 0 < syncsAccepted ((live j).exchanges (.write data))) :
    (j.write data).result = .ok () ∧ j.settings.Exceeded (j.exposed + data.length)
  other (request : Request) (h : ∀ data, request ≠ .write data) :
    Live.forcedIn ((live j).report request).told = []

/-- Closing tells where the stream ends, or how much of it is lost and why. -/
def TellsClosing (j : Live σ) : Prop :=
  ((live j).close.result = .ok () ∧
      ∃ moved : List Event, (∀ event ∈ moved, event.moves) ∧
        (live j).close.events = moved ++ [.closed j.logicalEnd]) ∨
    ∃ failure, (live j).close.result = .error failure ∧
      (live j).close.events = [.lostOnClose failure (j.logicalEnd - j.boundary)]

theorem tellsForced (j : Live σ) : TellsForced j.settings.bound j := by
  have hwrite : ∀ data : Bytes,
      Live.forcedIn (j.write data).events =
          List.replicate (syncsAccepted ((live j).exchanges (.write data)))
            (.forcedSync (j.exposed + data.length) j.settings.bound) ∧
        (0 < syncsAccepted ((live j).exchanges (.write data)) →
          (j.write data).result = .ok () ∧ j.settings.Exceeded (j.exposed + data.length)) := by
    intro data
    cases hbuffer : j.buffer with
    | error shortage =>
        rw [exchanges_write_of_shortage hbuffer, Live.write_of_shortage hbuffer]
        exact ⟨rfl, fun h => absurd h (Nat.lt_irrefl 0)⟩
    | ok buffer =>
        by_cases hdata : data = []
        · rw [hdata, exchanges_write_nil hbuffer, Live.write_nil hbuffer]
          exact ⟨rfl, fun h => absurd h (Nat.lt_irrefl 0)⟩
        · rw [exchanges_write hbuffer hdata]
          exact Live.write_forced hbuffer hdata
  exact
    { write := fun data => (hwrite data).1
      justified := fun data => (hwrite data).2
      other := fun _ => report_unforced j }

/-- **The events replay to the state.**  Open a journal over any medium and follow
it through any run, whatever the medium answers.  Starting from the position that
is told when it is opened, all events can be entered into an account one after the
other, those of the last drop included.  As long as the journal is live the account
is its own: how far it has been flushed, and how many appends there were, of how
many bytes, how many of them past the tail.  A write tells of a forced sync exactly
if such a sync was accepted, and of how much was exposed, which was too much;
nothing else tells of one.  And closing tells where the stream ends, or how much of
it is lost. -/
theorem events_replay {medium : σ} {settings : Settings} {supply : Supply}
    {opened : Journal σ} {events : List Event}
    (hstart : start medium settings supply = (.ok opened, events)) {steps : List Step}
    {j : Journal σ} (hrun : Traces opened steps j) :
    events.getLast? =
        some (.openedJournal (Medium.position medium) settings.room settings.bound) ∧
      (∃ last : Account,
        Account.enterAll ⟨Medium.position medium, 0, 0, 0⟩ (told steps ++ j.drop.2) =
          some last) ∧
      ∀ state : Live σ, j = live state →
        ReplaysTo (Medium.position medium) (told steps) state ∧
          TellsForced settings.bound state ∧ TellsClosing state := by
  rw [eq_fresh_of_start hstart] at hrun
  obtain ⟨after, htold, hsame⟩ := hrun.retold
  have hentered : Account.enterAll ⟨Medium.position medium, 0, 0, 0⟩ (told steps) = some after :=
    htold
  refine ⟨told_of_start hstart, ?_, ?_⟩
  · rw [Account.enterAll_of_append hentered]
    cases j with
    | closed settings medium => exact ⟨after, rfl⟩
    | live state =>
        rw [hsame state rfl]
        exact state.drop_retold
  · rintro state rfl
    obtain rfl := hsame state rfl
    obtain ⟨happends, hbytes, hstraight⟩ := Account.figures_of_enterAll hentered
    rw [Nat.zero_add] at happends hbytes hstraight
    have hsettings : state.settings = settings :=
      hrun.live_induction (P := fun _ last => last.settings = settings) rfl
        (fun _ _ _ _ h hafter => abiding_perform (Live.abiding_settings settings) h hafter)
        (fun _ _ _ h => h) (fun _ _ _ h _ => h)
    exact ⟨⟨hentered, happends.symm, hbytes.symm, hstraight.symm⟩, hsettings ▸ tellsForced state,
      state.lastFlush_told⟩

/-- A journal that holds two bytes, over a byte. -/
def holding (panel : Rig.Panel) : Live (Rigged InMemory) :=
  { settings := { capacity := 4, bound := 3 }
    medium := ⟨[panel], .holding [9]⟩
    buffer := .ok ⟨4, [1, 2]⟩
    boundary := 1
    tally := { writes := 1, bytesWritten := 2 } }

def settled : Live (Rigged InMemory) :=
  { settings := { capacity := 4, bound := 3 }
    medium := ⟨[{ appends := 3, syncs := 1 }], ⟨[9, 1, 2, 3, 4, 5], 6⟩⟩
    buffer := .ok ⟨4, []⟩
    boundary := 6
    tally := { writes := 2, bytesWritten := 5, appends := 2, bytesFlushed := 5, syncs := 1 } }

/-- A flush that is refused is not told of, and nor is the write that wanted it.  Then
two flushes and a forced sync are. -/
theorem events_replay_after_refusal :
    ∃ (opened : Journal (Rigged InMemory)) (events : List Event) (steps : List Step)
      (last : Account),
      start (Rigged.behind 1 (InMemory.holding [9])) { capacity := 4, bound := 3 } .heap =
          (.ok opened, events) ∧
        Traces opened steps (live settled) ∧
        told steps = [.flushed 2 3, .flushed 3 6, .forcedSync 5 3] ∧
        Account.enterAll ⟨1, 0, 0, 0⟩ (told steps) = some ⟨6, 2, 5, 0⟩ ∧
        Account.enterAll ⟨1, 0, 0, 0⟩ (told steps ++ (live settled).drop.2) = some last := by
  have hstart : start (Rigged.behind 1 (InMemory.holding [9])) { capacity := 4, bound := 3 }
      .heap = (.ok _, _) := rfl
  have hopened : Traces (live (Live.fresh (Rigged.behind 1 (InMemory.holding [9]))
      { capacity := 4, bound := 3 } .heap)) [] _ := .here
  have hwritten : Traces _ _ (live (holding {})) := hopened.called (.write [1, 2])
  have hjammed : Traces _ _ (live (holding { writeAppend := some .once })) :=
    hwritten.meddled ⟨0, .arm .writeAppend .once, rfl⟩
  have hrefused : Traces _ _ (live (holding { appends := 1 })) :=
    hjammed.called (.write [3, 4, 5])
  have hsettled : Traces _ _ (live settled) := hrefused.called (.write [3, 4, 5])
  obtain ⟨-, ⟨last, hdropped⟩, hlive⟩ := events_replay hstart hsettled
  exact ⟨_, _, _, last, hstart, hsettled, rfl, (hlive settled rfl).1.account_eq, hdropped⟩

end Runs

end Journal

end WriteBack
