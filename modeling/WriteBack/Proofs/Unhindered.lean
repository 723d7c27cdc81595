/-
# Unhindered — what a write asks of a medium that accepts everything

What a write asks of its medium is what its stages ask one after the other,
each as long as nothing before it failed (`Live.writing`).

If nothing fails at all the whole of it can be told beforehand, from four
numbers: how many bytes the tail holds, how many it has room for, how many are
to be written, and whether with them too many are exposed.  The last is asked
of all bytes together, so that it makes no difference to it whether the tail
was flushed on the way.  `Live.appending` lists what is appended, `Live.Forces`
says when a sync follows, and `write_unhindered` says that this is all.
-/
import WriteBack.Proofs.Landing
import WriteBack.Proofs.Recording

namespace WriteBack

/-! ## Sequences on record -/

/-- What is made of the state after a call that succeeded; nothing is made of
one that failed. -/
def Outcome.ifOk {State α β : Type} (call : Outcome State α) (f : State → List β) : List β :=
  match call.result with
  | .ok _ => f call.after
  | .error _ => []

theorem Outcome.ifOk_of_ok {State α β : Type} {call : Outcome State α} {value : α}
    (h : call.result = .ok value) (f : State → List β) : call.ifOk f = f call.after := by
  rw [ifOk, h]

theorem Outcome.ifOk_of_error {State α β : Type} {call : Outcome State α} {failure : Failure}
    (h : call.result = .error failure) (f : State → List β) : call.ifOk f = [] := by
  rw [ifOk, h]

/-- A sequence asks what its first part asks, and if that succeeds what the
rest asks. -/
theorem Outcome.andThen_recording {σ α γ : Type} {first : Outcome (Live σ) α}
    {first' : Outcome (Live (Recorded σ)) α} {next : α → Live σ → Outcome (Live σ) γ}
    {next' : α → Live (Recorded σ) → Outcome (Live (Recorded σ)) γ} {log : List Exchange}
    {asks : Live σ → List Exchange} (hfirst : first' = first.lift (·.recording log))
    (hnext : ∀ (value : α) (state : Live σ) (log : List Exchange),
      next' value (state.recording log) =
        (next value state).lift (·.recording (log ++ asks state))) :
    first'.andThen next' = (first.andThen next).lift (·.recording (log ++ first.ifOk asks)) := by
  obtain ⟨result, after, events⟩ := first
  rw [hfirst]
  cases result with
  | ok value =>
      show Outcome.mk _ _ _ = Outcome.mk _ _ _
      simp only [lift, hnext]
      rfl
  | error failure =>
      show Outcome.mk _ _ _ = Outcome.mk _ _ _
      rw [ifOk, List.append_nil]
      rfl

theorem Outcome.andThen_told {State State' : Type} (call : Outcome State Unit)
    (wrap : State → State') (events : List Event) :
    ((call.lift wrap).andThen fun _ state => ⟨.ok (), state, events⟩) =
      (call.andThen fun _ state => ⟨.ok (), state, events⟩).lift wrap := by
  obtain ⟨result, after, told⟩ := call
  cases result with
  | ok value => rfl
  | error failure => rfl

theorem Outcome.told_eq {State : Type} (call : Outcome State Unit) (events : List Event) :
    (call.andThen fun _ state => ⟨.ok (), state, events⟩).result = call.result ∧
      (call.andThen fun _ state => ⟨.ok (), state, events⟩).after = call.after := by
  obtain ⟨result, after, told⟩ := call
  cases result with
  | ok value => exact ⟨rfl, rfl⟩
  | error failure => exact ⟨rfl, rfl⟩

/-! ## The stages of a write on record -/

def Medium.offered {σ : Type} [Medium σ] (m : σ) (data : Bytes) : Exchange :=
  ⟨.append data, .accepted (Medium.append m data).1⟩

def Medium.urged {σ : Type} [Medium σ] (m : σ) : Exchange :=
  ⟨.sync, .accepted (Medium.sync m).1⟩

namespace Live

section Stages

variable {σ : Type} [Medium σ]

def makingRoom (j : Live σ) (count : Nat) : List Exchange :=
  if j.settings.room < j.held.length + count then j.flushing else []

def placing (j : Live σ) (data : Bytes) : List Exchange :=
  if j.settings.room < data.length then [Medium.offered j.medium data] else []

def settling (j : Live σ) : List Exchange :=
  if j.overBound then
    j.flushing ++ j.flush.ifOk fun flushed => [Medium.urged flushed.medium]
  else []

/-- What a write asks of the medium, if there is something to be written. -/
def writing (j : Live σ) (data : Bytes) : List Exchange :=
  j.makingRoom data.length ++ (j.makeRoom data.length).ifOk fun roomy =>
    roomy.placing data ++ (roomy.place data).ifOk settling

theorem makeRoom_recording (j : Live σ) (count : Nat) (log : List Exchange) :
    (j.recording log).makeRoom count =
      (j.makeRoom count).lift (·.recording (log ++ j.makingRoom count)) := by
  by_cases hfull : j.settings.room < j.held.length + count
  · have hfull' : (j.recording log).settings.room < (j.recording log).held.length + count := hfull
    rw [makeRoom, makeRoom, makingRoom, if_pos hfull, if_pos hfull, if_pos hfull']
    exact flush_recording j log
  · have hfits' : ¬ (j.recording log).settings.room < (j.recording log).held.length + count :=
      hfull
    rw [makeRoom, makeRoom, makingRoom, if_neg hfull, if_neg hfull, if_neg hfits',
      List.append_nil]
    rfl

theorem writeThrough_recording (j : Live σ) (data : Bytes) (log : List Exchange) :
    (j.recording log).writeThrough data =
      (j.writeThrough data).lift (·.recording (log ++ [Medium.offered j.medium data])) := by
  have happend : Medium.append (j.recording log).medium data =
      ((Medium.append j.medium data).1, ⟨(Medium.append j.medium data).2,
        log ++ [Medium.offered j.medium data]⟩) := rfl
  rw [writeThrough, writeThrough, happend]
  cases Medium.append j.medium data with
  | mk answer medium =>
      cases answer with
      | ok value => rfl
      | error error => rfl

theorem place_recording (j : Live σ) (data : Bytes) (log : List Exchange) :
    (j.recording log).place data =
      (j.place data).lift (·.recording (log ++ j.placing data)) := by
  by_cases hlarge : j.settings.room < data.length
  · have hlarge' : (j.recording log).settings.room < data.length := hlarge
    rw [place_of_lt hlarge, place_of_lt hlarge', placing, if_pos hlarge]
    exact writeThrough_recording j data log
  · have hle := Nat.le_of_not_lt hlarge
    have hle' : data.length ≤ (j.recording log).settings.room := hle
    rw [place_of_le hle, place_of_le hle', placing, if_neg hlarge, List.append_nil]
    rfl

/-- A forced flush, whose failure takes back what was placed last. -/
def forcedFlush (j : Live σ) (kept : Nat) : Outcome (Live σ) Unit :=
  j.flush.onFailure fun j' => j'.withHeld (j'.held.take kept)

theorem settle_of_forced {j : Live σ} (hover : j.overBound = true) (kept count : Nat) :
    j.settle kept count =
      ((j.forcedFlush kept).andThen fun _ j' => (j'.counted count).sync).andThen
        fun _ j' => ⟨.ok (), j', [.forcedSync j.exposed j.settings.bound]⟩ := by
  rw [settle, if_pos hover]
  rfl

theorem settle_of_flushed {j : Live σ} (hover : j.overBound = true)
    (hflush : j.flush.result = .ok ()) (kept count : Nat) :
    (j.settle kept count).result = (j.flush.after.counted count).sync.result ∧
      (j.settle kept count).after = (j.flush.after.counted count).sync.after := by
  have hforced : j.forcedFlush kept = j.flush := Outcome.onFailure_of_ok _ hflush
  have htold := Outcome.told_eq (j.flush.andThen fun _ j' => (j'.counted count).sync)
    [.forcedSync j.exposed j.settings.bound]
  rw [settle_of_forced hover, hforced, htold.1, htold.2, Outcome.andThen_of_ok _ hflush]
  exact ⟨rfl, rfl⟩

theorem settle_of_unflushed {j : Live σ} (hover : j.overBound = true) {failure : Failure}
    (hflush : j.flush.result = .error failure) (kept count : Nat) :
    (j.settle kept count).result = .error failure ∧
      (j.settle kept count).after =
        j.flush.after.withHeld (j.flush.after.held.take kept) := by
  have hforced : (j.forcedFlush kept).result = .error failure := by
    rw [forcedFlush, Outcome.onFailure_of_error _ hflush]
    exact hflush
  have hafter : (j.forcedFlush kept).after =
      j.flush.after.withHeld (j.flush.after.held.take kept) := by
    rw [forcedFlush, Outcome.onFailure_of_error _ hflush]
  have htold := Outcome.told_eq ((j.forcedFlush kept).andThen fun _ j' => (j'.counted count).sync)
    [.forcedSync j.exposed j.settings.bound]
  rw [settle_of_forced hover, htold.1, htold.2, Outcome.andThen_of_error _ hforced, hafter]
  exact ⟨rfl, rfl⟩

theorem forcedFlush_recording (j : Live σ) (kept : Nat) (log : List Exchange) :
    (j.recording log).forcedFlush kept =
      (j.forcedFlush kept).lift (·.recording (log ++ j.flushing)) := by
  rw [forcedFlush, forcedFlush, flush_recording]
  cases hresult : j.flush.result with
  | ok value =>
      rw [Outcome.onFailure_of_ok _ hresult]
      exact Outcome.onFailure_of_ok _ hresult
  | error failure =>
      rw [Outcome.onFailure_of_error _ hresult]
      exact Outcome.onFailure_of_error _ hresult

theorem forcedFlush_ifOk {α : Type} (j : Live σ) (kept : Nat) (f : Live σ → List α) :
    (j.forcedFlush kept).ifOk f = j.flush.ifOk f := by
  rw [forcedFlush, Outcome.onFailure]
  cases hresult : j.flush.result with
  | ok value => rfl
  | error failure => rw [Outcome.ifOk, Outcome.ifOk, hresult]

theorem settle_recording (j : Live σ) (kept count : Nat) (log : List Exchange) :
    (j.recording log).settle kept count =
      (j.settle kept count).lift (·.recording (log ++ j.settling)) := by
  cases hover : j.overBound with
  | false =>
      have hover' : (j.recording log).overBound = false := hover
      have hsettling : j.settling = [] := by
        rw [settling, hover]
        rfl
      rw [settle_of_within _ _ hover, settle_of_within _ _ hover', hsettling, List.append_nil]
      rfl
  | true =>
      have hover' : (j.recording log).overBound = true := hover
      have hsettling : j.settling =
          j.flushing ++ j.flush.ifOk fun flushed => [Medium.urged flushed.medium] := by
        rw [settling, hover]
        rfl
      have hstored : ((j.recording log).forcedFlush kept).andThen
          (fun _ j' => (j'.counted count).sync) =
            ((j.forcedFlush kept).andThen fun _ j' => (j'.counted count).sync).lift
              (·.recording (log ++ j.settling)) := by
        rw [hsettling, ← forcedFlush_ifOk j kept, ← List.append_assoc]
        apply Outcome.andThen_recording (forcedFlush_recording j kept log)
        intro _ state log
        exact sync_recording (state.counted count) log
      rw [settle_of_forced hover, settle_of_forced hover', hstored]
      exact Outcome.andThen_told _ _ _

theorem write_recording {j : Live σ} {buffer : Buffer} (hbuffer : j.buffer = .ok buffer)
    {data : Bytes} (hdata : data ≠ []) (log : List Exchange) :
    (j.recording log).write data =
      (j.write data).lift (·.recording (log ++ j.writing data)) := by
  have hbuffer' : (j.recording log).buffer = .ok buffer := hbuffer
  rw [write_of_buffer hbuffer hdata, write_of_buffer hbuffer' hdata, writing,
    ← List.append_assoc]
  apply Outcome.andThen_recording (makeRoom_recording j data.length log)
  intro _ roomy log
  rw [← List.append_assoc]
  apply Outcome.andThen_recording (place_recording roomy data log)
  intro _ placed log
  exact settle_recording placed roomy.held.length data.length log

end Stages

end Live

/-! ## Stages at which nothing fails -/

def Exchange.appended (data : Bytes) : Exchange := ⟨.append data, .accepted (.ok ())⟩

def Exchange.synced : Exchange := ⟨.sync, .accepted (.ok ())⟩

theorem Exchange.answer_of_spared {call : Medium.Call} {answer : Except MediumError Unit}
    (h : ¬ Exchange.Fails ⟨call, .accepted answer⟩) : answer = .ok () := by
  cases answer with
  | ok value => rfl
  | error error => exact absurd ⟨error, rfl⟩ h

/-- So many exposed bytes are more than the settings tolerate. -/
def Settings.Exceeded (settings : Settings) (exposed : Nat) : Prop :=
  0 < settings.bound.toInt ∧ settings.bound.toInt < exposed

instance (settings : Settings) : DecidablePred settings.Exceeded := fun exposed =>
  inferInstanceAs (Decidable (0 < settings.bound.toInt ∧ settings.bound.toInt < exposed))

namespace Live

theorem overBound_iff {σ : Type} (j : Live σ) :
    j.overBound = true ↔ j.settings.Exceeded j.exposed := by
  rw [overBound, Bool.and_eq_true, Settings.syncsForced, decide_eq_true_iff, decide_eq_true_iff,
    Int64.lt_iff_toInt_lt]
  rfl

section Spared

variable {σ : Type} {j : Live σ} {settings : Settings} {held : Bytes} {unsynced : Nat}

/-- The journal has a buffer, these settings, this tail and so many unsynced
bytes; a write goes by nothing else. -/
structure Poised (j : Live σ) (settings : Settings) (held : Bytes) (unsynced : Nat) : Prop where
  buffered : ∃ buffer, j.buffer = .ok buffer
  settings_eq : j.settings = settings
  held_eq : j.held = held
  unsynced_eq : j.unsynced = unsynced

theorem Poised.withHeld (h : j.Poised settings held unsynced) (held' : Bytes) :
    (j.withHeld held').Poised settings held' unsynced := by
  obtain ⟨buffer, hbuffer⟩ := h.buffered
  refine ⟨⟨{ buffer with held := held' }, ?_⟩, h.settings_eq, held_withHeld hbuffer held',
    h.unsynced_eq⟩
  show Except.map _ j.buffer = _
  rw [hbuffer]
  rfl

theorem Poised.booked (h : j.Poised settings held unsynced) (count : Nat) :
    (j.booked count).Poised settings held (unsynced + count) :=
  ⟨h.buffered, h.settings_eq, h.held_eq, congrArg (· + count) h.unsynced_eq⟩

variable [Medium σ]

theorem Poised.flush (h : j.Poised settings held unsynced)
    (hspared : ∀ exchange ∈ j.flushing, ¬ exchange.Fails) :
    j.flush.result = .ok () ∧ j.flush.after.Poised settings [] (unsynced + held.length) ∧
      j.flushing = if held = [] then [] else [.appended held] := by
  obtain rfl := h.held_eq
  by_cases hheld : j.held = []
  · rw [flush_of_nil hheld, flushing_of_nil hheld, if_pos hheld, hheld]
    exact ⟨rfl, ⟨h.buffered, h.settings_eq, hheld, h.unsynced_eq⟩, rfl⟩
  · have hmem : Medium.offered j.medium j.held ∈ j.flushing := by
      rw [flushing, if_neg hheld]
      exact List.mem_singleton_self _
    have happend := Exchange.answer_of_spared (hspared _ hmem)
    rw [flush_of_append hheld happend, flushing, if_neg hheld, if_neg hheld, happend]
    refine ⟨rfl, ?_, rfl⟩
    have hmoved : ({ j with medium := (Medium.append j.medium j.held).2 } : Live σ).Poised
        settings j.held unsynced := ⟨h.buffered, h.settings_eq, rfl, h.unsynced_eq⟩
    exact (hmoved.withHeld []).booked j.held.length

theorem Poised.sync (h : j.Poised settings held unsynced)
    (hspared : ¬ (Medium.urged j.medium).Fails) :
    j.sync.result = .ok () ∧ j.sync.after.Poised settings held 0 ∧
      Medium.urged j.medium = .synced := by
  have hsync := Exchange.answer_of_spared hspared
  rw [sync_of_sync hsync, Medium.urged, hsync]
  exact ⟨rfl, ⟨h.buffered, h.settings_eq, h.held_eq, rfl⟩, rfl⟩

theorem Poised.makeRoom (h : j.Poised settings held unsynced) {count : Nat}
    (hspared : ∀ exchange ∈ j.makingRoom count, ¬ exchange.Fails) :
    (j.makeRoom count).result = .ok () ∧
      (j.makeRoom count).after.Poised settings
        (if settings.room < held.length + count then [] else held)
        (unsynced + if settings.room < held.length + count then held.length else 0) ∧
      j.makingRoom count =
        if held ≠ [] ∧ settings.room < held.length + count then [.appended held] else [] := by
  obtain rfl := h.held_eq
  obtain rfl := h.settings_eq
  rw [makingRoom] at hspared ⊢
  rw [Live.makeRoom]
  by_cases hfull : j.settings.room < j.held.length + count
  · simp only [if_pos hfull] at hspared ⊢
    obtain ⟨hresult, hafter, hasked⟩ := h.flush hspared
    refine ⟨hresult, hafter, ?_⟩
    by_cases hheld : j.held = []
    · rw [hasked, if_pos hheld, if_neg fun hboth => hboth.1 hheld]
    · rw [hasked, if_neg hheld, if_pos ⟨hheld, hfull⟩]
  · simp only [if_neg hfull]
    rw [if_neg fun hboth => hfull hboth.2]
    exact ⟨rfl, h, rfl⟩

theorem Poised.place (h : j.Poised settings held unsynced) {data : Bytes}
    (hspared : ∀ exchange ∈ j.placing data, ¬ exchange.Fails) :
    (j.place data).result = .ok () ∧
      (j.place data).after.Poised settings
        (if settings.room < data.length then held else held ++ data)
        (unsynced + if settings.room < data.length then data.length else 0) ∧
      j.placing data = if settings.room < data.length then [.appended data] else [] := by
  obtain rfl := h.held_eq
  obtain rfl := h.settings_eq
  rw [placing] at hspared ⊢
  by_cases hlarge : j.settings.room < data.length
  · simp only [if_pos hlarge] at hspared ⊢
    have happend := Exchange.answer_of_spared (hspared _ (List.mem_singleton_self _))
    rw [place_of_lt hlarge, writeThrough_of_append happend, Medium.offered, happend]
    refine ⟨rfl, ?_, rfl⟩
    have hmoved : ({ j with medium := (Medium.append j.medium data).2 } : Live σ).Poised
        j.settings j.held unsynced := ⟨h.buffered, rfl, rfl, h.unsynced_eq⟩
    exact ⟨(hmoved.booked data.length).buffered, rfl, rfl,
      (hmoved.booked data.length).unsynced_eq⟩
  · simp only [if_neg hlarge]
    rw [place_of_le (Nat.le_of_not_lt hlarge)]
    exact ⟨rfl, h.withHeld (j.held ++ data), trivial⟩

theorem Poised.settle (h : j.Poised settings held unsynced) (kept count : Nat)
    (hspared : ∀ exchange ∈ j.settling, ¬ exchange.Fails) :
    (j.settle kept count).result = .ok () ∧
      (j.settle kept count).after.Poised settings
        (if settings.Exceeded (unsynced + held.length) then [] else held)
        (if settings.Exceeded (unsynced + held.length) then 0 else unsynced) ∧
      j.settling =
        if settings.Exceeded (unsynced + held.length) then
          (if held = [] then [] else [.appended held]) ++ [.synced]
        else [] := by
  have hover : j.overBound = true ↔ settings.Exceeded (unsynced + held.length) := by
    rw [overBound_iff, exposed, h.settings_eq, h.held_eq, h.unsynced_eq]
  by_cases hforced : settings.Exceeded (unsynced + held.length)
  · have htrue := hover.mpr hforced
    simp only [if_pos hforced]
    rw [settling, if_pos htrue] at hspared ⊢
    obtain ⟨hflushing, hlast⟩ := List.forall_mem_append.mp hspared
    obtain ⟨hflushed, hafter, hasked⟩ := h.flush hflushing
    rw [Outcome.ifOk_of_ok hflushed] at hlast ⊢
    have hcounted : (j.flush.after.counted count).Poised settings [] (unsynced + held.length) :=
      ⟨hafter.buffered, hafter.settings_eq, hafter.held_eq, hafter.unsynced_eq⟩
    obtain ⟨hsynced, hend, hurged⟩ := hcounted.sync (hlast _ (List.mem_singleton_self _))
    obtain ⟨hresult, hstate⟩ := settle_of_flushed htrue hflushed kept count
    rw [hresult, hstate, hasked]
    refine ⟨hsynced, hend, ?_⟩
    exact congrArg (fun urged => _ ++ [urged]) hurged
  · have hfalse : j.overBound = false := Bool.eq_false_iff.mpr fun htrue => hforced (hover.mp htrue)
    simp only [if_neg hforced]
    rw [settle_of_within _ _ hfalse, settling, hfalse]
    exact ⟨rfl, ⟨h.buffered, h.settings_eq, h.held_eq, h.unsynced_eq⟩, rfl⟩

end Spared

/-! ## The whole write -/

section Whole

variable {σ : Type}

/-- Writing the data would leave more bytes exposed than the settings tolerate,
so that a sync is forced. -/
def Forces (j : Live σ) (data : Bytes) : Prop :=
  j.settings.Exceeded (j.unsynced + j.held.length + data.length)

instance (j : Live σ) : DecidablePred j.Forces := fun _ =>
  inferInstanceAs (Decidable (j.settings.Exceeded _))

/-- The tail with the data behind it, or the data alone if both have no room
side by side. -/
def joined (j : Live σ) (data : Bytes) : Bytes :=
  if j.settings.room < j.held.length + data.length then data else j.held ++ data

/-- What is appended when the data is written: first a tail that is in the way,
then data that is too large for any tail, and before a forced sync whatever else
the tail has come to hold. -/
def appending (j : Live σ) (data : Bytes) : List Bytes :=
  (if j.held ≠ [] ∧ j.settings.room < j.held.length + data.length then [j.held] else []) ++
    (if j.settings.room < data.length then [data] else []) ++
      if j.Forces data ∧ data.length ≤ j.settings.room then [j.joined data] else []

theorem joined_ne_nil (j : Live σ) {data : Bytes} (hdata : data ≠ []) : j.joined data ≠ [] := by
  rw [joined]
  split
  · exact hdata
  · exact List.append_ne_nil_of_right_ne_nil _ hdata

theorem nil_notMem_appending (j : Live σ) {data : Bytes} (hdata : data ≠ []) :
    [] ∉ j.appending data := by
  intro hmem
  rw [appending] at hmem
  rcases List.mem_append.mp hmem with hmem | hmem
  · rcases List.mem_append.mp hmem with hmem | hmem
    · split at hmem
      · next hway => exact hway.1 (List.mem_singleton.mp hmem).symm
      · cases hmem
    · split at hmem
      · exact hdata (List.mem_singleton.mp hmem).symm
      · cases hmem
  · split at hmem
    · exact j.joined_ne_nil hdata (List.mem_singleton.mp hmem).symm
    · cases hmem

theorem appending_of_calm {j : Live σ} {data : Bytes} (hcalm : ¬ j.Forces data) :
    j.appending data =
      (if j.held ≠ [] ∧ j.settings.room < j.held.length + data.length then [j.held] else []) ++
        if j.settings.room < data.length then [data] else [] := by
  have hlast : ¬ (j.Forces data ∧ data.length ≤ j.settings.room) := fun h => hcalm h.1
  rw [appending, if_neg hlast, List.append_nil]

theorem map_appended (j : Live σ) (data : Bytes) :
    (j.appending data).map Exchange.appended =
      (if j.held ≠ [] ∧ j.settings.room < j.held.length + data.length then
          [Exchange.appended j.held]
        else []) ++
        (if j.settings.room < data.length then [Exchange.appended data] else []) ++
          if j.Forces data ∧ data.length ≤ j.settings.room then
            [Exchange.appended (j.joined data)]
          else [] := by
  simp only [appending, List.map_append, apply_ite (List.map Exchange.appended), List.map_cons,
    List.map_nil]

theorem length_appending_le (j : Live σ) (data : Bytes) : (j.appending data).length ≤ 2 := by
  rw [appending, List.length_append, List.length_append]
  by_cases hlarge : j.settings.room < data.length
  · have hlast : ¬ (j.Forces data ∧ data.length ≤ j.settings.room) :=
      fun h => Nat.not_lt_of_le h.2 hlarge
    rw [if_pos hlarge, if_neg hlast]
    split <;> simp
  · rw [if_neg hlarge]
    split <;> split <;> simp

theorem appending_eq_nil_iff {j : Live σ} {data : Bytes} (hcalm : ¬ j.Forces data) :
    j.appending data = [] ↔ j.held.length + data.length ≤ j.settings.room := by
  have hempty : j.held = [] ↔ j.held.length = 0 := List.length_eq_zero_iff.symm
  rw [appending_of_calm hcalm, List.append_eq_nil_iff]
  simp only [ite_eq_right_iff, List.cons_ne_nil, imp_false, ne_eq, hempty]
  omega

theorem length_flatten_appending {j : Live σ} {data : Bytes} (hcalm : ¬ j.Forces data) :
    (j.appending data).flatten.length =
      (if j.settings.room < j.held.length + data.length then j.held.length else 0) +
        if j.settings.room < data.length then data.length else 0 := by
  rw [appending_of_calm hcalm, List.flatten_append, List.length_append]
  congr 1
  · by_cases hheld : j.held = []
    · rw [if_neg fun h => h.1 hheld, hheld, List.length_nil, ite_self]
      rfl
    · simp only [ne_eq, hheld, not_false_eq_true, true_and]
      split <;> simp
  · split <;> simp

theorem placed_tail (j : Live σ) (data : Bytes) :
    (if j.settings.room < data.length then
        if j.settings.room < j.held.length + data.length then [] else j.held
      else
        (if j.settings.room < j.held.length + data.length then [] else j.held) ++ data) =
      if j.settings.room < data.length then [] else j.joined data := by
  by_cases hlarge : j.settings.room < data.length
  · rw [if_pos hlarge, if_pos hlarge, if_pos (Nat.lt_add_left _ hlarge)]
  · rw [if_neg hlarge, if_neg hlarge, joined]
    split <;> rfl

theorem placed_sum (j : Live σ) (data : Bytes) :
    j.unsynced + (if j.settings.room < j.held.length + data.length then j.held.length else 0) +
        (if j.settings.room < data.length then data.length else 0) +
        (if j.settings.room < data.length then [] else j.joined data).length =
      j.unsynced + j.held.length + data.length := by
  by_cases hlarge : j.settings.room < data.length
  · rw [if_pos hlarge, if_pos hlarge, if_pos (Nat.lt_add_left _ hlarge)]
    rfl
  · rw [if_neg hlarge, if_neg hlarge, joined]
    by_cases hfull : j.settings.room < j.held.length + data.length
    · rw [if_pos hfull, if_pos hfull, Nat.add_zero]
    · rw [if_neg hfull, if_neg hfull, List.length_append]
      omega

variable [Medium σ]

/-- A write of which nothing fails, stage by stage. -/
theorem write_spared {j : Live σ} {buffer : Buffer} (hbuffer : j.buffer = .ok buffer)
    {data : Bytes} (hdata : data ≠ [])
    (hspared : ∀ exchange ∈ j.writing data, ¬ exchange.Fails) :
    (j.write data).result = .ok () ∧
      (j.write data).after.Poised j.settings
        (if j.Forces data ∨ j.settings.room < data.length then [] else j.joined data)
        (if j.Forces data then 0
          else j.unsynced + (j.appending data).flatten.length) ∧
      j.writing data =
        (j.appending data).map .appended ++ if j.Forces data then [.synced] else [] := by
  have hpoised : j.Poised j.settings j.held j.unsynced := ⟨⟨buffer, hbuffer⟩, rfl, rfl, rfl⟩
  -- each stage is spared and so succeeds, which is what brings the exchanges of the
  -- next one into those of the write
  obtain ⟨hroom, hrest⟩ := List.forall_mem_append.mp hspared
  obtain ⟨hroomy, hroomyPoised, hroomyAsked⟩ := hpoised.makeRoom hroom
  rw [Outcome.ifOk_of_ok hroomy] at hrest
  obtain ⟨hplace, hsettle⟩ := List.forall_mem_append.mp hrest
  obtain ⟨hplaced, hplacedPoised, hplacedAsked⟩ := hroomyPoised.place hplace
  rw [Outcome.ifOk_of_ok hplaced] at hsettle
  obtain ⟨hsettled, hlast, hlastAsked⟩ :=
    hplacedPoised.settle (j.makeRoom data.length).after.held.length data.length hsettle
  rw [placed_tail, placed_sum] at hlast hlastAsked
  have hwrite : j.write data =
      (j.makeRoom data.length).andThen fun _ roomy =>
        (roomy.place data).andThen fun _ placed =>
          placed.settle roomy.held.length data.length := write_of_buffer hbuffer hdata
  rw [Outcome.andThen_of_ok _ hroomy, Outcome.andThen_of_ok _ hplaced] at hwrite
  rw [hwrite, writing, Outcome.ifOk_of_ok hroomy, Outcome.ifOk_of_ok hplaced, hroomyAsked,
    hplacedAsked, hlastAsked]
  have hforces : j.settings.Exceeded (j.unsynced + j.held.length + data.length) ↔
      j.Forces data := Iff.rfl
  simp only [hforces] at hlast ⊢
  refine ⟨hsettled, ?_, ?_⟩
  · by_cases hforced : j.Forces data
    · simpa only [hforced, true_or, if_true] using hlast
    · simpa only [hforced, false_or, if_false, length_flatten_appending hforced,
        Nat.add_assoc] using hlast
  · rw [map_appended]
    by_cases hforced : j.Forces data
    · have hjoined := j.joined_ne_nil hdata
      by_cases hlarge : j.settings.room < data.length
      · have hnot : ¬ data.length ≤ j.settings.room := Nat.not_le_of_lt hlarge
        simp only [hforced, hlarge, hnot, if_true, if_false, and_false, List.append_nil,
          List.nil_append, List.append_assoc]
      · have hle := Nat.le_of_not_lt hlarge
        simp only [hforced, hlarge, hle, hjoined, if_true, if_false, and_self, List.append_nil,
          List.nil_append, List.append_assoc]
    · simp only [hforced, false_and, if_false, List.append_nil]

end Whole

end Live

/-! ## Writes of a journal on record -/

namespace Journal

variable {σ : Type} [Medium σ]

theorem exchanges_write {j : Live σ} {buffer : Buffer} (hbuffer : j.buffer = .ok buffer)
    {data : Bytes} (hdata : data ≠ []) : (live j).exchanges (.write data) = j.writing data := by
  show ((j.recording []).write data).after.medium.log = _
  rw [Live.write_recording hbuffer hdata]
  rfl

theorem exchanges_write_of_shortage {j : Live σ} {shortage : Shortage}
    (hbuffer : j.buffer = .error shortage) (data : Bytes) :
    (live j).exchanges (.write data) = [] := by
  have hbuffer' : (j.recording []).buffer = .error shortage := hbuffer
  show ((j.recording []).write data).after.medium.log = []
  rw [Live.write_of_shortage hbuffer']
  rfl

theorem exchanges_write_nil {j : Live σ} {buffer : Buffer} (hbuffer : j.buffer = .ok buffer) :
    (live j).exchanges (.write []) = [] := by
  have hbuffer' : (j.recording []).buffer = .ok buffer := hbuffer
  show ((j.recording []).write []).after.medium.log = []
  rw [Live.write_nil hbuffer']
  rfl

/-- **The whole of a write to which nothing happens.**  Take a journal with a
buffer, in whatever state, and data that is not empty.  If nothing fails that
the write asks of the medium, then it succeeds; what it asks is to append what
`Live.appending` lists, and then one sync if the data forces it; and the tail
and the count of unsynced bytes are as told. -/
theorem write_unhindered {j : Live σ} {buffer : Buffer} (hbuffer : j.buffer = .ok buffer)
    {data : Bytes} (hdata : data ≠ [])
    (hspared : ∀ exchange ∈ (live j).exchanges (.write data), ¬ exchange.Fails) :
    (j.write data).result = .ok () ∧
      (live j).exchanges (.write data) =
        (j.appending data).map .appended ++ (if j.Forces data then [.synced] else []) ∧
      [] ∉ j.appending data ∧ (j.appending data).length ≤ 2 ∧
      ((live j).exchanges (.write data) = [] ↔
        j.held.length + data.length ≤ j.settings.room ∧ ¬ j.Forces data) ∧
      (j.write data).after.held =
        (if j.Forces data ∨ j.settings.room < data.length then []
          else if j.settings.room < j.held.length + data.length then data
          else j.held ++ data) ∧
      (j.write data).after.unsynced =
        (if j.Forces data then 0
          else j.unsynced + (j.appending data).flatten.length) := by
  rw [exchanges_write hbuffer hdata] at hspared ⊢
  obtain ⟨hresult, hpoised, hasked⟩ := Live.write_spared hbuffer hdata hspared
  refine ⟨hresult, hasked, j.nil_notMem_appending hdata, j.length_appending_le data, ?_,
    hpoised.held_eq, hpoised.unsynced_eq⟩
  rw [hasked]
  by_cases hforced : j.Forces data
  · simp [hforced]
  · simp [hforced, Live.appending_eq_nil_iff hforced]

/-- A journal with two bytes in its tail, which has room for four. -/
def halfFull : Live InMemory :=
  { settings := { capacity := 4, bound := 3 }
    medium := .holding [9]
    buffer := .ok ⟨4, [1, 2]⟩
    boundary := 1
    tally := { writes := 1, bytesWritten := 2 } }

/-- Three more bytes push the first two out, and are appended themselves before
the sync that they force. -/
theorem write_unhindered_forced :
    (∃ history : List Report, Reached (InMemory.holding [9]) history (live halfFull)) ∧
      (live halfFull).exchanges (.write [3, 4, 5]) =
        [.appended [1, 2], .appended [3, 4, 5], .synced] ∧
      (halfFull.write [3, 4, 5]).after.held = [] ∧
      (halfFull.write [3, 4, 5]).after.unsynced = 0 := by
  have hasked : (live halfFull).exchanges (.write [3, 4, 5]) =
      [.appended [1, 2], .appended [3, 4, 5], .synced] := rfl
  have hspared : ∀ exchange ∈ (live halfFull).exchanges (.write [3, 4, 5]),
      ¬ exchange.Fails := by
    rw [hasked]
    rintro exchange hmem ⟨error, hfailed⟩
    simp only [List.mem_cons, List.not_mem_nil, or_false] at hmem
    rcases hmem with rfl | rfl | rfl <;> cases hfailed
  have hstart : start (InMemory.holding [9]) { capacity := 4, bound := 3 } .heap =
      (.ok _, _) := rfl
  have hopened : Reached (InMemory.holding [9]) _ _ := .opened rfl Supply.heap_honest hstart
  have hreached : Reached _ _ (live halfFull) := hopened.called (.write [1, 2])
  obtain ⟨-, hwhole, -, -, -, hheld, hunsynced⟩ :=
    write_unhindered rfl (List.cons_ne_nil _ _) hspared
  exact ⟨⟨_, hreached⟩, hwhole, hheld, hunsynced⟩

end Journal

end WriteBack
