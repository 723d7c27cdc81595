/-
# Residency — how many bytes can be in the buffer, and which

The tail never outgrows the capacity, neither between calls nor at any moment of
a write.  The test that makes room and the test that sends data past the buffer
go by the same number, so that what is buffered fits by the time that it is
buffered; and whatever fails in between, nothing but a flush or a placed write
has touched the tail, and what was placed is taken out again as it was put in.

Data that is larger than the capacity is never buffered, not even in part: at
every moment of its write the tail is what it was when the write was called, or
empty.  At capacity zero this is so for everything.  Then there is no tail at
all, and what has been accepted is on the medium when the write returns.
-/
import WriteBack.Proofs.Asking
import WriteBack.Proofs.Atomicity
import WriteBack.Proofs.Passage

namespace WriteBack

open Faithful (contents Undisturbed)

/-- A supply whose buffers have the room that was asked for. -/
def Supply.Ample (supply : Supply) : Prop :=
  ∀ (room : Nat) (buffer : Buffer), supply room = .ok buffer → room ≤ buffer.room

theorem Supply.heap_ample : Supply.heap.Ample := by
  intro room buffer h
  unfold heap at h
  split at h
  · cases h
  split at h
  · cases h
  · cases h
    exact Nat.le_refl room

namespace Live

variable {σ : Type}

/-! ## The tail is within the capacity -/

/-- The tail has at most as many bytes as the settings have room for. -/
structure Fits (settings : Settings) (j : Live σ) : Prop where
  settings_eq : j.settings = settings
  length_le : j.held.length ≤ settings.room

theorem Fits.of_nil {settings : Settings} {j : Live σ} (hsettings : j.settings = settings)
    (hheld : j.held = []) : j.Fits settings :=
  ⟨hsettings, by simp [hheld]⟩

theorem Fits.held_eq_nil {settings : Settings} {j : Live σ} (h : j.Fits settings)
    (hroom : settings.room = 0) : j.held = [] := by
  have hlength := h.length_le
  rw [hroom, Nat.le_zero, List.length_eq_zero_iff] at hlength
  exact hlength

theorem Fits.length_le_room {settings : Settings} {j : Live σ} (h : j.Fits settings)
    {buffer : Buffer} (hbuffer : j.buffer = .ok buffer) (hgranted : settings.room ≤ buffer.room) :
    buffer.held.length ≤ buffer.room := by
  have hlength := h.length_le
  rw [held_of_buffer hbuffer] at hlength
  exact Nat.le_trans hlength hgranted

theorem room_withHeld {j : Live σ} {held : Bytes} {buffer : Buffer}
    (h : (j.withHeld held).buffer = .ok buffer) :
    ∃ before : Buffer, j.buffer = .ok before ∧ buffer.room = before.room := by
  cases hbuffer : j.buffer with
  | ok before =>
      simp only [withHeld, hbuffer, Except.map, Except.ok.injEq] at h
      exact ⟨before, rfl, by rw [← h]⟩
  | error shortage =>
      simp only [withHeld, hbuffer, Except.map] at h
      cases h

section Any

variable [Medium σ]

theorem calm_fits (settings : Settings) : Calm (Fits settings : Live σ → Prop) where
  refused _ h := ⟨h.settings_eq, h.length_le⟩
  readAt _ _ h := ⟨h.settings_eq, h.length_le⟩
  moved _ _ h := .of_nil h.settings_eq (held_withHeld_nil _)
  synced _ h := ⟨h.settings_eq, h.length_le⟩

theorem suspends_fits (settings : Settings) (data : Bytes) :
    Suspends data (Fits settings : Live σ → Prop) (Fits settings) where
  calm := calm_fits settings
  calm_pending := calm_fits settings
  joined {j} hbuffer hfits h := by
    obtain ⟨buffer, hbuffer⟩ := hbuffer
    refine ⟨h.settings_eq, ?_⟩
    rw [held_withHeld hbuffer, List.length_append, ← h.settings_eq]
    exact hfits
  through _ _ _ h := ⟨h.settings_eq, h.length_le⟩
  counted h := ⟨h.settings_eq, h.length_le⟩

theorem abiding_room (room : Nat) :
    Abiding fun j : Live σ => ∀ buffer, j.buffer = .ok buffer → room ≤ buffer.room where
  refused _ h := h
  readAt _ _ h := h
  moved _ _ h := by
    intro buffer hbuffer
    obtain ⟨before, hbefore, hroom⟩ := room_withHeld hbuffer
    rw [hroom]
    exact h before hbefore
  synced _ h := h
  through _ h := h
  withHeld _ h := by
    intro buffer hbuffer
    obtain ⟨before, hbefore, hroom⟩ := room_withHeld hbuffer
    rw [hroom]
    exact h before hbefore
  counted _ h := h

/-! ## Data that is never buffered -/

/-- The tail is the one given, or empty. -/
structure Unmixed (settings : Settings) (held : Bytes) (j : Live σ) : Prop where
  settings_eq : j.settings = settings
  held_eq : j.held = held ∨ j.held = []

theorem calm_unmixed (settings : Settings) (held : Bytes) :
    Calm (Unmixed settings held : Live σ → Prop) where
  refused _ h := ⟨h.settings_eq, h.held_eq⟩
  readAt _ _ h := ⟨h.settings_eq, h.held_eq⟩
  moved _ _ h := ⟨h.settings_eq, .inr (held_withHeld_nil _)⟩
  synced _ h := ⟨h.settings_eq, h.held_eq⟩

/-- Data larger than the buffer never joins the tail. -/
theorem suspends_unmixed {settings : Settings} (held : Bytes) {data : Bytes}
    (hlarge : settings.room < data.length) :
    Suspends data (Unmixed settings held : Live σ → Prop) (Unmixed settings held) where
  calm := calm_unmixed settings held
  calm_pending := calm_unmixed settings held
  joined _ hfits h := by
    rw [h.settings_eq] at hfits
    omega
  through _ _ _ h := ⟨h.settings_eq, h.held_eq⟩
  counted h := ⟨h.settings_eq, h.held_eq⟩

end Any

end Live

namespace Journal

/-! ## Accepted data that is never buffered -/

section Accepted

variable {σ : Type} [Medium σ]

theorem not_accepts_of_error {j : Live σ} {data : Bytes} {asked : List Exchange}
    {failure : Failure} (hfailed : (j.write data).result = .error failure)
    (hnone : ∀ exchange ∈ asked, exchange.ofSync = false) :
    Step.accepts ⟨(live j).report (.write data), asked⟩ = false := by
  have hany : (asked.any fun exchange => exchange.ofSync && exchange.refused) = false := by
    apply List.any_eq_false.mpr
    intro exchange hmem
    simp [hnone exchange hmem]
  rw [accepts_write, hfailed, hany]
  simp [Except.isOk, Except.toBool]

theorem stages_of_accepts {j : Live σ} {data : Bytes}
    (haccepts : Step.accepts
      ⟨(live j).report (.write data), (live j).exchanges (.write data)⟩ = true) :
    (∃ buffer, j.buffer = .ok buffer) ∧ data ≠ [] ∧
      (j.makeRoom data.length).result = .ok () ∧
      ((j.makeRoom data.length).after.place data).result = .ok () := by
  have hdata : data ≠ [] := by
    intro hdata
    rw [accepts_write, hdata] at haccepts
    cases haccepts
  cases hbuffer : j.buffer with
  | error shortage =>
      have hfailed := congrArg Outcome.result (Live.write_of_shortage hbuffer data)
      rw [exchanges_write_of_shortage hbuffer,
        not_accepts_of_error hfailed (List.forall_mem_nil _)] at haccepts
      cases haccepts
  | ok buffer =>
      have hwrite := Live.write_of_buffer hbuffer hdata
      have hroomAsked := j.makingRoom_ofSync data.length
      rw [exchanges_write hbuffer hdata, Live.writing] at haccepts
      refine ⟨⟨buffer, rfl⟩, hdata, ?_⟩
      -- a write that fails before its forced sync has asked for none, and is not accepted
      cases hroom : (j.makeRoom data.length).result with
      | error failure =>
          rw [Outcome.andThen_of_error _ hroom] at hwrite
          have hfailed := congrArg Outcome.result hwrite
          rw [Outcome.ifOk_of_error hroom, List.append_nil,
            not_accepts_of_error hfailed hroomAsked] at haccepts
          cases haccepts
      | ok value =>
          refine ⟨rfl, ?_⟩
          rw [Outcome.andThen_of_ok _ hroom] at hwrite
          rw [Outcome.ifOk_of_ok hroom] at haccepts
          cases hplace : ((j.makeRoom data.length).after.place data).result with
          | ok value => rfl
          | error failure =>
              have hasked := List.forall_mem_append.mpr
                ⟨hroomAsked, Live.placing_ofSync (j.makeRoom data.length).after data⟩
              rw [Outcome.andThen_of_error _ hplace] at hwrite
              have hfailed := congrArg Outcome.result hwrite
              rw [Outcome.ifOk_of_error hplace, List.append_nil,
                not_accepts_of_error hfailed hasked] at haccepts
              cases haccepts

theorem appended_of_accepts {j : Live σ} {data : Bytes} (hlarge : j.settings.room < data.length)
    (haccepts : Step.accepts
      ⟨(live j).report (.write data), (live j).exchanges (.write data)⟩ = true) :
    Exchange.appended data ∈ (live j).exchanges (.write data) := by
  obtain ⟨⟨buffer, hbuffer⟩, hdata, hroom, hplace⟩ := stages_of_accepts haccepts
  have hsettings : (j.makeRoom data.length).after.settings = j.settings :=
    (Live.abiding_settings j.settings).makeRoom rfl data.length
  have hlarge' : (j.makeRoom data.length).after.settings.room < data.length := by
    rw [hsettings]
    exact hlarge
  have hplacing : Exchange.appended data ∈ (j.makeRoom data.length).after.placing data := by
    rw [Live.place_of_lt hlarge'] at hplace
    rw [Live.placing, if_pos hlarge', List.mem_singleton, Exchange.appended, Medium.offered]
    cases happend : (Medium.append (j.makeRoom data.length).after.medium data).1 with
    | ok value => rfl
    | error error =>
        rw [Live.writeThrough_of_refused happend] at hplace
        cases hplace
  rw [exchanges_write hbuffer hdata, Live.writing, Outcome.ifOk_of_ok hroom]
  exact List.mem_append_right _ (List.mem_append_left _ hplacing)

variable {β : Type} [Medium β] [Screened σ β]

/-- Behind a screen to be accepted is to be taken into the stream. -/
theorem taken_of_accepts [Steady β] {start writes : Nat} {j : Live σ}
    (h : j.Tallied start writes 0) {data : Bytes}
    (haccepts : Step.accepts
      ⟨(live j).report (.write data), (live j).exchanges (.write data)⟩ = true) :
    taken data (j.write data).result = data := by
  obtain ⟨⟨buffer, hbuffer⟩, hdata, -, -⟩ := stages_of_accepts haccepts
  have hlands := Live.write_lands hbuffer hdata
  rcases hlands.result_cases (j := j.bare) hbuffer hdata with hok | hstopped | hsync
  · have hresult : (j.write data).result = .ok () := hok
    rw [hresult]
    rfl
  · -- the write was counted, but a write whose append is stopped is not
    have hcounted := (tallied_write h hbuffer hdata).writes_eq
    have hwrites := h.writes_eq
    have hsame : (j.write data).after.tally.writes = j.tally.writes := by
      rcases hlands.of_append_stopped (j := j.bare) hbuffer hdata hstopped with
        hafter | ⟨-, -, hafter⟩
      · exact congrArg (fun k : Live β => k.tally.writes) hafter
      · obtain ⟨appends, bytesFlushed, htally⟩ := Live.flush_tally_frame j.bare
        refine (congrArg (fun k : Live β => k.tally.writes) hafter).trans ?_
        rw [htally]
        rfl
    rw [haccepts, if_pos rfl] at hcounted
    omega
  · have hresult : (j.write data).result = .error (.stopped .sync) := hsync
    rw [hresult]
    rfl

end Accepted

/-! ## Every moment of every write -/

section Runs

variable {σ β : Type} [Medium σ] [Medium β] [Screened σ β]

theorem Traces.fits {medium : σ} {settings : Settings} {supply : Supply}
    (hsupply : supply.Honest) {steps : List Step} {j : Live σ}
    (hrun : Traces (live (.fresh medium settings supply)) steps (live j)) : j.Fits settings := by
  refine hrun.suspended (Live.suspends_fits settings) ?_ ?_
  · intro _ _ h
    exact ⟨h.settings_eq, h.length_le⟩
  · exact .of_nil rfl (Live.fresh_held hsupply medium settings)

theorem Traces.granted {medium : σ} {settings : Settings} {supply : Supply}
    (hample : supply.Ample) {steps : List Step} {j : Live σ}
    (hrun : Traces (live (.fresh medium settings supply)) steps (live j)) :
    ∀ buffer, j.buffer = .ok buffer → settings.room ≤ buffer.room := by
  refine hrun.suspended (Live.abiding_room settings.room).suspends ?_ ?_
  · intro _ _ h
    exact h
  · intro buffer hbuffer
    exact hample settings.room buffer hbuffer

theorem contents_of_accepts [Faithful β] {start writes : Nat} {j : Live σ} {stream : Bytes}
    (hcarries : j.bare.Carries stream) (htallied : j.Tallied start writes 0)
    (hheld : j.held = []) {data : Bytes} (hheld' : (j.write data).after.held = [])
    (haccepts : Step.accepts
      ⟨(live j).report (.write data), (live j).exchanges (.write data)⟩ = true) :
    contents (Screened.base (j.write data).after.medium) =
      contents (Screened.base j.medium) ++ data := by
  have hafter := hcarries.write_after data
  rw [taken_of_accepts htallied haccepts] at hafter
  have hbefore : contents (Screened.base j.medium) = stream := hcarries.contents_of_nil hheld
  rw [hbefore]
  exact hafter.contents_of_nil hheld'

/-- **The tail stays within the capacity.**  Open a journal over any medium, with
any settings, and follow it through any run, whatever the medium answers; then
write something.  The moments of the write, from the call to the return, leave out
no change of the tail.  At each of them the tail is within the capacity, and so
within the allocation if the supply has granted what was asked for.  Data larger
than the capacity is never in the tail.  And if the capacity is zero the tail is
always empty, and what is accepted is appended by itself, and is on the base when
the write returns. -/
theorem tail_le_room {medium : σ} {settings : Settings} {supply : Supply}
    (hsupply : supply.Honest) {opened : Journal σ} {events : List Event}
    (hstart : start medium settings supply = (.ok opened, events)) {steps : List Step}
    {j : Live σ} (hrun : Traces opened steps (live j)) (data : Bytes) :
    (j.passage data).head? = some ⟨j, false⟩ ∧
      (j.passage data).getLast? = some ⟨(j.write data).after, false⟩ ∧
      (j.passage data).IsChain (Live.Adjoins data) ∧
      (∀ moment ∈ j.passage data, moment.state.held.length ≤ settings.room ∧
        (supply.Ample → ∀ buffer, moment.state.buffer = .ok buffer →
          buffer.held.length ≤ buffer.room)) ∧
      (settings.room < data.length →
        ∀ moment ∈ j.passage data, moment.state.held = j.held ∨ moment.state.held = []) ∧
      (settings.room = 0 →
        (∀ moment ∈ j.passage data, moment.state.held = []) ∧
          (Step.accepts ⟨(live j).report (.write data), (live j).exchanges (.write data)⟩ →
            Exchange.appended data ∈ (live j).exchanges (.write data) ∧
              ∀ [Faithful β], Undisturbed (Screened.base medium) →
                contents (Screened.base (j.write data).after.medium) =
                  contents (Screened.base j.medium) ++ data)) := by
  obtain rfl := eq_fresh_of_start hstart
  have hfits : j.Fits settings := hrun.fits hsupply
  have hmoments : ∀ moment ∈ j.passage data, moment.state.Fits settings := by
    intro moment hmem
    exact ((Live.suspends_fits settings data).passage hfits moment hmem).same
  have hlast : (⟨(j.write data).after, false⟩ : Moment σ) ∈ j.passage data :=
    List.mem_of_getLast? (j.passage_getLast? data)
  refine ⟨rfl, j.passage_getLast? data, j.passage_isChain data, ?_, ?_, ?_⟩
  · intro moment hmem
    refine ⟨(hmoments moment hmem).length_le, ?_⟩
    intro hample buffer hbuffer
    have hgranted := (((Live.abiding_room settings.room).suspends data).passage
      (hrun.granted hample) moment hmem).same
    exact (hmoments moment hmem).length_le_room hbuffer (hgranted buffer hbuffer)
  · intro hlarge moment hmem
    have hbegun : j.Unmixed settings j.held := ⟨hfits.settings_eq, .inl rfl⟩
    exact ((Live.suspends_unmixed j.held hlarge).passage hbegun moment hmem).same.held_eq
  · intro hzero
    have hempty : ∀ moment ∈ j.passage data, moment.state.held = [] := by
      intro moment hmem
      exact (hmoments moment hmem).held_eq_nil hzero
    refine ⟨hempty, ?_⟩
    intro haccepts
    have hdata : data ≠ [] := (stages_of_accepts haccepts).2.1
    refine ⟨appended_of_accepts ?_ haccepts, ?_⟩
    · rw [hfits.settings_eq, hzero]
      exact List.length_pos_iff.mpr hdata
    · intro _ hbase
      have hcarries : (live j).Carries _ :=
        hrun.follows.carries (start_carries hbase hsupply hstart)
      have htallied := ((audited_fresh hsupply medium settings).traces hrun).tallied
      exact contents_of_accepts hcarries htallied (hfits.held_eq_nil hzero) (hempty _ hlast)
        haccepts

/-- A journal that has no room for a tail, behind a panel that will stop a sync. -/
def roomless : Live (Rigged InMemory) :=
  { settings := { capacity := 0, bound := 1 }
    medium := ⟨[{ sync := some .once }], .holding [9]⟩
    buffer := .ok ⟨0, []⟩
    boundary := 1 }

/-- Two bytes go past the buffer at once, and are accepted although the sync that
they force is stopped. -/
theorem tail_le_room_of_roomless :
    ∃ steps : List Step,
      Traces (live (Live.fresh (Rigged.behind 1 (InMemory.holding [9]))
        { capacity := 0, bound := 1 } .heap)) steps (live roomless) ∧
      (roomless.write [1, 2]).result = .error (.stopped .sync) ∧
      (∀ moment ∈ roomless.passage [1, 2], moment.state.held = [] ∧
        ∀ buffer, moment.state.buffer = .ok buffer → buffer.held.length ≤ buffer.room) ∧
      Exchange.appended [1, 2] ∈ (live roomless).exchanges (.write [1, 2]) ∧
      (roomless.write [1, 2]).after.medium.base.bytes = [9, 1, 2] := by
  have hstart : start (Rigged.behind 1 (InMemory.holding [9])) { capacity := 0, bound := 1 }
      .heap = (.ok _, _) := rfl
  have hopened : Traces (live (Live.fresh (Rigged.behind 1 (InMemory.holding [9]))
      { capacity := 0, bound := 1 } .heap)) [] _ := .here
  have hreached : Traces _ _ (live roomless) := hopened.meddled ⟨0, .arm .sync .once, rfl⟩
  obtain ⟨-, -, -, hbounded, -, hroomless⟩ := tail_le_room Supply.heap_honest hstart hreached [1, 2]
  obtain ⟨hempty, haccepted⟩ := hroomless rfl
  obtain ⟨happended, hcontents⟩ := haccepted rfl
  refine ⟨_, hreached, rfl, ?_, happended, hcontents trivial⟩
  intro moment hmem
  exact ⟨hempty moment hmem, (hbounded moment hmem).2 Supply.heap_ample⟩

end Runs

end Journal

end WriteBack
