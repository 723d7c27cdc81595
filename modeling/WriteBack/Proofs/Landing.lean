/-
# Landing — where a write can leave a journal

Beneath a screen a write has four ways to end, and no others:

  * nothing is stopped, and the write is the write of the bare journal;
  * an append is stopped and the journal is as it was;
  * an append is stopped after the tail had been flushed to make room, and
    the journal is as it was after that flush;
  * everything reached the medium and was counted, and then the forced sync
    was stopped.

`Landing` is this list, `write_lands` says that it is complete.  The two
middle ways cover three places where an append can be stopped: the flush that
makes room, the append of data too large for the buffer, and the forced
flush, whose failure takes the data back out of the tail.

The states a write passes through get names.  `roomy` is the journal once
there is room, `placed` once the data is in it, and `storing` carries all of
it to the medium, up to the sync.
-/
import WriteBack.Proofs.Moves

namespace WriteBack.Live

/-! ## The stages of a write on a steady medium -/

section Stages

variable {β : Type} [Medium β]

/-- The journal once there is room for `count` more bytes. -/
def roomy (j : Live β) (count : Nat) : Live β := (j.makeRoom count).after

/-- The journal once the data is in it, in the tail or on the medium. -/
def placed (j : Live β) (data : Bytes) : Live β := ((j.roomy data.length).place data).after

/-- A write that carries all its bytes to the medium, up to the sync. -/
def storing (j : Live β) (data : Bytes) : Outcome (Live β) Unit :=
  (j.makeRoom data.length).andThen fun _ roomy =>
    (roomy.place data).andThen fun _ placed =>
      placed.flush.andThen fun _ flushed => .done () (flushed.counted data.length)

theorem makeRoom_cases (j : Live β) (count : Nat) :
    (j.held ≠ [] ∧ j.settings.room < j.held.length + count ∧ j.makeRoom count = j.flush) ∨
      (j.held = [] ∨ j.held.length + count ≤ j.settings.room) ∧
        j.makeRoom count = .done () j := by
  by_cases hfull : j.settings.room < j.held.length + count
  · by_cases hheld : j.held = []
    · right
      refine ⟨.inl hheld, ?_⟩
      rw [makeRoom, if_pos hfull, flush_of_nil hheld]
    · left
      exact ⟨hheld, hfull, by rw [makeRoom, if_pos hfull]⟩
  · right
    exact ⟨.inr (Nat.le_of_not_lt hfull), by rw [makeRoom, if_neg hfull]⟩

theorem place_of_lt {j : Live β} {data : Bytes} (h : j.settings.room < data.length) :
    j.place data = j.writeThrough data := by
  rw [place, if_pos h]

theorem place_of_le {j : Live β} {data : Bytes} (h : data.length ≤ j.settings.room) :
    j.place data = .done () (j.withHeld (j.held ++ data)) := by
  rw [place, if_neg (Nat.not_lt_of_le h)]

theorem write_of_shortage {j : Live β} {shortage : Shortage}
    (hbuffer : j.buffer = .error shortage) (data : Bytes) :
    j.write data = .fail (.bufferUnavailable shortage) j := by
  rw [write, hbuffer]

theorem write_nil {j : Live β} {buffer : Buffer} (hbuffer : j.buffer = .ok buffer) :
    j.write [] = .done () j := by
  rw [write, hbuffer]
  rfl

theorem write_of_buffer {j : Live β} {buffer : Buffer} (hbuffer : j.buffer = .ok buffer)
    {data : Bytes} (hdata : data ≠ []) :
    j.write data =
      (j.makeRoom data.length).andThen fun _ roomy =>
        (roomy.place data).andThen fun _ placed =>
          placed.settle roomy.held.length data.length := by
  rw [write, hbuffer]
  exact if_neg (by simpa using hdata)

theorem roomy_cases (j : Live β) (count : Nat) :
    (j.held ≠ [] ∧ j.settings.room < j.held.length + count ∧ j.roomy count = j.flush.after) ∨
      (j.held = [] ∨ j.held.length + count ≤ j.settings.room) ∧ j.roomy count = j := by
  rcases makeRoom_cases j count with ⟨hheld, hfull, h⟩ | ⟨hfits, h⟩
  · exact .inl ⟨hheld, hfull, congrArg Outcome.after h⟩
  · exact .inr ⟨hfits, congrArg Outcome.after h⟩

theorem settle_of_within {j : Live β} (kept count : Nat) (h : j.overBound = false) :
    j.settle kept count = .done () (j.counted count) := by
  rw [settle, if_neg (by simp [h])]

variable [Steady β]

@[simp] theorem makeRoom_result (j : Live β) (count : Nat) :
    (j.makeRoom count).result = .ok () := by
  rcases makeRoom_cases j count with ⟨-, -, h⟩ | ⟨-, h⟩
  · rw [h, flush_result]
  · rw [h]
    rfl

@[simp] theorem place_result (j : Live β) (data : Bytes) : (j.place data).result = .ok () := by
  by_cases h : j.settings.room < data.length
  · rw [place_of_lt h, writeThrough_eq]
  · rw [place_of_le (Nat.le_of_not_lt h)]
    rfl

@[simp] theorem roomy_settings (j : Live β) (count : Nat) :
    (j.roomy count).settings = j.settings := by
  rcases roomy_cases j count with ⟨-, -, h⟩ | ⟨-, h⟩
  · rw [h, flush_settings]
  · rw [h]

@[simp] theorem roomy_logicalEnd (j : Live β) (count : Nat) :
    (j.roomy count).logicalEnd = j.logicalEnd := by
  rcases roomy_cases j count with ⟨-, -, h⟩ | ⟨-, h⟩
  · rw [h, flush_logicalEnd]
  · rw [h]

@[simp] theorem roomy_exposed (j : Live β) (count : Nat) :
    (j.roomy count).exposed = j.exposed := by
  rcases roomy_cases j count with ⟨-, -, h⟩ | ⟨-, h⟩
  · rw [h, flush_exposed]
  · rw [h]

theorem roomy_buffer {j : Live β} {buffer : Buffer} (hbuffer : j.buffer = .ok buffer)
    (count : Nat) : ∃ left : Buffer, (j.roomy count).buffer = .ok left := by
  rcases roomy_cases j count with ⟨-, -, h⟩ | ⟨-, h⟩
  · exact ⟨_, by rw [h, flush_buffer hbuffer]⟩
  · exact ⟨_, by rw [h, hbuffer]⟩

theorem roomy_held_of_lt {j : Live β} {count : Nat} (h : j.settings.room < count) :
    (j.roomy count).held = [] := by
  rcases roomy_cases j count with ⟨-, -, hroomy⟩ | ⟨hheld | hfits, hroomy⟩
  · rw [hroomy, flush_held]
  · rw [hroomy, hheld]
  · omega

theorem placed_of_lt {j : Live β} {data : Bytes} (h : j.settings.room < data.length) :
    j.placed data = ((j.roomy data.length).writeThrough data).after := by
  rw [placed, place_of_lt (by rwa [roomy_settings])]

theorem placed_of_le {j : Live β} {data : Bytes} (h : data.length ≤ j.settings.room) :
    j.placed data =
      (j.roomy data.length).withHeld ((j.roomy data.length).held ++ data) := by
  rw [placed, place_of_le (by rwa [roomy_settings])]
  rfl

theorem placed_held_of_lt {j : Live β} {data : Bytes} (h : j.settings.room < data.length) :
    (j.placed data).held = [] := by
  rw [placed_of_lt h, writeThrough_eq]
  exact roomy_held_of_lt h

theorem placed_held_of_le {j : Live β} {buffer : Buffer} (hbuffer : j.buffer = .ok buffer)
    {data : Bytes} (h : data.length ≤ j.settings.room) :
    (j.placed data).held = (j.roomy data.length).held ++ data := by
  obtain ⟨left, hleft⟩ := roomy_buffer hbuffer data.length
  rw [placed_of_le h, held_withHeld hleft]

theorem placed_take_held {j : Live β} {buffer : Buffer} (hbuffer : j.buffer = .ok buffer)
    {data : Bytes} (h : data.length ≤ j.settings.room) :
    (j.placed data).withHeld ((j.placed data).held.take (j.roomy data.length).held.length) =
      j.roomy data.length := by
  rw [placed_held_of_le hbuffer h, List.take_left, placed_of_le h, withHeld_withHeld,
    withHeld_held]

theorem placed_logicalEnd {j : Live β} {buffer : Buffer} (hbuffer : j.buffer = .ok buffer)
    (data : Bytes) : (j.placed data).logicalEnd = j.logicalEnd + data.length := by
  rw [← roomy_logicalEnd j data.length]
  by_cases h : j.settings.room < data.length
  · rw [logicalEnd, placed_held_of_lt h, placed_of_lt h, writeThrough_eq, logicalEnd,
      roomy_held_of_lt h]
    rfl
  · have hle := Nat.le_of_not_lt h
    rw [logicalEnd, placed_held_of_le hbuffer hle, placed_of_le hle, List.length_append,
      ← Nat.add_assoc]
    rfl

theorem placed_exposed {j : Live β} {buffer : Buffer} (hbuffer : j.buffer = .ok buffer)
    (data : Bytes) : (j.placed data).exposed = j.exposed + data.length := by
  rw [← roomy_exposed j data.length]
  by_cases h : j.settings.room < data.length
  · rw [exposed, placed_held_of_lt h, placed_of_lt h, writeThrough_eq, exposed,
      roomy_held_of_lt h]
    rfl
  · have hle := Nat.le_of_not_lt h
    rw [exposed, placed_held_of_le hbuffer hle, placed_of_le hle, List.length_append,
      ← Nat.add_assoc]
    rfl

theorem storing_eq (j : Live β) (data : Bytes) :
    j.storing data =
      ⟨.ok (), (j.placed data).flush.after.counted data.length,
        (j.makeRoom data.length).events ++
          (((j.roomy data.length).place data).events ++ (j.placed data).flush.events)⟩ := by
  rw [storing, Outcome.andThen_of_ok _ (makeRoom_result j _),
    Outcome.andThen_of_ok _ (place_result _ _), Outcome.andThen_of_ok _ (flush_result _)]
  simp [Outcome.done, roomy, placed]

theorem storing_held (j : Live β) (data : Bytes) : (j.storing data).after.held = [] := by
  rw [storing_eq]
  exact flush_held _

theorem settle_of_overBound {j : Live β} (kept count : Nat) (h : j.overBound = true) :
    j.settle kept count =
      ⟨.ok (), (j.flush.after.counted count).sync.after,
        j.flush.events ++ [.forcedSync j.exposed j.settings.bound]⟩ := by
  rw [settle, if_pos h, Outcome.onFailure_of_ok _ (flush_result j),
    Outcome.andThen_of_ok _ (flush_result j), sync_eq]
  simp [Outcome.andThen, Outcome.done]

@[simp] theorem settle_result (j : Live β) (kept count : Nat) :
    (j.settle kept count).result = .ok () := by
  cases h : j.overBound with
  | false => rw [settle_of_within _ _ h, Outcome.done]
  | true => rw [settle_of_overBound _ _ h]

theorem settle_after (j : Live β) (kept count : Nat) :
    (j.settle kept count).after =
      if j.overBound then (j.flush.after.counted count).sync.after else j.counted count := by
  cases h : j.overBound with
  | false =>
      rw [settle_of_within _ _ h]
      rfl
  | true =>
      rw [settle_of_overBound _ _ h]
      rfl

theorem write_result {j : Live β} {buffer : Buffer} (hbuffer : j.buffer = .ok buffer)
    {data : Bytes} (hdata : data ≠ []) : (j.write data).result = .ok () := by
  rw [write_of_buffer hbuffer hdata, Outcome.andThen_of_ok _ (makeRoom_result j _),
    Outcome.andThen_of_ok _ (place_result _ _)]
  exact settle_result _ _ _

/-- The state that a write leaves depends on whether the placed data exposes
too much. -/
theorem write_after {j : Live β} {buffer : Buffer} (hbuffer : j.buffer = .ok buffer)
    {data : Bytes} (hdata : data ≠ []) :
    (j.write data).after =
      if (j.placed data).overBound then (j.storing data).after.sync.after
      else (j.placed data).counted data.length := by
  rw [write_of_buffer hbuffer hdata, Outcome.andThen_of_ok _ (makeRoom_result j _),
    Outcome.andThen_of_ok _ (place_result _ _), storing_eq]
  exact settle_after _ _ _

end Stages

/-! ## The ways to end

All four are told from below the screen, in terms of the bare journal. -/

section Ways

variable {β : Type} [Medium β]

/-- How a non-empty write to a journal with a buffer can end. -/
inductive Landing (j : Live β) (data : Bytes) : Outcome (Live β) Unit → Prop
  | through : Landing j data (j.write data)
  | untouched : Landing j data (.fail (.stopped .writeAppend) j)
  | afterFlush : j.held ≠ [] → j.settings.room < j.held.length + data.length →
      Landing j data ⟨.error (.stopped .writeAppend), j.flush.after, j.flush.events⟩
  | undurable : (j.placed data).overBound = true →
      Landing j data
        ⟨.error (.stopped .sync), (j.storing data).after, (j.storing data).events⟩

theorem Landing.of_roomy (j : Live β) (data : Bytes) :
    Landing j data
      ⟨.error (.stopped .writeAppend), j.roomy data.length,
        (j.makeRoom data.length).events⟩ := by
  rw [roomy]
  rcases makeRoom_cases j data.length with ⟨hheld, hfull, h⟩ | ⟨-, h⟩
  · rw [h]
    exact .afterFlush hheld hfull
  · rw [h]
    exact .untouched

variable {j : Live β} {data : Bytes} {outcome : Outcome (Live β) Unit}

theorem Landing.of_ok (h : Landing j data outcome) (hok : outcome.result = .ok ()) :
    outcome = j.write data := by
  cases h with
  | through => rfl
  | untouched => exact nomatch hok
  | afterFlush => exact nomatch hok
  | undurable => exact nomatch hok

variable [Steady β]

theorem Landing.result_cases {buffer : Buffer} (hbuffer : j.buffer = .ok buffer)
    (hdata : data ≠ []) (h : Landing j data outcome) :
    outcome.result = .ok () ∨ outcome.result = .error (.stopped .writeAppend) ∨
      outcome.result = .error (.stopped .sync) := by
  cases h with
  | through => exact .inl (write_result hbuffer hdata)
  | untouched => exact .inr (.inl rfl)
  | afterFlush => exact .inr (.inl rfl)
  | undurable => exact .inr (.inr rfl)

theorem Landing.of_append_stopped {buffer : Buffer} (hbuffer : j.buffer = .ok buffer)
    (hdata : data ≠ []) (h : Landing j data outcome)
    (hstopped : outcome.result = .error (.stopped .writeAppend)) :
    outcome.after = j ∨
      j.held ≠ [] ∧ j.settings.room < j.held.length + data.length ∧
        outcome.after = j.flush.after := by
  cases h with
  | through => exact nomatch (write_result hbuffer hdata).symm.trans hstopped
  | untouched => exact .inl rfl
  | afterFlush hheld hfull => exact .inr ⟨hheld, hfull, rfl⟩
  | undurable => exact nomatch hstopped

theorem Landing.of_sync_stopped {buffer : Buffer} (hbuffer : j.buffer = .ok buffer)
    (hdata : data ≠ []) (h : Landing j data outcome)
    (hstopped : outcome.result = .error (.stopped .sync)) :
    (j.placed data).overBound = true ∧ outcome.after = (j.storing data).after := by
  cases h with
  | through => exact nomatch (write_result hbuffer hdata).symm.trans hstopped
  | untouched => exact nomatch hstopped
  | afterFlush => exact nomatch hstopped
  | undurable hover => exact ⟨hover, rfl⟩

end Ways

/-! ## The stages behind a screen -/

section Screen

variable {σ β : Type} [Medium σ] [Medium β] [Screened σ β]

theorem makeRoom_lift (j : Live σ) (count : Nat) :
    (j.makeRoom count).lift bare = j.bare.makeRoom count ∨
      (j.makeRoom count).lift bare = .fail (.stopped .writeAppend) j.bare := by
  by_cases hfull : j.settings.room < j.held.length + count
  · rw [makeRoom, if_pos hfull, makeRoom, bare_settings, bare_held, if_pos hfull]
    rcases flush_cases j with h | ⟨-, h⟩
    · exact .inl h
    · exact .inr h
  · rw [makeRoom, if_neg hfull, makeRoom, bare_settings, bare_held, if_neg hfull]
    exact .inl rfl

theorem place_lift (j : Live σ) (data : Bytes) :
    (j.place data).lift bare = j.bare.place data ∨
      (j.place data).lift bare = .fail (.stopped .writeAppend) j.bare := by
  by_cases h : j.settings.room < data.length
  · rw [place_of_lt h, place_of_lt (j := j.bare) h]
    exact writeThrough_cases j data
  · rw [place_of_le (Nat.le_of_not_lt h), place_of_le (j := j.bare) (Nat.le_of_not_lt h)]
    exact .inl rfl

variable [Steady β]

/-- Settling a write comes through, or its flush is stopped and the tail cut
back, or its sync is stopped. -/
theorem settle_lift (j : Live σ) (kept count : Nat) :
    (j.settle kept count).lift bare = j.bare.settle kept count ∨
      (j.held ≠ [] ∧ (j.settle kept count).lift bare =
        .fail (.stopped .writeAppend) (j.bare.withHeld (j.held.take kept))) ∨
      (j.overBound = true ∧ (j.settle kept count).lift bare =
        ⟨.error (.stopped .sync), j.bare.flush.after.counted count, j.bare.flush.events⟩) := by
  cases hover : j.overBound with
  | false =>
      left
      rw [settle_of_within _ _ hover, settle_of_within (j := j.bare) _ _ hover]
      rfl
  | true =>
      rw [settle, if_pos hover]
      -- a sync is reached, and can be stopped, only where the flush came through
      rcases flush_cases j with hflush | ⟨hheld, hflush⟩
      · have hok : j.flush.result = .ok () :=
          (congrArg Outcome.result hflush).trans (flush_result _)
        have hafter : j.flush.after.bare = j.bare.flush.after := congrArg Outcome.after hflush
        rw [Outcome.onFailure_of_ok _ hok]
        rcases sync_cases (j.flush.after.counted count) with hsync | hsync
        · left
          rw [bare_counted, hafter] at hsync
          have hsynced := Outcome.lift_andThen_of_ok (fun _ j' => (j'.counted count).sync)
            hflush (flush_result _) hsync
          rw [Outcome.lift_andThen_of_ok _ hsynced (sync_result _) rfl,
            settle_of_overBound (j := j.bare) _ _ hover]
          have hlast := congrArg Outcome.after hsynced
          simp only [Outcome.lift] at hlast ⊢
          simp [hlast, sync_eq, Outcome.done]
        · right; right
          rw [bare_counted, hafter] at hsync
          refine ⟨rfl, Outcome.lift_andThen_of_error _ ?_⟩
          rw [Outcome.lift_andThen_of_ok _ hflush (flush_result _) hsync]
          simp [Outcome.fail]
      · right; left
        refine ⟨hheld, Outcome.lift_andThen_of_error _ (Outcome.lift_andThen_of_error _ ?_)⟩
        exact Outcome.lift_onFailure_of_error
          (fun j' : Live β => j'.withHeld (j'.held.take kept)) (fun _ => rfl) hflush

/-- Once the data is placed the write ends in one of the ways, whatever
happens while it is settled. -/
theorem settle_lands {j : Live β} {buffer : Buffer} (hbuffer : j.buffer = .ok buffer)
    {data : Bytes} (hdata : data ≠ []) {k : Live σ} (hplaced : k.bare = j.placed data)
    {settled : Outcome (Live β) Unit}
    (h : (k.settle (j.roomy data.length).held.length data.length).lift bare = settled) :
    Landing j data
      { settled with
        events := (j.makeRoom data.length).events ++
          (((j.roomy data.length).place data).events ++ settled.events) } := by
  have htail : k.held = (j.placed data).held := congrArg held hplaced
  rcases settle_lift k (j.roomy data.length).held.length data.length with
    hsettle | ⟨hfull, hsettle⟩ | ⟨hover, hsettle⟩
  · rw [← h, hsettle, hplaced]
    have hwrite := write_of_buffer hbuffer hdata
    rw [Outcome.andThen_of_ok _ (makeRoom_result _ _),
      Outcome.andThen_of_ok _ (place_result _ _)] at hwrite
    unfold placed roomy
    rw [← hwrite]
    exact .through
  · -- a tail that is not empty holds the data, so that it can be cut back
    have hle : data.length ≤ j.settings.room := by
      apply Nat.le_of_not_lt
      intro hlt
      apply hfull
      rw [htail, placed_held_of_lt hlt]
    rw [← h, hsettle, hplaced, htail, placed_take_held hbuffer hle,
      place_of_le (by rwa [roomy_settings])]
    simpa [Outcome.done, Outcome.fail] using Landing.of_roomy j data
  · have hend := Landing.undurable ((congrArg overBound hplaced).symm.trans hover)
    rw [storing_eq] at hend
    rw [← h, hsettle, hplaced]
    exact hend

/-- A write that is stopped or not, seen from beneath the screen, ends in one
of the four ways. -/
theorem write_lands {j : Live σ} {buffer : Buffer} (hbuffer : j.buffer = .ok buffer)
    {data : Bytes} (hdata : data ≠ []) : Landing j.bare data ((j.write data).lift bare) := by
  rw [write_of_buffer hbuffer hdata]
  rcases makeRoom_lift j data.length with hroom | hroom
  case inr =>
    rw [Outcome.lift_andThen_of_error _ hroom]
    exact .untouched
  have hroomy : (j.makeRoom data.length).after.bare = j.bare.roomy data.length :=
    congrArg Outcome.after hroom
  have hheld : (j.makeRoom data.length).after.held = (j.bare.roomy data.length).held :=
    congrArg held hroomy
  rcases place_lift (j.makeRoom data.length).after data with hplace | hplace
  case inr =>
    rw [hroomy] at hplace
    rw [Outcome.lift_andThen_of_ok _ hroom (makeRoom_result _ _)
      (Outcome.lift_andThen_of_error _ hplace), List.append_nil]
    exact .of_roomy _ _
  rw [hroomy] at hplace
  have hplaced : ((j.makeRoom data.length).after.place data).after.bare = j.bare.placed data :=
    congrArg Outcome.after hplace
  obtain ⟨settled, hsettled⟩ : ∃ settled, (((j.makeRoom data.length).after.place data).after.settle
      (j.makeRoom data.length).after.held.length data.length).lift bare = settled := ⟨_, rfl⟩
  rw [Outcome.lift_andThen_of_ok _ hroom (makeRoom_result _ _)
    (Outcome.lift_andThen_of_ok _ hplace (place_result _ _) hsettled)]
  rw [hheld] at hsettled
  exact settle_lands (j := j.bare) hbuffer hdata hplaced hsettled

end Screen

end WriteBack.Live
