/-
# Passage — a journal while it writes

A write changes a journal several times before it returns.  `Live.passage` lists
the states that it passes through, from the one in which it was called to the
one that it leaves.  From one of them to the next the tail changes at most once,
so that as far as the tail goes no state on the way is left out.

The states on the way are of two kinds.  Once the data has been placed, and until
the write is counted or the data is taken out of the tail again, the write is
*pending*: the journal has data that no count knows of.  At all other moments it
could as well be between two calls.  So whoever claims a property of all states
between calls has to say what is left of it while a write is pending, and how the
one becomes the other.  `Suspends` is just that; from it the property follows for
every moment of every call, and for every run.
-/
import WriteBack.Proofs.Tallies
import Mathlib.Data.List.Chain

namespace WriteBack

/-- A point in the course of a write: the journal there, and whether the write is
pending. -/
structure Moment (σ : Type) where
  state : Live σ
  pending : Bool := false

/-- One thing holds while a write is pending, and the other at all other times. -/
def Moment.Meets {σ : Type} (I P : Live σ → Prop) : Moment σ → Prop
  | ⟨state, true⟩ => P state
  | ⟨state, false⟩ => I state

theorem Moment.Meets.same {σ : Type} {I : Live σ → Prop} {moment : Moment σ}
    (h : moment.Meets I I) : I moment.state := by
  obtain ⟨state, pending⟩ := moment
  cases pending with
  | true => exact h
  | false => exact h

namespace Live

variable {σ : Type} [Medium σ]

/-! ## The states on the way -/

/-- The moments while a write is settled. -/
def settlePassage (j : Live σ) (kept count : Nat) : List (Moment σ) :=
  if j.overBound then
    ⟨j.flush.after, true⟩ ::
      match j.flush.result with
      | .ok () =>
        [⟨j.flush.after.counted count, false⟩,
          ⟨(j.flush.after.counted count).sync.after, false⟩]
      | .error _ => [⟨j.flush.after.withHeld (j.flush.after.held.take kept), false⟩]
  else [⟨j.counted count, false⟩]

/-- The moments from where there is room on. -/
def placePassage (j : Live σ) (data : Bytes) : List (Moment σ) :=
  ⟨(j.place data).after, (j.place data).result.isOk⟩ ::
    (j.place data).ifOk fun placed => placed.settlePassage j.held.length data.length

/-- The moments of a write, the first and the last state included. -/
def passage (j : Live σ) (data : Bytes) : List (Moment σ) :=
  ⟨j, false⟩ ::
    match j.buffer with
    | .error _ => []
    | .ok _ =>
      if data = [] then []
      else
        ⟨(j.makeRoom data.length).after, false⟩ ::
          (j.makeRoom data.length).ifOk fun roomy => roomy.placePassage data

theorem passage_of_shortage {j : Live σ} {shortage : Shortage}
    (hbuffer : j.buffer = .error shortage) (data : Bytes) : j.passage data = [⟨j, false⟩] := by
  rw [passage, hbuffer]

theorem passage_nil (j : Live σ) : j.passage [] = [⟨j, false⟩] := by
  rw [passage]
  split
  · rfl
  · rw [if_pos rfl]

theorem passage_of_buffer {j : Live σ} {buffer : Buffer} (hbuffer : j.buffer = .ok buffer)
    {data : Bytes} (hdata : data ≠ []) :
    j.passage data =
      ⟨j, false⟩ :: ⟨(j.makeRoom data.length).after, false⟩ ::
        (j.makeRoom data.length).ifOk fun roomy => roomy.placePassage data := by
  simp [passage, hbuffer, hdata]

theorem settlePassage_getLast? (j : Live σ) (kept count : Nat) :
    (j.settlePassage kept count).getLast? = some ⟨(j.settle kept count).after, false⟩ := by
  cases hover : j.overBound with
  | false => simp [settlePassage, hover, settle_of_within kept count hover, Outcome.done]
  | true =>
      cases hflush : j.flush.result with
      | ok value =>
          simp [settlePassage, hover, hflush, (settle_of_flushed hover hflush kept count).2]
      | error failure =>
          simp [settlePassage, hover, hflush, (settle_of_unflushed hover hflush kept count).2]

theorem placePassage_getLast? (j : Live σ) (data : Bytes) :
    (j.placePassage data).getLast? =
      some ⟨((j.place data).andThen fun _ placed =>
        placed.settle j.held.length data.length).after, false⟩ := by
  cases hplace : (j.place data).result with
  | ok value =>
      simp [placePassage, hplace, Outcome.ifOk_of_ok hplace, Outcome.andThen_of_ok _ hplace,
        List.getLast?_cons, settlePassage_getLast?]
  | error failure =>
      simp [placePassage, hplace, Outcome.ifOk_of_error hplace, Outcome.andThen_of_error _ hplace,
        Except.isOk, Except.toBool]

theorem passage_getLast? (j : Live σ) (data : Bytes) :
    (j.passage data).getLast? = some ⟨(j.write data).after, false⟩ := by
  cases hbuffer : j.buffer with
  | error shortage => simp [passage_of_shortage hbuffer, write_of_shortage hbuffer, Outcome.fail]
  | ok buffer =>
      by_cases hdata : data = []
      · simp [hdata, passage_nil, write_nil hbuffer, Outcome.done]
      · rw [passage_of_buffer hbuffer hdata, write_of_buffer hbuffer hdata]
        cases hroom : (j.makeRoom data.length).result with
        | ok value =>
            simp [Outcome.ifOk_of_ok hroom, Outcome.andThen_of_ok _ hroom, List.getLast?_cons,
              placePassage_getLast?]
        | error failure =>
            simp [Outcome.ifOk_of_error hroom, Outcome.andThen_of_error _ hroom]

/-! ## From one moment to the next -/

/-- A single change of the tail in the course of a write of `data`, or none. -/
inductive Shifts (data : Bytes) : Bytes → Bytes → Prop
  | stays (tail : Bytes) : Shifts data tail tail
  | emptied (tail : Bytes) : Shifts data tail []
  | joined (tail : Bytes) : Shifts data tail (tail ++ data)
  | takenOut (tail : Bytes) : Shifts data (tail ++ data) tail

/-- The tails of two moments are at most a single change apart. -/
def Adjoins (data : Bytes) (moment next : Moment σ) : Prop :=
  Shifts data moment.state.held next.state.held

theorem flush_shifts (data : Bytes) (j : Live σ) : Shifts data j.held j.flush.after.held := by
  cases hflush : j.flush.result with
  | ok value =>
      rw [held_of_flush hflush]
      exact .emptied _
  | error failure =>
      obtain ⟨hheld, error, happend⟩ := refused_of_flush hflush
      rw [flush_of_refused hheld happend]
      exact .stays _

theorem settlePassage_isChain {j : Live σ} {before data : Bytes}
    (hbuffer : ∃ buffer, j.buffer = .ok buffer) (hjoined : j.held ≠ [] → j.held = before ++ data) :
    (⟨j, true⟩ :: j.settlePassage before.length data.length).IsChain (Adjoins data) := by
  have hcounted : ∀ k : Live σ, Adjoins data ⟨k, true⟩ ⟨k.counted data.length, false⟩ := by
    intro k
    exact .stays _
  rw [settlePassage]
  cases hover : j.overBound with
  | false => simpa using hcounted j
  | true =>
      have hflushed : Adjoins data ⟨j, true⟩ ⟨j.flush.after, true⟩ := flush_shifts data j
      cases hflush : j.flush.result with
      | ok value =>
          have hsynced : Adjoins data ⟨j.flush.after.counted data.length, false⟩
              ⟨(j.flush.after.counted data.length).sync.after, false⟩ := by
            rw [Adjoins, (sync_stays _).2]
            exact .stays _
          simpa using ⟨hflushed, hcounted j.flush.after, hsynced⟩
      | error failure =>
          have hback : Adjoins data ⟨j.flush.after, true⟩
              ⟨j.flush.after.withHeld (j.flush.after.held.take before.length), false⟩ := by
            -- the refused flush has left the tail alone, and the data is its end
            obtain ⟨buffer, hbuffer⟩ := hbuffer
            obtain ⟨hheld, error, happend⟩ := refused_of_flush hflush
            have hstays : j.flush.after.held = before ++ data := by
              rw [flush_of_refused hheld happend]
              exact hjoined hheld
            have hafter : j.flush.after.buffer = .ok buffer := by
              rw [flush_of_refused hheld happend]
              exact hbuffer
            rw [Adjoins, held_withHeld hafter, hstays, List.take_left]
            exact .takenOut before
          simpa using ⟨hflushed, hback⟩

theorem placePassage_isChain {j : Live σ} {data : Bytes}
    (hbuffer : ∃ buffer, j.buffer = .ok buffer)
    (hempty : j.settings.room < data.length → j.held = []) :
    (⟨j, false⟩ :: j.placePassage data).IsChain (Adjoins data) := by
  have hbuffer' := abiding_buffer.place hbuffer data
  obtain ⟨buffer, hbuffer⟩ := hbuffer
  -- data that is too large leaves the tail alone, and finds it empty
  have hplaced : (j.settings.room < data.length ∧ (j.place data).after.held = j.held) ∨
      (j.place data).after.held = j.held ++ data := by
    by_cases hlarge : j.settings.room < data.length
    · left
      refine ⟨hlarge, ?_⟩
      rw [place_of_lt hlarge]
      cases happend : (Medium.append j.medium data).1 with
      | ok value =>
          rw [writeThrough_of_append happend]
          rfl
      | error error =>
          rw [writeThrough_of_refused happend]
          rfl
    · right
      rw [place_of_le (Nat.le_of_not_lt hlarge)]
      exact held_withHeld hbuffer _
  have hfirst : Shifts data j.held (j.place data).after.held := by
    rcases hplaced with ⟨-, hsame⟩ | hjoined
    · rw [hsame]
      exact .stays _
    · rw [hjoined]
      exact .joined _
  rw [placePassage, List.isChain_cons_cons]
  refine ⟨hfirst, ?_⟩
  cases hplace : (j.place data).result with
  | error failure =>
      rw [Outcome.ifOk_of_error hplace]
      exact List.isChain_singleton _
  | ok value =>
      rw [Outcome.ifOk_of_ok hplace]
      apply settlePassage_isChain hbuffer'
      intro hheld
      rcases hplaced with ⟨hlarge, hsame⟩ | hjoined
      · rw [hsame] at hheld
        exact absurd (hempty hlarge) hheld
      · exact hjoined

/-- From one moment to the next the tail changes at most once. -/
theorem passage_isChain (j : Live σ) (data : Bytes) :
    (j.passage data).IsChain (Adjoins data) := by
  cases hbuffer : j.buffer with
  | error shortage =>
      rw [passage_of_shortage hbuffer]
      exact List.isChain_singleton _
  | ok buffer =>
      by_cases hdata : data = []
      · rw [hdata, passage_nil]
        exact List.isChain_singleton _
      · have hfirst : Shifts data j.held (j.makeRoom data.length).after.held := by
          rw [makeRoom]
          split
          · exact flush_shifts data j
          · exact .stays _
        rw [passage_of_buffer hbuffer hdata, List.isChain_cons_cons]
        refine ⟨hfirst, ?_⟩
        cases hroom : (j.makeRoom data.length).result with
        | ok value =>
            rw [Outcome.ifOk_of_ok hroom]
            exact placePassage_isChain (abiding_buffer.makeRoom ⟨buffer, hbuffer⟩ data.length)
              (held_of_makeRoom hroom)
        | error failure =>
            rw [Outcome.ifOk_of_error hroom]
            exact List.isChain_singleton _

/-! ## What is left of a property while a write is pending -/

/-- A property `I` of the states between calls, and what is left of it while a
write of `data` is pending. -/
structure Suspends (data : Bytes) (I P : Live σ → Prop) : Prop where
  calm : Calm I
  calm_pending : Calm P
  joined {j : Live σ} : (∃ buffer, j.buffer = .ok buffer) →
    j.held.length + data.length ≤ j.settings.room → I j → P (j.withHeld (j.held ++ data))
  through {j : Live σ} : j.settings.room < data.length → j.held = [] →
    (Medium.append j.medium data).1 = .ok () → I j →
    P { { j with medium := (Medium.append j.medium data).2 }.booked data.length with
      tally.straightThrough := j.tally.straightThrough + 1 }
  counted {j : Live σ} : P j → I (j.counted data.length)

theorem Abiding.suspends {I : Live σ → Prop} (hI : Abiding I) (data : Bytes) :
    Suspends data I I where
  calm := hI.toCalm
  calm_pending := hI.toCalm
  joined _ _ h := hI.withHeld _ h
  through _ _ happend h := hI.through happend h
  counted h := hI.counted _ h

theorem fits_of_makeRoom {j : Live σ} {count : Nat} (hok : (j.makeRoom count).result = .ok ())
    (hle : count ≤ (j.makeRoom count).after.settings.room) :
    (j.makeRoom count).after.held.length + count ≤ (j.makeRoom count).after.settings.room := by
  rcases makeRoom_cases j count with ⟨-, -, hmake⟩ | ⟨hfits, hmake⟩
  · rw [hmake] at hok hle ⊢
    simpa [held_of_flush hok] using hle
  · rw [hmake] at hle ⊢
    rcases hfits with hempty | hfits
    · simpa [Outcome.done, hempty] using hle
    · exact hfits

variable {data : Bytes} {I P : Live σ → Prop} {j : Live σ}

theorem Suspends.settlePassage (h : Suspends data I P) {kept : Nat} (hj : P j)
    (hback : j.held ≠ [] → I (j.withHeld (j.held.take kept))) :
    ∀ moment ∈ j.settlePassage kept data.length, moment.Meets I P := by
  have hflushed : P j.flush.after := h.calm_pending.flush hj
  intro moment hmem
  rw [Live.settlePassage] at hmem
  split at hmem
  · cases hflush : j.flush.result with
    | ok value =>
        have hcounted := h.counted hflushed
        simp only [hflush, List.mem_cons, List.not_mem_nil, or_false] at hmem
        rcases hmem with rfl | rfl | rfl
        · exact hflushed
        · exact hcounted
        · exact h.calm.sync hcounted
    | error failure =>
        simp only [hflush, List.mem_cons, List.not_mem_nil, or_false] at hmem
        rcases hmem with rfl | rfl
        · exact hflushed
        · -- the flush was refused, so that there is a tail, and the data is in it
          obtain ⟨hheld, error, happend⟩ := refused_of_flush hflush
          have hanswer : (Medium.answer (j.withHeld (j.held.take kept)).medium
              (.append j.held)).1 = .accepted (.error error) :=
            congrArg Medium.Answer.accepted happend
          rw [flush_of_refused hheld happend]
          exact h.calm.refused hanswer (hback hheld)
  · simp only [List.mem_singleton] at hmem
    subst hmem
    exact h.counted hj

theorem Suspends.placePassage (h : Suspends data I P) (hj : I j)
    (hbuffer : ∃ buffer, j.buffer = .ok buffer)
    (hempty : j.settings.room < data.length → j.held = [])
    (hfits : data.length ≤ j.settings.room → j.held.length + data.length ≤ j.settings.room) :
    ∀ moment ∈ j.placePassage data, moment.Meets I P := by
  have hplaced : Moment.Meets I P ⟨(j.place data).after, (j.place data).result.isOk⟩ := by
    by_cases hlarge : j.settings.room < data.length
    · rw [place_of_lt hlarge]
      cases happend : (Medium.append j.medium data).1 with
      | ok value =>
          rw [writeThrough_of_append happend]
          exact h.through hlarge (hempty hlarge) happend hj
      | error error =>
          have hanswer : (Medium.answer j.medium (.append data)).1 = .accepted (.error error) :=
            congrArg Medium.Answer.accepted happend
          rw [writeThrough_of_refused happend]
          exact h.calm.refused hanswer hj
    · have hle := Nat.le_of_not_lt hlarge
      rw [place_of_le hle]
      exact h.joined hbuffer (hfits hle) hj
  intro moment hmem
  rcases List.mem_cons.mp hmem with rfl | hmem
  · exact hplaced
  · cases hplace : (j.place data).result with
    | ok value =>
        rw [hplace] at hplaced
        rw [Outcome.ifOk_of_ok hplace] at hmem
        refine h.settlePassage hplaced ?_ moment hmem
        intro hheld
        rw [place_take_held hbuffer hempty hheld]
        exact hj
    | error failure =>
        rw [Outcome.ifOk_of_error hplace] at hmem
        cases hmem

/-- Where the property holds when a write is called it holds all along, as far as
it is not suspended. -/
theorem Suspends.passage (h : Suspends data I P) (hj : I j) :
    ∀ moment ∈ j.passage data, moment.Meets I P := by
  intro moment hmem
  cases hbuffer : j.buffer with
  | error shortage =>
      rw [passage_of_shortage hbuffer, List.mem_singleton] at hmem
      subst hmem
      exact hj
  | ok buffer =>
      by_cases hdata : data = []
      · rw [hdata, passage_nil, List.mem_singleton] at hmem
        subst hmem
        exact hj
      · have hroomy := h.calm.makeRoom hj data.length
        rw [passage_of_buffer hbuffer hdata] at hmem
        rcases List.mem_cons.mp hmem with rfl | hmem
        · exact hj
        rcases List.mem_cons.mp hmem with rfl | hmem
        · exact hroomy
        cases hroom : (j.makeRoom data.length).result with
        | ok value =>
            rw [Outcome.ifOk_of_ok hroom] at hmem
            exact h.placePassage hroomy (abiding_buffer.makeRoom ⟨buffer, hbuffer⟩ data.length)
              (held_of_makeRoom hroom) (fits_of_makeRoom hroom) moment hmem
        | error failure =>
            rw [Outcome.ifOk_of_error hroom] at hmem
            cases hmem

theorem Suspends.write (h : Suspends data I P) (hj : I j) : I (j.write data).after :=
  h.passage hj _ (List.mem_of_getLast? (j.passage_getLast? data))

end Live

/-! ## Calls and runs -/

namespace Journal

variable {σ β : Type} [Medium σ] [Medium β] [Screened σ β] {I P : Live σ → Prop}

theorem suspended_perform (hI : ∀ data, Live.Suspends data I P) {j j' : Live σ}
    {request : Request} (h : I j) (hafter : ((live j).perform request).1.after = live j') :
    I j' := by
  by_cases hwrite : ∃ data, request = .write data
  · obtain ⟨data, rfl⟩ := hwrite
    obtain rfl := live.inj hafter
    exact (hI data).write h
  · apply calm_perform (hI []).calm h _ hafter
    intro data hdata
    exact hwrite ⟨data, hdata⟩

theorem Traces.suspended (hI : ∀ data, Live.Suspends data I P)
    (hmedium : ∀ (j : Live σ) (medium : σ), I j → I { j with medium }) {j j' : Live σ}
    {steps : List Step} (hrun : Traces (live j) steps (live j')) (h : I j) : I j' := by
  apply hrun.live_induction (P := fun _ last => I last) h
  · intro _ _ _ _ hj hafter
    exact suspended_perform hI hj hafter
  · intro _ _ _ hj
    exact hj
  · intro _ j medium hj _
    exact hmedium j medium hj

end Journal

end WriteBack
