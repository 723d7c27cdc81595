/-
# Mirrors — journals over two media that behave alike

Two media *mirror* each other if there is a relation between their states that
every call preserves, and related media answer every call alike.  Reads may be
an exception: where the one medium fails a read for a reason that is excused,
nothing is expected of the other.

A journal sees of its medium only the answers.  So two journals that are the
same but for their media, which are related, make the same of every call, and
are again the same but for their media, which are still related.  The proof
goes through a journal from its moves up to its calls, and stops only where a
read fails that is excused.
-/
import WriteBack.Proofs.Moves
import WriteBack.Proofs.Run

namespace WriteBack

/-! ## Calls on a medium as data -/

namespace Medium

inductive Call where
  | position
  | size
  | readAt (offset wanted : Nat)
  | append (data : Bytes)
  | sync
deriving DecidableEq, Repr

/-- What a medium answers to a call. -/
inductive Answer where
  | count (count : Nat)
  | delivered (delivery : Delivery)
  | accepted (result : Except MediumError Unit)
deriving Repr

section Calls

variable {σ : Type} [Medium σ]

/-- The answer to a call, and the medium afterwards. -/
def answer (m : σ) : Call → Answer × σ
  | .position => (.count (position m), m)
  | .size => (.count (size m), m)
  | .readAt offset wanted =>
    let (delivery, m') := readAt m offset wanted
    (.delivered delivery, m')
  | .append data =>
    let (result, m') := append m data
    (.accepted result, m')
  | .sync =>
    let (result, m') := sync m
    (.accepted result, m')

def answers (m : σ) : List Call → List Answer × σ
  | [] => ([], m)
  | call :: calls =>
    let (first, m') := answer m call
    let (others, m'') := answers m' calls
    (first :: others, m'')

theorem answers_cons (m : σ) (call : Call) (calls : List Call) :
    answers m (call :: calls) =
      ((answer m call).1 :: (answers (answer m call).2 calls).1,
        (answers (answer m call).2 calls).2) := rfl

end Calls

end Medium

/-! ## Media that answer alike -/

/-- The same answer on both sides, and related states behind it. -/
def Alike {σ τ α : Type} (R : σ → τ → Prop) (here : α × σ) (there : α × τ) : Prop :=
  here.1 = there.1 ∧ R here.2 there.2

theorem Alike.exists_eq {σ τ α : Type} {R : σ → τ → Prop} {here : α × σ} {there : α × τ}
    (h : Alike R here there) :
    ∃ answer m n, here = (answer, m) ∧ there = (answer, n) ∧ R m n :=
  ⟨here.1, here.2, there.2, rfl, Prod.ext h.1.symm rfl, h.2⟩

/-- Related media answer every call alike and stay related, except that the
first may fail a read if that is excused. -/
structure Medium.Mirrors {σ τ : Type} [Medium σ] [Medium τ] (R : σ → τ → Prop)
    (Excused : MediumError → Prop) : Prop where
  position_eq {m : σ} {n : τ} : R m n → Medium.position m = Medium.position n
  size_eq {m : σ} {n : τ} : R m n → Medium.size m = Medium.size n
  append {m : σ} {n : τ} (data : Bytes) : R m n →
    Alike R (Medium.append m data) (Medium.append n data)
  sync {m : σ} {n : τ} : R m n → Alike R (Medium.sync m) (Medium.sync n)
  readAt {m : σ} {n : τ} (offset wanted : Nat) : R m n →
    (∃ error, Excused error ∧ (Medium.readAt m offset wanted).1 = .failed error) ∨
      Alike R (Medium.readAt m offset wanted) (Medium.readAt n offset wanted)

namespace Medium.Mirrors

variable {σ τ : Type} [Medium σ] [Medium τ] {R : σ → τ → Prop} {Excused : MediumError → Prop}

theorem answer (h : Mirrors R Excused) {m : σ} {n : τ} (hmedia : R m n) (call : Call) :
    (∃ error, Excused error ∧ (Medium.answer m call).1 = .delivered (.failed error)) ∨
      Alike R (Medium.answer m call) (Medium.answer n call) := by
  cases call with
  | position => exact .inr ⟨congrArg Answer.count (h.position_eq hmedia), hmedia⟩
  | size => exact .inr ⟨congrArg Answer.count (h.size_eq hmedia), hmedia⟩
  | append data =>
      obtain ⟨hanswer, hmedia'⟩ := h.append data hmedia
      exact .inr ⟨congrArg Answer.accepted hanswer, hmedia'⟩
  | sync =>
      obtain ⟨hanswer, hmedia'⟩ := h.sync hmedia
      exact .inr ⟨congrArg Answer.accepted hanswer, hmedia'⟩
  | readAt offset wanted =>
      rcases h.readAt offset wanted hmedia with ⟨error, hexcused, hfailed⟩ | ⟨hanswer, hmedia'⟩
      · exact .inl ⟨error, hexcused, congrArg Answer.delivered hfailed⟩
      · exact .inr ⟨congrArg Answer.delivered hanswer, hmedia'⟩

theorem answers (h : Mirrors R Excused) {m : σ} {n : τ} (hmedia : R m n) (calls : List Call)
    (hcalm : ∀ error, Excused error →
      Answer.delivered (.failed error) ∉ (Medium.answers m calls).1) :
    Alike R (Medium.answers m calls) (Medium.answers n calls) := by
  induction calls generalizing m n with
  | nil => exact ⟨rfl, hmedia⟩
  | cons call calls ih =>
      rcases h.answer hmedia call with ⟨error, hexcused, hfailed⟩ | ⟨hanswer, hmedia'⟩
      · exact absurd (hfailed ▸ List.mem_cons_self) (hcalm error hexcused)
      · have hrest := ih hmedia' fun error hexcused hmem =>
          hcalm error hexcused (List.mem_cons_of_mem _ hmem)
        rw [answers_cons, answers_cons, hanswer, hrest.1]
        exact ⟨rfl, hrest.2⟩

end Medium.Mirrors

section Gathering

variable {σ τ : Type} [Medium σ] [Medium τ] {R : σ → τ → Prop} {Excused : MediumError → Prop}

theorem Medium.gather_eq (m : σ) (offset : Nat) {wanted : Nat} (hwanted : wanted ≠ 0) :
    Medium.gather m offset wanted =
      match Medium.readAt m offset wanted with
      | (.interrupted, m') => Medium.gather m' offset wanted
      | (.failed error, m') => (⟨[], some (.failed error)⟩, m')
      | (.bytes [], m') => (⟨[], some .dry⟩, m')
      | (.bytes (b :: bs), m') =>
        let rest := Medium.gather m' (offset + (bs.length + 1)) (wanted - (bs.length + 1))
        (⟨b :: bs ++ rest.1.bytes, rest.1.stop⟩, rest.2) := by
  rw [Medium.gather, if_neg hwanted]
  split
  · next answered => simp only [answered]
  · next answered => simp only [answered]
  · next answered => simp only [answered]
  · next answered => simp only [answered]

theorem Medium.Mirrors.readAt_eq (h : Medium.Mirrors R Excused) {m m' : σ} {n : τ}
    (hmedia : R m n) {offset wanted : Nat} {answer : Delivery}
    (answered : Medium.readAt m offset wanted = (answer, m')) :
    (∃ error, Excused error ∧ answer = .failed error) ∨
      ∃ n', Medium.readAt n offset wanted = (answer, n') ∧ R m' n' := by
  have hread := h.readAt offset wanted hmedia
  rw [answered] at hread
  rcases hread with hexcused | ⟨hanswer, hmedia'⟩
  · exact .inl hexcused
  · exact .inr ⟨_, Prod.ext hanswer.symm rfl, hmedia'⟩

/-- A read in many deliveries is the same from both, unless it fails for a
reason that is excused. -/
theorem Medium.Mirrors.gather (h : Medium.Mirrors R Excused) (m : σ) (offset wanted : Nat) :
    ∀ n : τ, R m n →
      (∃ error, Excused error ∧
          (Medium.gather m offset wanted).1.stop = some (.failed error)) ∨
        Alike R (Medium.gather m offset wanted) (Medium.gather n offset wanted) := by
  -- on the calls of the left medium; after each of them the right one is another
  fun_induction Medium.gather m offset wanted with
  | case1 m offset =>
      intro n hmedia
      right
      rw [Medium.gather, if_pos rfl]
      exact ⟨rfl, hmedia⟩
  | case2 m offset wanted hwanted m' answered _ ih =>
      intro n hmedia
      rcases h.readAt_eq hmedia answered with ⟨_, -, hanswer⟩ | ⟨n', answered', hmedia'⟩
      · cases hanswer
      · rw [Medium.gather_eq n offset hwanted, answered']
        exact ih n' hmedia'
  | case3 m offset wanted hwanted error m' answered =>
      intro n hmedia
      rcases h.readAt_eq hmedia answered with ⟨_, hexcused, hanswer⟩ | ⟨n', answered', hmedia'⟩
      · cases hanswer
        exact .inl ⟨error, hexcused, rfl⟩
      · rw [Medium.gather_eq n offset hwanted, answered']
        exact .inr ⟨rfl, hmedia'⟩
  | case4 m offset wanted hwanted m' answered =>
      intro n hmedia
      rcases h.readAt_eq hmedia answered with ⟨_, -, hanswer⟩ | ⟨n', answered', hmedia'⟩
      · cases hanswer
      · rw [Medium.gather_eq n offset hwanted, answered']
        exact .inr ⟨rfl, hmedia'⟩
  | case5 m offset wanted hwanted b bs m' answered rest ih =>
      intro n hmedia
      rcases h.readAt_eq hmedia answered with ⟨_, -, hanswer⟩ | ⟨n', answered', hmedia'⟩
      · cases hanswer
      · rw [Medium.gather_eq n offset hwanted, answered']
        rcases ih n' hmedia' with hexcused | ⟨hgathered, hmedia''⟩
        · exact .inl hexcused
        · refine .inr ⟨?_, hmedia''⟩
          exact congrArg (fun gathered => Gathered.mk (b :: bs ++ gathered.bytes) gathered.stop)
            hgathered

end Gathering

/-! ## Outcomes that are alike -/

namespace Outcome

variable {State State' Wider Wider' α β : Type}

/-- The same result and events, and related states afterwards. -/
structure Mirrored (S : State → State' → Prop) (here : Outcome State α)
    (there : Outcome State' α) : Prop where
  result_eq : here.result = there.result
  events_eq : here.events = there.events
  after : S here.after there.after

variable {S : State → State' → Prop} {here : Outcome State α} {there : Outcome State' α}

theorem Mirrored.done (value : α) {state : State} {state' : State'} (h : S state state') :
    (Outcome.done value state).Mirrored S (.done value state') :=
  ⟨rfl, rfl, h⟩

theorem Mirrored.fail (failure : Failure) {state : State} {state' : State'}
    (h : S state state') :
    (Outcome.fail (α := α) failure state).Mirrored S (.fail failure state') :=
  ⟨rfl, rfl, h⟩

theorem Mirrored.map (h : here.Mirrored S there) (f : α → β) :
    (here.map f).Mirrored S (there.map f) :=
  ⟨congrArg (Except.map f) h.result_eq, h.events_eq, h.after⟩

theorem Mirrored.lift {T : Wider → Wider' → Prop} (h : here.Mirrored S there)
    {wrap : State → Wider} {wrap' : State' → Wider'}
    (hwrap : ∀ state state', S state state' → T (wrap state) (wrap' state')) :
    (here.lift wrap).Mirrored T (there.lift wrap') :=
  ⟨h.result_eq, h.events_eq, hwrap _ _ h.after⟩

theorem Mirrored.andThen (h : here.Mirrored S there) {next : α → State → Outcome State β}
    {next' : α → State' → Outcome State' β}
    (hnext : ∀ value state state', S state state' →
      (next value state).Mirrored S (next' value state')) :
    (here.andThen next).Mirrored S (there.andThen next') := by
  cases hresult : here.result with
  | ok value =>
      obtain ⟨hsecond, htold, hafter⟩ := hnext value _ _ h.after
      rw [andThen_of_ok next hresult, andThen_of_ok next' (h.result_eq.symm.trans hresult)]
      refine ⟨hsecond, ?_, hafter⟩
      show here.events ++ _ = there.events ++ _
      rw [h.events_eq, htold]
  | error failure =>
      rw [andThen_of_error next hresult,
        andThen_of_error next' (h.result_eq.symm.trans hresult)]
      exact ⟨rfl, h.events_eq, h.after⟩

theorem Mirrored.onFailure (h : here.Mirrored S there) {mend : State → State}
    {mend' : State' → State'}
    (hmend : ∀ state state', S state state' → S (mend state) (mend' state')) :
    (here.onFailure mend).Mirrored S (there.onFailure mend') := by
  cases hresult : here.result with
  | ok value =>
      rw [onFailure_of_ok mend hresult, onFailure_of_ok mend' (h.result_eq.symm.trans hresult)]
      exact h
  | error failure =>
      rw [onFailure_of_error mend hresult,
        onFailure_of_error mend' (h.result_eq.symm.trans hresult)]
      exact ⟨h.result_eq, h.events_eq, hmend _ _ h.after⟩

end Outcome

/-! ## The moves of a journal -/

namespace Live

section Over

variable {σ τ : Type} (j : Live σ) (medium : τ)

/-- The same journal over another medium. -/
def atop : Live τ := ⟨j.settings, medium, j.buffer, j.boundary, j.unsynced, j.tally⟩

@[simp] theorem atop_medium : (j.atop medium).medium = medium := rfl

@[simp] theorem atop_settings : (j.atop medium).settings = j.settings := rfl

@[simp] theorem atop_buffer : (j.atop medium).buffer = j.buffer := rfl

@[simp] theorem atop_held : (j.atop medium).held = j.held := rfl

@[simp] theorem atop_exposed : (j.atop medium).exposed = j.exposed := rfl

@[simp] theorem atop_overBound : (j.atop medium).overBound = j.overBound := rfl

@[simp] theorem atop_self : j.atop j.medium = j := rfl

end Over

section Related

variable {σ τ : Type} {R : σ → τ → Prop}

def Mirrored (R : σ → τ → Prop) (j : Live σ) (k : Live τ) : Prop :=
  ∃ medium : τ, R j.medium medium ∧ k = j.atop medium

variable {j : Live σ} {k : Live τ}

theorem Mirrored.held_eq (h : j.Mirrored R k) : j.held = k.held := by
  obtain ⟨n, hmedia, rfl⟩ := h
  rfl

theorem Mirrored.withHeld (h : j.Mirrored R k) (held : Bytes) :
    (j.withHeld held).Mirrored R (k.withHeld held) := by
  obtain ⟨n, hmedia, rfl⟩ := h
  exact ⟨n, hmedia, rfl⟩

theorem Mirrored.counted (h : j.Mirrored R k) (count : Nat) :
    (j.counted count).Mirrored R (k.counted count) := by
  obtain ⟨n, hmedia, rfl⟩ := h
  exact ⟨n, hmedia, rfl⟩

end Related

variable {σ τ : Type} [Medium σ] [Medium τ] {R : σ → τ → Prop} {Excused : MediumError → Prop}
variable {j : Live σ} {k : Live τ}

theorem Mirrored.flush (hmirrors : Medium.Mirrors R Excused) (h : j.Mirrored R k) :
    j.flush.Mirrored (Live.Mirrored R) k.flush := by
  obtain ⟨n, hmedia, rfl⟩ := h
  by_cases hheld : j.held = []
  · rw [flush_of_nil hheld, flush_of_nil (j := j.atop n) hheld]
    exact .done _ ⟨n, hmedia, rfl⟩
  · have hfull : ¬ j.held.isEmpty = true := by simpa using hheld
    obtain ⟨answer, m', n', happend, happend', hmedia'⟩ :=
      (hmirrors.append j.held hmedia).exists_eq
    rw [Live.flush, Live.flush, atop_held, if_neg hfull, if_neg hfull, atop_medium, happend,
      happend']
    cases answer with
    | ok value => exact ⟨rfl, rfl, n', hmedia', rfl⟩
    | error error => exact .fail _ ⟨n', hmedia', rfl⟩

theorem Mirrored.writeThrough (hmirrors : Medium.Mirrors R Excused) (h : j.Mirrored R k)
    (data : Bytes) :
    (j.writeThrough data).Mirrored (Live.Mirrored R) (k.writeThrough data) := by
  obtain ⟨n, hmedia, rfl⟩ := h
  obtain ⟨answer, m', n', happend, happend', hmedia'⟩ := (hmirrors.append data hmedia).exists_eq
  rw [Live.writeThrough, Live.writeThrough, atop_medium, happend, happend']
  cases answer with
  | ok value => exact ⟨rfl, rfl, n', hmedia', rfl⟩
  | error error => exact .fail _ ⟨n', hmedia', rfl⟩

theorem Mirrored.sync (hmirrors : Medium.Mirrors R Excused) (h : j.Mirrored R k) :
    j.sync.Mirrored (Live.Mirrored R) k.sync := by
  obtain ⟨n, hmedia, rfl⟩ := h
  obtain ⟨answer, m', n', hsync, hsync', hmedia'⟩ := (hmirrors.sync hmedia).exists_eq
  rw [Live.sync, Live.sync, atop_medium, hsync, hsync']
  cases answer with
  | ok value => exact .done _ ⟨n', hmedia', rfl⟩
  | error error => exact .fail _ ⟨n', hmedia', rfl⟩

/-! ## The stages of a write -/

theorem Mirrored.makeRoom (hmirrors : Medium.Mirrors R Excused) (h : j.Mirrored R k)
    (count : Nat) : (j.makeRoom count).Mirrored (Live.Mirrored R) (k.makeRoom count) := by
  have hflush := h.flush hmirrors
  obtain ⟨n, hmedia, rfl⟩ := h
  rw [Live.makeRoom, Live.makeRoom, atop_held, atop_settings]
  split
  · exact hflush
  · exact .done _ ⟨n, hmedia, rfl⟩

theorem Mirrored.place (hmirrors : Medium.Mirrors R Excused) (h : j.Mirrored R k)
    (data : Bytes) : (j.place data).Mirrored (Live.Mirrored R) (k.place data) := by
  have hthrough := h.writeThrough hmirrors data
  obtain ⟨n, hmedia, rfl⟩ := h
  rw [Live.place, Live.place, atop_settings]
  split
  · exact hthrough
  · exact .done _ ⟨n, hmedia, rfl⟩

theorem Mirrored.settle (hmirrors : Medium.Mirrors R Excused) (h : j.Mirrored R k)
    (kept count : Nat) :
    (j.settle kept count).Mirrored (Live.Mirrored R) (k.settle kept count) := by
  have hflush := h.flush hmirrors
  have hcounted := h.counted count
  obtain ⟨n, hmedia, rfl⟩ := h
  rw [Live.settle, Live.settle, atop_overBound]
  split
  · refine ((hflush.onFailure ?_).andThen ?_).andThen ?_
    · intro state state' hstate
      rw [hstate.held_eq]
      exact hstate.withHeld _
    · intro _ state state' hstate
      exact (hstate.counted count).sync hmirrors
    · rintro _ state _ ⟨n, hmedia, rfl⟩
      exact ⟨rfl, rfl, n, hmedia, rfl⟩
  · exact .done _ hcounted

/-! ## The calls -/

theorem Mirrored.write (hmirrors : Medium.Mirrors R Excused) (h : j.Mirrored R k)
    (data : Bytes) : (j.write data).Mirrored (Live.Mirrored R) (k.write data) := by
  have hroom := h.makeRoom hmirrors data.length
  obtain ⟨n, hmedia, rfl⟩ := h
  rw [Live.write, Live.write, atop_buffer]
  split
  · exact .fail _ ⟨n, hmedia, rfl⟩
  · split
    · exact .done _ ⟨n, hmedia, rfl⟩
    · apply hroom.andThen
      intro _ roomy roomy' hroomy
      apply (hroomy.place hmirrors data).andThen
      intro _ placed placed' hplaced
      rw [← hroomy.held_eq]
      exact hplaced.settle hmirrors _ _

theorem Mirrored.flushAnd (hmirrors : Medium.Mirrors R Excused) (h : j.Mirrored R k)
    (syncing : Bool) :
    (j.flushAnd syncing).Mirrored (Live.Mirrored R) (k.flushAnd syncing) := by
  apply (h.flush hmirrors).andThen
  intro _ state state' hstate
  cases syncing with
  | true => exact hstate.sync hmirrors
  | false => exact .done _ hstate

theorem Mirrored.forceWrite (hmirrors : Medium.Mirrors R Excused) (h : j.Mirrored R k) :
    j.forceWrite.Mirrored (Live.Mirrored R) k.forceWrite := by
  apply (h.flushAnd hmirrors true).andThen
  rintro _ state _ ⟨n, hmedia, rfl⟩
  exact .done _ ⟨n, hmedia, rfl⟩

theorem Mirrored.lastFlush (hmirrors : Medium.Mirrors R Excused) (h : j.Mirrored R k) :
    j.lastFlush.Mirrored (Live.Mirrored R) k.lastFlush := by
  obtain ⟨hresult, hevents, n, hmedia, hafter⟩ := h.flush hmirrors
  unfold Live.lastFlush
  dsimp only
  rw [← hresult, ← hevents, hafter]
  cases hflush : j.flush.result with
  | ok value => exact ⟨rfl, rfl, n, hmedia, rfl⟩
  | error failure => exact ⟨rfl, rfl, n, hmedia, rfl⟩

theorem Mirrored.copyOut (hmirrors : Medium.Mirrors R Excused) (h : j.Mirrored R k)
    (dest : Bytes) (start count : Nat) :
    (∃ error, Excused error ∧ (j.copyOut dest start count).1.result = .error (.io error)) ∨
      (j.copyOut dest start count).1.Mirrored (Live.Mirrored R) (k.copyOut dest start count).1 ∧
        (j.copyOut dest start count).2 = (k.copyOut dest start count).2 := by
  obtain ⟨n, hmedia, rfl⟩ := h
  have hgather := hmirrors.gather j.medium start (j.onMedium start count) n hmedia
  rw [Live.copyOut, Live.copyOut,
    show (j.atop n).onMedium start count = j.onMedium start count from rfl, atop_medium]
  rcases hgather with ⟨error, hexcused, hstop⟩ | halike
  · left
    cases hm : Medium.gather j.medium start (j.onMedium start count) with
    | mk gathered m' =>
        obtain ⟨bytes, stop⟩ := gathered
        rw [hm] at hstop
        cases hstop
        exact ⟨error, hexcused, rfl⟩
  · obtain ⟨⟨bytes, stop⟩, m', n', hm, hn, hmedia'⟩ := halike.exists_eq
    right
    rw [hm, hn]
    cases stop with
    | none => exact ⟨.done _ ⟨n', hmedia', rfl⟩, rfl⟩
    | some stop =>
        cases stop with
        | dry => exact ⟨.fail _ ⟨n', hmedia', rfl⟩, rfl⟩
        | failed error => exact ⟨.fail _ ⟨n', hmedia', rfl⟩, rfl⟩

theorem Mirrored.read (hmirrors : Medium.Mirrors R Excused) (h : j.Mirrored R k) (dest : Bytes)
    (position length : Int64) :
    (∃ error, Excused error ∧ (j.read dest position length).1.result = .error (.io error)) ∨
      (j.read dest position length).1.Mirrored (Live.Mirrored R) (k.read dest position length).1 ∧
        (j.read dest position length).2 = (k.read dest position length).2 := by
  have hcopy := h.copyOut hmirrors dest position.toInt.toNat length.toInt.toNat
  obtain ⟨n, hmedia, rfl⟩ := h
  rw [Live.read, Live.read,
    show (j.atop n).objection? dest.length position length =
      j.objection? dest.length position length from rfl]
  split
  · exact .inr ⟨.fail _ ⟨n, hmedia, rfl⟩, rfl⟩
  · exact hcopy

theorem Mirrored.drop (hmirrors : Medium.Mirrors R Excused) (h : j.Mirrored R k) :
    R j.drop.1 k.drop.1 ∧ j.drop.2 = k.drop.2 := by
  obtain ⟨hresult, hevents, n', hmedia', hafter⟩ := h.flushAnd hmirrors true
  obtain ⟨n, hmedia, rfl⟩ := h
  unfold Live.drop
  dsimp only
  rw [← hresult, ← hevents, hafter, atop_exposed]
  split
  · exact ⟨hmedia, rfl⟩
  · split
    · exact ⟨hmedia', rfl⟩
    · exact ⟨hmedia', rfl⟩

end Live

/-! ## Whole journals -/

namespace Journal

variable {σ τ : Type}

def atop (j : Journal σ) (medium : τ) : Journal τ :=
  match j with
  | live state => live (state.atop medium)
  | closed settings _ => closed settings medium

@[simp] theorem atop_medium (j : Journal σ) (medium : τ) : (j.atop medium).medium = medium := by
  cases j with
  | live state => rfl
  | closed settings old => rfl

/-- The same journal over a related medium. -/
def Mirrored (R : σ → τ → Prop) (j : Journal σ) (k : Journal τ) : Prop :=
  ∃ medium : τ, R j.medium medium ∧ k = j.atop medium

variable {R : σ → τ → Prop} {Excused : MediumError → Prop} {j : Journal σ} {k : Journal τ}

theorem Mirrored.answer_eq (h : j.Mirrored R k) (query : Query) :
    j.answer query = k.answer query := by
  obtain ⟨n, -, rfl⟩ := h
  cases j with
  | live state => cases query <;> rfl
  | closed settings medium => cases query <;> rfl

theorem Mirrored.onLive {α : Type} (h : j.Mirrored R k)
    {call : Live σ → Outcome (Live σ) α} {call' : Live τ → Outcome (Live τ) α}
    (hcall : ∀ (state : Live σ) (state' : Live τ), state.Mirrored R state' →
      (call state).Mirrored (Live.Mirrored R) (call' state')) :
    (j.onLive call).Mirrored (Journal.Mirrored R) (k.onLive call') := by
  obtain ⟨n, hmedia, rfl⟩ := h
  cases j with
  | closed settings medium => exact .fail _ ⟨n, hmedia, rfl⟩
  | live state =>
      apply (hcall state (state.atop n) ⟨n, hmedia, rfl⟩).lift
      rintro state _ ⟨n', hmedia', rfl⟩
      exact ⟨n', hmedia', rfl⟩

variable [Medium σ] [Medium τ]

theorem Mirrored.close (hmirrors : Medium.Mirrors R Excused) (h : j.Mirrored R k) :
    j.close.Mirrored (Journal.Mirrored R) k.close := by
  obtain ⟨n, hmedia, rfl⟩ := h
  cases j with
  | closed settings medium => exact .done _ ⟨n, hmedia, rfl⟩
  | live state =>
      have hstate : state.Mirrored R (state.atop n) := ⟨n, hmedia, rfl⟩
      show Outcome.Mirrored _ (state.lastFlush.lift fun last => closed last.settings last.medium)
        ((state.atop n).lastFlush.lift fun last => closed last.settings last.medium)
      apply (hstate.lastFlush hmirrors).lift
      rintro state _ ⟨n', hmedia', rfl⟩
      exact ⟨n', hmedia', rfl⟩

/-- A call comes to the same on both, unless it fails with a failure that is
excused. -/
theorem Mirrored.perform (hmirrors : Medium.Mirrors R Excused) (h : j.Mirrored R k)
    (request : Request) :
    (∃ error, Excused error ∧ (j.perform request).1.result = .error (.io error)) ∨
      (j.perform request).1.Mirrored (Journal.Mirrored R) (k.perform request).1 ∧
        (j.perform request).2 = (k.perform request).2 := by
  cases request with
  | write data =>
      have hwrite : (j.write data).Mirrored (Journal.Mirrored R) (k.write data) := by
        apply h.onLive
        intro state state' hstate
        exact hstate.write hmirrors data
      exact .inr ⟨hwrite.map _, rfl⟩
  | flush syncing =>
      have hflush : (j.flush syncing).Mirrored (Journal.Mirrored R) (k.flush syncing) := by
        apply h.onLive
        intro state state' hstate
        exact hstate.flushAnd hmirrors syncing
      exact .inr ⟨hflush.map _, rfl⟩
  | forceWrite =>
      have hforce : j.forceWrite.Mirrored (Journal.Mirrored R) k.forceWrite := by
        apply h.onLive
        intro state state' hstate
        exact hstate.forceWrite hmirrors
      exact .inr ⟨hforce.map _, rfl⟩
  | close => exact .inr ⟨(h.close hmirrors).map _, rfl⟩
  | read dest position length =>
      obtain ⟨n, hmedia, rfl⟩ := h
      cases j with
      | closed settings medium => exact .inr ⟨.fail _ ⟨n, hmedia, rfl⟩, rfl⟩
      | live state =>
          have hstate : state.Mirrored R (state.atop n) := ⟨n, hmedia, rfl⟩
          rcases hstate.read hmirrors dest position length with
            ⟨error, hexcused, hresult⟩ | ⟨hread, hdest⟩
          · left
            refine ⟨error, hexcused, ?_⟩
            exact congrArg (Except.map Reply.copied) hresult
          · right
            refine ⟨Outcome.Mirrored.map (hread.lift ?_) _, hdest⟩
            rintro state _ ⟨n', hmedia', rfl⟩
            exact ⟨n', hmedia', rfl⟩

theorem report_eq {request : Request}
    (hcall : (j.perform request).1.Mirrored (Journal.Mirrored R) (k.perform request).1)
    (hdest : (j.perform request).2 = (k.perform request).2) :
    j.report request = k.report request := by
  show Report.called request (j.perform request).1.result (j.perform request).2
      (j.perform request).1.events =
    .called request (k.perform request).1.result (k.perform request).2
      (k.perform request).1.events
  rw [hcall.result_eq, hcall.events_eq, hdest]

theorem Mirrored.drop (hmirrors : Medium.Mirrors R Excused) (h : j.Mirrored R k) :
    R j.drop.1 k.drop.1 ∧ j.drop.2 = k.drop.2 := by
  obtain ⟨n, hmedia, rfl⟩ := h
  cases j with
  | closed settings medium => exact ⟨hmedia, rfl⟩
  | live state => exact Live.Mirrored.drop hmirrors ⟨n, hmedia, rfl⟩

theorem start_atop (hmirrors : Medium.Mirrors R Excused) {m : σ} {n : τ} (hmedia : R m n)
    (settings : Settings) (supply : Supply) :
    start n settings supply =
      ((start m settings supply).1.map fun j => j.atop n, (start m settings supply).2) := by
  unfold start
  rw [← hmirrors.position_eq hmedia]
  split
  · rfl
  · rfl

end Journal

end WriteBack
