/-
# Pursuit — how a read goes after what it wants

A read asks its medium for all that it wants, and again for whatever is still
missing, until it has everything or an answer stops it.  What it asks on the
way, with the answers, is its record (`Medium.gathering`, `Live.reading`).

The calls of the record form a *pursuit*: each asks for exactly the rest of
the range, past what the answers before it have delivered.  And because an
answer that does neither interrupt nor stop the read delivers something, there
are at most as many of the others as bytes were wanted.
-/
import WriteBack.Proofs.Gathering
import WriteBack.Proofs.Recording

namespace WriteBack

/-! ## What an answer is to a read -/

namespace Medium

def Answer.portion : Answer → Bytes
  | .delivered (.bytes bytes) => bytes
  | _ => []

def Answer.interrupts : Answer → Bool
  | .delivered .interrupted => true
  | _ => false

/-- All the bytes that the answers deliver, in their order. -/
def arrived (answers : List Answer) : Bytes := answers.flatMap Answer.portion

end Medium

open Medium (arrived)

abbrev answersOf (log : List Exchange) : List Medium.Answer := log.map Exchange.answer

@[simp] theorem answersOf_cons (exchange : Exchange) (log : List Exchange) :
    answersOf (exchange :: log) = exchange.answer :: answersOf log := rfl

/-- A record whose calls go after the `wanted` bytes from `start` on: each of
them asks for all that is still missing after what has arrived, and something
is. -/
def Pursues (start wanted : Nat) (log : List Exchange) : Prop :=
  ∀ (before : List Exchange) (exchange : Exchange) (after : List Exchange),
    log = before ++ exchange :: after →
      (arrived (answersOf before)).length < wanted ∧
        exchange.call = .readAt (start + (arrived (answersOf before)).length)
          (wanted - (arrived (answersOf before)).length)

theorem Pursues.nil (start wanted : Nat) : Pursues start wanted [] := by
  intro before exchange after h
  exact absurd h.symm (List.append_ne_nil_of_right_ne_nil _ (List.cons_ne_nil _ _))

theorem Pursues.cons {start wanted : Nat} {answer : Medium.Answer} {log : List Exchange}
    (hwanted : wanted ≠ 0)
    (h : Pursues (start + answer.portion.length) (wanted - answer.portion.length) log) :
    Pursues start wanted (⟨.readAt start wanted, answer⟩ :: log) := by
  intro before exchange after hlog
  cases before with
  | nil =>
      obtain ⟨rfl, rfl⟩ := List.cons.inj hlog
      exact ⟨Nat.pos_of_ne_zero hwanted, rfl⟩
  | cons first before =>
      obtain ⟨rfl, hrest⟩ := List.cons.inj hlog
      obtain ⟨hlt, hcall⟩ := h before exchange after hrest
      have hlength : (arrived (answersOf (⟨.readAt start wanted, answer⟩ :: before))).length =
          answer.portion.length + (arrived (answersOf before)).length := List.length_append
      rw [hlength, hcall, Nat.add_assoc, Nat.sub_sub]
      exact ⟨by omega, rfl⟩

/-! ## Going on with a record -/

section Records

variable {σ : Type} [Medium σ]

theorem Recorded.mirrors_after (before : List Exchange) :
    Medium.Mirrors
      (fun (fresh later : Recorded σ) =>
        later.inner = fresh.inner ∧ later.log = before ++ fresh.log)
      (fun _ => False) where
  position_eq := by
    rintro fresh ⟨_, _⟩ ⟨rfl, rfl⟩
    rfl
  size_eq := by
    rintro fresh ⟨_, _⟩ ⟨rfl, rfl⟩
    rfl
  append := by
    rintro fresh ⟨_, _⟩ data ⟨rfl, rfl⟩
    exact ⟨rfl, rfl, List.append_assoc _ _ _⟩
  sync := by
    rintro fresh ⟨_, _⟩ ⟨rfl, rfl⟩
    exact ⟨rfl, rfl, List.append_assoc _ _ _⟩
  readAt := by
    rintro fresh ⟨_, _⟩ offset wanted ⟨rfl, rfl⟩
    exact .inr ⟨rfl, rfl, List.append_assoc _ _ _⟩

/-- What a read of `wanted` bytes from `offset` on asks of the medium. -/
def Medium.gathering (m : σ) (offset wanted : Nat) : List Exchange :=
  (Medium.gather (Recorded.mk m []) offset wanted).2.log

theorem Medium.gather_recorded (m : σ) (log : List Exchange) (offset wanted : Nat) :
    Medium.gather (Recorded.mk m log) offset wanted =
      ((Medium.gather m offset wanted).1,
        ⟨(Medium.gather m offset wanted).2, log ++ Medium.gathering m offset wanted⟩) := by
  have hplain := Recorded.mirrors.gather m offset wanted ⟨m, []⟩ rfl
  have hlater := (Recorded.mirrors_after log).gather ⟨m, []⟩ offset wanted ⟨m, log⟩
    ⟨rfl, (List.append_nil log).symm⟩
  rcases hplain with ⟨_, hnever, -⟩ | ⟨hgathered, hinner⟩
  · exact hnever.elim
  rcases hlater with ⟨_, hnever, -⟩ | ⟨hgathered', hinner', hlog⟩
  · exact hnever.elim
  refine Prod.ext (hgathered'.symm.trans hgathered.symm) ?_
  show (Medium.gather (Recorded.mk m log) offset wanted).2 = ⟨_, _⟩
  rw [Medium.gathering, ← hlog, ← hinner, ← hinner']

@[simp] theorem Medium.gathering_zero (m : σ) (offset : Nat) :
    Medium.gathering m offset 0 = [] := by
  rw [gathering, gather, if_pos rfl]

theorem Medium.gathering_eq (m : σ) (offset : Nat) {wanted : Nat} (hwanted : wanted ≠ 0) :
    Medium.gathering m offset wanted =
      ⟨.readAt offset wanted, .delivered (Medium.readAt m offset wanted).1⟩ ::
        match Medium.readAt m offset wanted with
        | (.interrupted, m') => Medium.gathering m' offset wanted
        | (.bytes (_ :: bs), m') =>
          Medium.gathering m' (offset + (bs.length + 1)) (wanted - (bs.length + 1))
        | _ => [] := by
  have hread : Medium.readAt (Recorded.mk m []) offset wanted =
      ((Medium.readAt m offset wanted).1, ⟨(Medium.readAt m offset wanted).2,
        [⟨.readAt offset wanted, .delivered (Medium.readAt m offset wanted).1⟩]⟩) := rfl
  rw [gathering, gather_eq _ _ hwanted, hread]
  match Medium.readAt m offset wanted with
  | (.interrupted, m') => simp only [gather_recorded, List.singleton_append]
  | (.failed error, m') => rfl
  | (.bytes [], m') => rfl
  | (.bytes (b :: bs), m') => simp only [gather_recorded, List.singleton_append]

section Answered

variable {m m' : σ} {offset wanted : Nat}

theorem Medium.gathering_of_interrupted (hwanted : wanted ≠ 0)
    (answered : Medium.readAt m offset wanted = (.interrupted, m')) :
    Medium.gathering m offset wanted =
      ⟨.readAt offset wanted, .delivered .interrupted⟩ ::
        Medium.gathering m' offset wanted := by
  rw [gathering_eq m offset hwanted, answered]

theorem Medium.gathering_of_bytes {b : UInt8} {bs : Bytes} (hwanted : wanted ≠ 0)
    (answered : Medium.readAt m offset wanted = (.bytes (b :: bs), m')) :
    Medium.gathering m offset wanted =
      ⟨.readAt offset wanted, .delivered (.bytes (b :: bs))⟩ ::
        Medium.gathering m' (offset + (bs.length + 1)) (wanted - (bs.length + 1)) := by
  rw [gathering_eq m offset hwanted, answered]

theorem Medium.gathering_of_stop (stop : Stop) (hwanted : wanted ≠ 0)
    (answered : Medium.readAt m offset wanted = (stop.answer, m')) :
    Medium.gathering m offset wanted =
      [⟨.readAt offset wanted, .delivered stop.answer⟩] := by
  rw [gathering_eq m offset hwanted, answered]
  cases stop with
  | dry => rfl
  | failed error => rfl

end Answered

/-! ## What the record of a read tells -/

/-- Every call asks for all that is still missing. -/
theorem Medium.pursues_gathering (m : σ) (offset wanted : Nat) :
    Pursues offset wanted (Medium.gathering m offset wanted) := by
  fun_induction Medium.gather m offset wanted with
  | case1 m offset =>
      rw [gathering_zero]
      exact .nil _ _
  | case2 m offset wanted hwanted m' answered _ ih =>
      rw [gathering_of_interrupted hwanted answered]
      exact .cons hwanted ih
  | case3 m offset wanted hwanted error m' answered =>
      rw [gathering_of_stop (.failed error) hwanted answered]
      exact .cons hwanted (.nil _ _)
  | case4 m offset wanted hwanted m' answered =>
      rw [gathering_of_stop .dry hwanted answered]
      exact .cons hwanted (.nil _ _)
  | case5 m offset wanted hwanted b bs m' answered rest ih =>
      rw [gathering_of_bytes hwanted answered]
      exact .cons hwanted ih

/-- Interruptions apart, a read makes at most as many calls as it wants bytes:
each of the others delivers something or is the last one. -/
theorem Medium.countP_gathering_le (m : σ) (offset wanted : Nat) :
    (answersOf (Medium.gathering m offset wanted)).countP (fun answer => !answer.interrupts) ≤
      wanted := by
  fun_induction Medium.gather m offset wanted with
  | case1 m offset =>
      rw [gathering_zero]
      exact Nat.zero_le _
  | case2 m offset wanted hwanted m' answered _ ih =>
      rw [gathering_of_interrupted hwanted answered]
      exact ih
  | case3 m offset wanted hwanted error m' answered =>
      rw [gathering_of_stop (.failed error) hwanted answered]
      exact Nat.pos_of_ne_zero hwanted
  | case4 m offset wanted hwanted m' answered =>
      rw [gathering_of_stop .dry hwanted answered]
      exact Nat.pos_of_ne_zero hwanted
  | case5 m offset wanted hwanted b bs m' answered rest ih =>
      have hle : bs.length + 1 ≤ wanted := Medium.length_le (congrArg Prod.fst answered)
      rw [gathering_of_bytes hwanted answered, answersOf_cons, List.countP_cons_of_pos rfl]
      omega

end Records

/-! ## Reads of a journal on record -/

namespace Live

variable {σ : Type} [Medium σ]

/-- What a read into a destination of `available` bytes asks of the medium:
nothing if there is an objection to it, and otherwise its part below the
boundary. -/
def reading (j : Live σ) (available : Nat) (position length : Int64) : List Exchange :=
  match j.objection? available position length with
  | some _ => []
  | none =>
    Medium.gathering j.medium position.toInt.toNat
      (j.onMedium position.toInt.toNat length.toInt.toNat)

end Live

theorem Journal.exchanges_read {σ : Type} [Medium σ] (j : Live σ) (dest : Bytes)
    (position length : Int64) :
    (live j).exchanges (.read dest position length) = j.reading dest.length position length := by
  show ((j.recording []).read dest position length).1.after.medium.log = _
  rw [Live.read, Live.reading,
    show (j.recording []).objection? dest.length position length =
      j.objection? dest.length position length from rfl]
  cases j.objection? dest.length position length with
  | some failure => rfl
  | none =>
      show ((j.recording []).copyOut dest _ _).1.after.medium.log = _
      unfold Live.copyOut Medium.gathering
      dsimp only
      split <;> next hgather => exact congrArg (fun gathered => gathered.2.log) hgather.symm

end WriteBack
