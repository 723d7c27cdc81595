/-
# Pieces — in how many deliveries the bytes arrive makes no difference

A medium that serves its bytes may hand them out one by one, and interrupt as
often as its patience lets it.  A reader does not notice: every read comes to
what it comes to over a medium that delivers everything at once, since both
come to what `Bytes.serve` says of the stream.

What the reads cost can be told from their records, over any medium
(`Live.Sparing`).  Only missing bytes below the boundary are asked for, and no
byte twice; interruptions apart there are at most as many calls as bytes; and
a read that needs nothing from the medium leaves it alone.

A *scripted* medium follows a script for its next reads and then delivers
everything.  A read makes finitely many calls, so that whatever a medium can do
to one read a script can say.
-/
import WriteBack.Proofs.Pursuit
import WriteBack.Proofs.Stability

namespace WriteBack

open Faithful (contents Undisturbed)

/-! ## Media that follow a script -/

/-- What a script says of one read: that it is interrupted, that at most one
byte `more` than so many are delivered, or that it stops here. -/
inductive Turn where
  | interruption
  | upTo (more : Nat)
  | stop (why : Stop)
deriving DecidableEq, Repr

namespace Turn

/-- The answer to a request for `wanted` bytes from `offset` on. -/
def answer (bytes : Bytes) (offset wanted : Nat) : Turn → Delivery
  | interruption => .interrupted
  | upTo more => .bytes (bytes.slice offset (min wanted (more + 1)))
  | stop why => why.answer

/-- The turn does not stop a read. -/
def Proceeds : Turn → Prop
  | stop _ => False
  | _ => True

instance : DecidablePred Proceeds
  | interruption => .isTrue trivial
  | upTo _ => .isTrue trivial
  | stop _ => .isFalse id

theorem length_answer {bytes : Bytes} {offset wanted : Nat} {delivered : Bytes} {turn : Turn}
    (h : turn.answer bytes offset wanted = .bytes delivered) : delivered.length ≤ wanted := by
  cases turn with
  | interruption => cases h
  | upTo more =>
      cases h
      exact Nat.le_trans (Bytes.length_slice_le _ _ _) (Nat.min_le_left _ _)
  | stop why =>
      cases why with
      | dry =>
          cases h
          exact Nat.zero_le _
      | failed error => cases h

theorem Proceeds.answer_cases {bytes : Bytes} {offset wanted : Nat} {turn : Turn}
    (h : turn.Proceeds) (hwanted : 0 < wanted) (hend : offset + wanted ≤ bytes.length) :
    turn.answer bytes offset wanted = .interrupted ∨
      ∃ delivered, delivered ≠ [] ∧ delivered = bytes.slice offset delivered.length ∧
        turn.answer bytes offset wanted = .bytes delivered := by
  cases turn with
  | interruption => exact .inl rfl
  | upTo more =>
      have hlength : (bytes.slice offset (min wanted (more + 1))).length =
          min wanted (more + 1) := by
        rw [Bytes.length_slice]
        omega
      refine .inr ⟨_, ?_, by rw [hlength], rfl⟩
      exact List.ne_nil_of_length_pos (by omega)
  | stop why => exact h.elim

end Turn

/-- A string of bytes whose next reads go by a script; where it ends every
read delivers all it can. -/
structure Scripted where
  bytes : Bytes
  script : List Turn := []
deriving DecidableEq, Repr

namespace Scripted

def readAt (m : Scripted) (offset wanted : Nat) : Delivery × Scripted :=
  match m.script with
  | [] => (.bytes (m.bytes.slice offset wanted), m)
  | turn :: script => (turn.answer m.bytes offset wanted, { m with script })

instance : Medium Scripted where
  position m := m.bytes.length
  size m := m.bytes.length
  readAt := readAt
  append m data := (.ok (), { m with bytes := m.bytes ++ data })
  sync m := (.ok (), m)
  patience m := m.script.length
  length_le {m offset wanted delivered} h := by
    unfold readAt at h
    split at h
    · cases h
      exact Bytes.length_slice_le _ _ _
    · next turn script hscript =>
        have hanswer : turn.answer m.bytes offset wanted = .bytes delivered := h
        exact Turn.length_answer hanswer
  patience_lt {m offset wanted} h := by
    unfold readAt at h ⊢
    split at h
    · cases h
    · next turn script hscript =>
        rw [hscript]
        exact Nat.lt_succ_self _

theorem serves (bytes : Bytes) :
    Medium.Serves bytes fun m : Scripted =>
      m.bytes = bytes ∧ ∀ turn ∈ m.script, turn.Proceeds := by
  rintro ⟨held, script⟩ offset wanted ⟨rfl, hscript⟩ hwanted hend
  cases script with
  | nil =>
      have hlength : (held.slice offset wanted).length = wanted := by
        rw [Bytes.length_slice]
        exact Nat.min_eq_left (Nat.le_sub_of_add_le' hend)
      refine ⟨⟨rfl, hscript⟩, .inr ⟨held.slice offset wanted, ?_, by rw [hlength], rfl⟩⟩
      exact List.ne_nil_of_length_pos (by rw [hlength]; exact hwanted)
  | cons turn script =>
      obtain ⟨hturn, hscript'⟩ := List.forall_mem_cons.mp hscript
      exact ⟨⟨rfl, hscript'⟩, hturn.answer_cases hwanted hend⟩

end Scripted

/-! ## What a read costs -/

theorem Pursues.of_mem {start wanted : Nat} {log : List Exchange} (h : Pursues start wanted log)
    {exchange : Exchange} (hmem : exchange ∈ log) :
    ∃ offset missing : Nat, exchange.call = .readAt offset missing ∧ 0 < missing ∧
      start ≤ offset ∧ offset + missing = start + wanted := by
  obtain ⟨before, after, hlog⟩ := List.append_of_mem hmem
  obtain ⟨hlt, hcall⟩ := h before exchange after hlog
  exact ⟨_, _, hcall, by omega, Nat.le_add_right _ _, by omega⟩

section Costs

variable {σ : Type}

theorem Medium.gathering_eq_nil_iff [Medium σ] (m : σ) (offset wanted : Nat) :
    Medium.gathering m offset wanted = [] ↔ wanted = 0 := by
  by_cases hwanted : wanted = 0
  · rw [hwanted, gathering_zero]
    exact iff_of_true rfl rfl
  · rw [gathering_eq m offset hwanted]
    exact iff_of_false (List.cons_ne_nil _ _) hwanted

namespace Live

/-- The record of a read that asks the medium for no more than it must. -/
structure Sparing (j : Live σ) (available : Nat) (position length : Int64)
    (log : List Exchange) : Prop where
  pursues : Pursues position.toInt.toNat
    (j.onMedium position.toInt.toNat length.toInt.toNat) log
  countP_le : (answersOf log).countP (fun answer => !answer.interrupts) ≤
    j.onMedium position.toInt.toNat length.toInt.toNat
  below : ∀ exchange ∈ log, ∃ offset missing : Nat, exchange.call = .readAt offset missing ∧
    0 < missing ∧ position.toInt.toNat ≤ offset ∧ offset + missing ≤ j.boundary
  eq_nil_iff : log = [] ↔ j.objection? available position length ≠ none ∨ length = 0 ∨
    j.boundary ≤ position.toInt.toNat

theorem Sparing.nil {j : Live σ} {available : Nat} {position length : Int64}
    (h : j.objection? available position length ≠ none) :
    j.Sparing available position length [] where
  pursues := .nil _ _
  countP_le := Nat.zero_le _
  below _ hmem := nomatch hmem
  eq_nil_iff := iff_of_true rfl (.inl h)

/-- Every read is sparing. -/
theorem sparing_reading [Medium σ] (j : Live σ) (available : Nat) (position length : Int64) :
    j.Sparing available position length (j.reading available position length) := by
  unfold reading
  cases hobjection : j.objection? available position length with
  | some failure => exact .nil (by rw [hobjection]; exact Option.some_ne_none failure)
  | none =>
      have hpursues := Medium.pursues_gathering j.medium position.toInt.toNat
        (j.onMedium position.toInt.toNat length.toInt.toNat)
      refine ⟨hpursues, Medium.countP_gathering_le _ _ _, ?_, ?_⟩
      · intro exchange hmem
        obtain ⟨offset, missing, hcall, hpos, hfrom, hsum⟩ := hpursues.of_mem hmem
        refine ⟨offset, missing, hcall, hpos, hfrom, hsum ▸ j.onMedium_le ?_⟩
        omega
      · have hcount : length.toInt.toNat = 0 ↔ length = 0 := by
          obtain ⟨-, hsign, -⟩ := (j.objection?_eq_none_iff _ _ _).mp hobjection
          have hnonneg : ¬ length < 0 := by
            rw [Int64.lt_iff_toInt_lt]
            exact Int.not_lt.mpr hsign
          refine ⟨fun hcount => ?_, fun hzero => by rw [hzero]; rfl⟩
          exact Decidable.byContradiction fun hzero => toNat_ne_zero hnonneg hzero hcount
        show Medium.gathering _ _ _ = [] ↔ _
        rw [Medium.gathering_eq_nil_iff, ← hcount, onMedium]
        simp only [hobjection, ne_eq, not_true_eq_false, false_or]
        omega

end Live

end Costs

/-! ## Reads in pieces -/

theorem Live.Spans.atop {σ τ : Type} {j : Live σ} {below stream : Bytes}
    (h : j.Spans below stream) (medium : τ) : (j.atop medium).Spans below stream :=
  ⟨h.boundary_eq, h.stream_eq⟩

namespace Journal

theorem report_read {σ : Type} [Medium σ] (j : Live σ) (dest : Bytes)
    (position length : Int64) :
    (live j).report (.read dest position length) =
      .called (.read dest position length)
        ((j.read dest position length).1.result.map .copied) (j.read dest position length).2
        [] :=
  congrArg (Report.called _ _ _) (j.read_events dest position length)

section Pieces

variable {σ β τ ω : Type} [Medium σ] [Medium β] [Screened σ β] [Faithful β] [Medium τ] [Medium ω]

theorem Reached.spans {base : β} (hbase : Undisturbed base) {history : List Report}
    {j : Live σ} (h : Reached base history (live j)) :
    j.Spans (contents (Screened.base j.medium)) (contents (Screened.base j.medium) ++ j.held) := by
  have hcarries : j.bare.Carries (contents base ++ accepted history) := h.carries hbase
  exact ⟨hcarries.boundary_eq, rfl⟩

/-- **Pieces and interruptions are invisible.**  In every state that a run can
reach, let the bytes below the boundary be served by a medium that delivers
them in pieces of any size and interrupts in between.  Every read ends; it
comes to what `Bytes.serve` says of the stream, and is reported as it is over a
medium that delivers everything at once.  And it is sparing. -/
theorem Reached.read_in_pieces {base : β} (hbase : Undisturbed base) {history : List Report}
    {j : Live σ} (h : Reached base history (live j)) {Ready : τ → Prop}
    (hserves : Medium.Serves (contents (Screened.base j.medium)) Ready) {pieces : τ}
    (hpieces : Ready pieces) {Whole : ω → Prop}
    (hfills : Medium.Fills (contents (Screened.base j.medium)) Whole) {whole : ω}
    (hwhole : Whole whole) (dest : Bytes) (position length : Int64) :
    (((j.atop pieces).read dest position length).1.result,
        ((j.atop pieces).read dest position length).2) =
        (contents (Screened.base j.medium) ++ j.held).serve dest position length ∧
      (live (j.atop pieces)).report (.read dest position length) =
        (live (j.atop whole)).report (.read dest position length) ∧
      (j.atop pieces).Sparing dest.length position length
        ((live (j.atop pieces)).exchanges (.read dest position length)) := by
  have hspans := h.spans hbase
  have hpiecewise := (hspans.atop pieces).read_served hserves hpieces dest position length
  have hatonce := (hspans.atop whole).read_served hfills.serves hwhole dest position length
  obtain ⟨hresult, hdest⟩ := Prod.ext_iff.mp (hpiecewise.trans hatonce.symm)
  refine ⟨hpiecewise, ?_, ?_⟩
  · dsimp only at hresult hdest
    rw [report_read, report_read, hresult, hdest]
  · rw [exchanges_read]
    exact (j.atop pieces).sparing_reading dest.length position length

/-- Four bytes, of which a read gets one between interruptions and then the
rest. -/
def halting : Scripted :=
  ⟨[9, 8, 7, 6], [.interruption, .upTo 0, .interruption, .interruption]⟩

/-- A range across the boundary, of which three bytes lie on the medium. -/
theorem read_in_pieces_across :
    ∃ (history : List Report) (j : Live (Rigged InMemory)),
      Reached (InMemory.holding halting.bytes) history (live j) ∧
        ((j.atop halting).read [0, 0, 0, 0, 0] 1 4).1.result = .ok 4 ∧
        ((j.atop halting).read [0, 0, 0, 0, 0] 1 4).2 = [8, 7, 6, 1, 0] ∧
        (live (j.atop halting)).report (.read [0, 0, 0, 0, 0] 1 4) =
          (live (j.atop (InMemory.holding halting.bytes))).report
            (.read [0, 0, 0, 0, 0] 1 4) ∧
        (answersOf ((live (j.atop halting)).exchanges (.read [0, 0, 0, 0, 0] 1 4))).countP
          (fun answer => !answer.interrupts) ≤ 3 := by
  have hstart : start (Rigged.behind 1 (InMemory.holding halting.bytes)) {} .heap =
      (.ok _, _) := rfl
  have hopened : Reached (InMemory.holding halting.bytes) _ _ :=
    .opened rfl Supply.heap_honest hstart
  have hreached := hopened.called (.write [1, 2])
  have hready : halting.bytes = halting.bytes ∧ ∀ turn ∈ halting.script, turn.Proceeds :=
    ⟨rfl, by decide⟩
  obtain ⟨hserved, hreport, hsparing⟩ := hreached.read_in_pieces trivial
    (Scripted.serves halting.bytes) hready (Faithful.fills trivial) rfl [0, 0, 0, 0, 0] 1 4
  exact ⟨_, _, hreached, congrArg Prod.fst hserved, congrArg Prod.snd hserved, hreport,
    hsparing.countP_le⟩

end Pieces

end Journal

end WriteBack
