/-
# Reading — a read is served from the stream

What a read is to come to can be told from the stream alone (`Bytes.serve`):
six objections in a fixed order, and if there is none the bytes that were
asked for, laid over the front of the destination.  Where the boundary lies
does not enter.

A journal reads that way as long as its medium *serves* the bytes it has: it
answers every request for some of them with a first part of what was asked
for, or interrupts.  Then `gather` ends with all of them, in however many
deliveries.  A faithful base serves its contents, and behind panels that have
nothing armed against reads it still does.
-/
import WriteBack.Proofs.Stream

namespace WriteBack

open Faithful (contents Undisturbed Addressable)

/-! ## Gathering what a medium serves -/

section Gathering

variable {σ : Type} [Medium σ]

/-- While `Ready` holds the medium serves these bytes: asked for some of them
it delivers the first of those, at least one, or it interrupts; and it stays
ready. -/
def Medium.Serves (bytes : Bytes) (Ready : σ → Prop) : Prop :=
  ∀ (m : σ) (offset wanted : Nat), Ready m → 0 < wanted → offset + wanted ≤ bytes.length →
    Ready (Medium.readAt m offset wanted).2 ∧
      ((Medium.readAt m offset wanted).1 = .interrupted ∨
        ∃ delivered, delivered ≠ [] ∧ delivered = bytes.slice offset delivered.length ∧
          (Medium.readAt m offset wanted).1 = .bytes delivered)

/-- While `Ready` holds the medium delivers all that it is asked for of these
bytes at once; and it stays ready. -/
def Medium.Fills (bytes : Bytes) (Ready : σ → Prop) : Prop :=
  ∀ (m : σ) (offset wanted : Nat), Ready m → 0 < wanted → offset + wanted ≤ bytes.length →
    Ready (Medium.readAt m offset wanted).2 ∧
      (Medium.readAt m offset wanted).1 = .bytes (bytes.slice offset wanted)

theorem Bytes.slice_add (bytes : Bytes) (offset first rest : Nat) :
    bytes.slice offset (first + rest) =
      bytes.slice offset first ++ bytes.slice (offset + first) rest := by
  rw [slice, slice, slice, List.take_add, List.drop_drop]

theorem Bytes.length_slice (bytes : Bytes) (offset count : Nat) :
    (bytes.slice offset count).length = min count (bytes.length - offset) := by
  rw [slice, List.length_take, List.length_drop]

theorem Medium.Fills.serves {bytes : Bytes} {Ready : σ → Prop}
    (hfills : Medium.Fills bytes Ready) : Medium.Serves bytes Ready := by
  intro m offset wanted hready hwanted hend
  obtain ⟨hready', hanswer⟩ := hfills m offset wanted hready hwanted hend
  have hlength : (bytes.slice offset wanted).length = wanted := by
    rw [Bytes.length_slice]
    omega
  refine ⟨hready', .inr ⟨_, ?_, by rw [hlength], hanswer⟩⟩
  exact List.ne_nil_of_length_pos (by omega)

theorem Medium.Serves.of_answer {bytes : Bytes} {Ready : σ → Prop}
    (hserves : Medium.Serves bytes Ready) {m m' : σ} {offset wanted : Nat} {answer : Delivery}
    (hready : Ready m) (hwanted : wanted ≠ 0)
    (hend : 0 < wanted → offset + wanted ≤ bytes.length)
    (h : Medium.readAt m offset wanted = (answer, m')) :
    Ready m' ∧ (answer = .interrupted ∨
      ∃ delivered, delivered ≠ [] ∧ delivered = bytes.slice offset delivered.length ∧
        answer = .bytes delivered) := by
  have hpos := Nat.pos_of_ne_zero hwanted
  have hcases := hserves m offset wanted hready hpos (hend hpos)
  rw [h] at hcases
  exact hcases

/-- From a medium that serves the bytes everything wanted is gathered. -/
theorem Medium.Serves.gather_fst {bytes : Bytes} {Ready : σ → Prop}
    (hserves : Medium.Serves bytes Ready) {m : σ} {offset wanted : Nat} (hready : Ready m)
    (hend : 0 < wanted → offset + wanted ≤ bytes.length) :
    (Medium.gather m offset wanted).1 = ⟨bytes.slice offset wanted, none⟩ := by
  fun_induction Medium.gather m offset wanted with
  | case1 => rfl
  | case2 m offset wanted hwanted m' answered _ ih =>
      exact ih (hserves.of_answer hready hwanted hend answered).1 hend
  | case3 m offset wanted hwanted error m' answered =>
      obtain ⟨-, h | ⟨_, -, -, h⟩⟩ := hserves.of_answer hready hwanted hend answered
      · cases h
      · cases h
  | case4 m offset wanted hwanted m' answered =>
      obtain ⟨-, h | ⟨_, hne, -, h⟩⟩ := hserves.of_answer hready hwanted hend answered
      · cases h
      · exact absurd (Delivery.bytes.inj h).symm hne
  | case5 m offset wanted hwanted b bs m' answered rest ih =>
      obtain ⟨hready', h | ⟨_, -, hfirst, h⟩⟩ :=
        hserves.of_answer hready hwanted hend answered
      · cases h
      obtain rfl := Delivery.bytes.inj h
      have hle : (b :: bs).length ≤ wanted := Medium.length_le (congrArg Prod.fst answered)
      have hsum : wanted = (bs.length + 1) + (wanted - (bs.length + 1)) :=
        (Nat.add_sub_of_le hle).symm
      have hend' : 0 < wanted - (bs.length + 1) →
          offset + (bs.length + 1) + (wanted - (bs.length + 1)) ≤ bytes.length := by
        intro _
        have := hend (Nat.pos_of_ne_zero hwanted)
        omega
      have hrest := ih hready' hend'
      show Gathered.mk (b :: bs ++ rest.1.bytes) rest.1.stop = _
      rw [hrest, hsum, Bytes.slice_add, ← hsum]
      exact congrArg (fun first => Gathered.mk (first ++ _) none) hfirst

end Gathering

theorem Faithful.fills {β : Type} [Medium β] [Faithful β] {base : β}
    (hfits : Addressable base) : Medium.Fills (contents base) fun m => m = base := by
  rintro m offset wanted rfl hwanted hend
  exact ⟨Steady.readAt_snd m offset wanted, readAt_fst hfits hend⟩

theorem Faithful.serves {β : Type} [Medium β] [Faithful β] {base : β}
    (hfits : Addressable base) : Medium.Serves (contents base) fun m => m = base :=
  (Faithful.fills hfits).serves

/-! ## Panels with nothing armed against reads -/

section Panels

open Rig

/-- Nothing is armed against reads. -/
def Rig.Panel.LetsRead (panel : Panel) : Prop :=
  panel.readAt = none ∧ panel.shortRead = none

instance : DecidablePred Rig.Panel.LetsRead := fun panel =>
  inferInstanceAs (Decidable (panel.readAt = none ∧ panel.shortRead = none))

theorem Rig.Panel.LetsRead.meetRead {panel : Panel} (h : panel.LetsRead) :
    panel.meetRead = (none, { panel with reads := panel.reads + 1 }) := by
  simp [Panel.meetRead, trip, armed, h.1, h.2]

theorem Rig.passDown_of_letsRead {panels : List Panel} (h : ∀ panel ∈ panels, panel.LetsRead) :
    ∃ panels', passDown Panel.meetRead panels = (none, panels') ∧
      ∀ panel ∈ panels', panel.LetsRead := by
  induction panels with
  | nil => exact ⟨[], rfl, h⟩
  | cons panel inner ih =>
      obtain ⟨hpanel, hinner⟩ := List.forall_mem_cons.mp h
      obtain ⟨inner', hpass, hinner'⟩ := ih hinner
      refine ⟨{ panel with reads := panel.reads + 1 } :: inner', ?_,
        List.forall_mem_cons.mpr ⟨hpanel, hinner'⟩⟩
      rw [passDown, hpanel.meetRead, hpass]

variable {β : Type} [Medium β] [Faithful β]

theorem Rigged.serves {base : β} (hfits : Addressable base) :
    Medium.Serves (contents base) fun m : Rigged β =>
      m.base = base ∧ ∀ panel ∈ m.panels, panel.LetsRead := by
  rintro m offset wanted ⟨rfl, hpanels⟩ hwanted hend
  obtain ⟨panels, hpass, hpanels'⟩ := passDown_of_letsRead hpanels
  have hread : Medium.readAt m offset wanted = _ := readAt_of_none offset wanted hpass
  obtain ⟨hbase, hanswer⟩ := Faithful.serves hfits m.base offset wanted rfl hwanted hend
  rw [hread]
  exact ⟨⟨hbase, hpanels'⟩, hanswer⟩

end Panels

/-! ## What a read is to come to -/

/-- A read of `length` bytes from `position` on into `dest`, told from the
stream alone: what it returns, and the destination afterwards. -/
def Bytes.serve (stream dest : Bytes) (position length : Int64) : Except Failure Nat × Bytes :=
  let start := position.toInt.toNat
  let count := length.toInt.toNat
  if position < 0 then (.error (.invalidArgument (.negativePosition position)), dest)
  else if length < 0 then (.error (.invalidArgument (.negativeLength length)), dest)
  else if length = 0 then (.ok 0, dest)
  else if stream.length ≤ start then
    (.error (.invalidArgument (.beyondEnd start stream.length)), dest)
  else if stream.length < start + count then
    (.error (.underflow start count stream.length), dest)
  else if dest.length < count then (.error (.destinationTooSmall count dest.length), dest)
  else (.ok count, stream.slice start count ++ dest.drop count)

theorem Bytes.slice_append (front back : Bytes) (start count : Nat) :
    (front ++ back).slice start count =
      front.slice start (min count (front.length - start)) ++
        back.slice (start - front.length) (count - min count (front.length - start)) := by
  have hrest : count - min count (front.length - start) = count - (front.length - start) := by
    omega
  rw [slice, slice, slice, List.drop_append, List.take_append, List.length_drop, hrest,
    ← List.length_drop, ← List.take_eq_take_min]

theorem toNat_ne_zero {length : Int64} (hsign : ¬ length < 0) (hzero : length ≠ 0) :
    length.toInt.toNat ≠ 0 := by
  intro hcount
  have hnonneg : ¬ length.toInt < 0 := by
    rwa [Int64.lt_iff_toInt_lt] at hsign
  have heq : length.toInt = (0 : Int64).toInt := by
    show length.toInt = 0
    omega
  exact hzero (Int64.toInt_inj.mp heq)

namespace Live

section Spans

variable {σ : Type} {j : Live σ} {below stream : Bytes}

/-- The journal spans the stream: up to the boundary it is the bytes `below`,
and the tail is the rest. -/
structure Spans (j : Live σ) (below stream : Bytes) : Prop where
  boundary_eq : j.boundary = below.length
  stream_eq : below ++ j.held = stream

theorem Spans.logicalEnd_eq (h : j.Spans below stream) : j.logicalEnd = stream.length := by
  rw [logicalEnd, h.boundary_eq, ← h.stream_eq, List.length_append]

theorem Spans.onMedium_append_fromTail (h : j.Spans below stream) (start count : Nat) :
    below.slice start (j.onMedium start count) ++ j.fromTail start count =
      stream.slice start count := by
  rw [← h.stream_eq, Bytes.slice_append, ← h.boundary_eq]
  rfl

variable [Medium σ]

theorem Spans.copyOut_eq (h : j.Spans below stream) {Ready : σ → Prop}
    (hserves : Medium.Serves below Ready) (hready : Ready j.medium)
    (dest : Bytes) {start count : Nat} (hend : 0 < count → start + count ≤ stream.length) :
    (j.copyOut dest start count).1.result = .ok count ∧
      (j.copyOut dest start count).2 = stream.slice start count ++ dest.drop count := by
  have hboundary := h.boundary_eq
  have hgather : Medium.gather j.medium start (j.onMedium start count) =
      (⟨below.slice start (j.onMedium start count), none⟩,
        (Medium.gather j.medium start (j.onMedium start count)).2) := by
    refine Prod.ext (hserves.gather_fst hready ?_) rfl
    intro hpos
    rw [onMedium] at hpos ⊢
    omega
  have hlength : (stream.slice start count).length = count := by
    rw [Bytes.length_slice]
    omega
  rw [copyOut, hgather]
  refine ⟨rfl, ?_⟩
  show dest.overlay _ = _
  rw [h.onMedium_append_fromTail, Bytes.overlay, hlength]

/-- A read is served from the stream. -/
theorem Spans.read_served (h : j.Spans below stream) {Ready : σ → Prop}
    (hserves : Medium.Serves below Ready) (hready : Ready j.medium)
    (dest : Bytes) (position length : Int64) :
    ((j.read dest position length).1.result, (j.read dest position length).2) =
      stream.serve dest position length := by
  rw [read, objection?, Bytes.serve, h.logicalEnd_eq]
  by_cases hposition : position < 0
  · rw [if_pos hposition, if_pos hposition]
    rfl
  rw [if_neg hposition, if_neg hposition]
  by_cases hlength : length < 0
  · rw [if_pos hlength, if_pos hlength]
    rfl
  rw [if_neg hlength, if_neg hlength]
  by_cases hzero : length = 0
  · have hcount : length.toInt.toNat = 0 := by rw [hzero]; rfl
    have hend : 0 < length.toInt.toNat →
        position.toInt.toNat + length.toInt.toNat ≤ stream.length := by omega
    obtain ⟨hresult, hdest⟩ := h.copyOut_eq hserves hready dest hend
    rw [if_pos hcount, if_pos hzero]
    dsimp only
    rw [hresult, hdest, hcount]
    rfl
  have hcount : length.toInt.toNat ≠ 0 := toNat_ne_zero hlength hzero
  rw [if_neg hcount, if_neg hzero]
  by_cases hbeyond : stream.length ≤ position.toInt.toNat
  · rw [if_pos hbeyond, if_pos hbeyond]
    rfl
  rw [if_neg hbeyond, if_neg hbeyond]
  by_cases hunder : stream.length < position.toInt.toNat + length.toInt.toNat
  · rw [if_pos hunder, if_pos hunder]
    rfl
  rw [if_neg hunder, if_neg hunder]
  by_cases hsmall : dest.length < length.toInt.toNat
  · rw [if_pos hsmall, if_pos hsmall]
    rfl
  rw [if_neg hsmall, if_neg hsmall]
  obtain ⟨hresult, hdest⟩ := h.copyOut_eq hserves hready dest fun _ => Nat.le_of_not_lt hunder
  dsimp only
  rw [hresult, hdest]

end Spans

section Carries

variable {σ β : Type} [Medium σ] [Medium β] [Screened σ β] [Faithful β]
variable {j : Live σ} {stream : Bytes}

theorem Carries.spans (h : j.bare.Carries stream) :
    j.Spans (contents (Screened.base j.medium)) stream :=
  ⟨h.boundary_eq, h.stream_eq⟩

theorem Carries.read_served (h : j.bare.Carries stream) {Ready : σ → Prop}
    (hserves : Medium.Serves (contents j.bare.medium) Ready) (hready : Ready j.medium)
    (dest : Bytes) (position length : Int64) :
    ((j.read dest position length).1.result, (j.read dest position length).2) =
      stream.serve dest position length :=
  h.spans.read_served hserves hready dest position length

end Carries

end Live

namespace Journal

variable {β : Type} [Medium β] [Faithful β]

/-- **A read serves exactly the stream.**  In every state that a run can
reach, with nothing armed against reads and no byte of the base out of reach,
a read comes to what `Bytes.serve` says of the base and the tail as one
string, and leaves the journal as it was. -/
theorem Reached.read_eq_serve {base : β} (hbase : Undisturbed base) {history : List Report}
    {j : Live (Rigged β)} (h : Reached base history (live j))
    (hpanels : ∀ panel ∈ j.medium.panels, panel.LetsRead)
    (hfits : Addressable j.medium.base) (dest : Bytes) (position length : Int64) :
    (((live j).read dest position length).1.result, ((live j).read dest position length).2) =
        (contents j.medium.base ++ j.held).serve dest position length ∧
      ∃ j' : Live (Rigged β),
        ((live j).read dest position length).1.after = live j' ∧ j'.bare = j.bare := by
  have hcarries : j.bare.Carries (contents base ++ accepted history) := h.carries hbase
  have hstream : contents j.medium.base ++ j.held = contents base ++ accepted history :=
    hcarries.stream_eq
  rw [hstream]
  exact ⟨hcarries.read_served (Rigged.serves hfits) ⟨rfl, hpanels⟩ dest position length,
    _, rfl, j.read_bare dest position length⟩

/-- A read across the boundary. -/
theorem read_eq_serve_across :
    ∃ (history : List Report) (j : Live (Rigged InMemory)),
      Reached (InMemory.holding [9]) history (live j) ∧
        ((live j).read [0, 0, 0, 0] 0 3).1.result = .ok 3 ∧
        ((live j).read [0, 0, 0, 0] 0 3).2 = [9, 1, 2, 0] := by
  have hstart : start (Rigged.behind 1 (InMemory.holding [9])) {} .heap = (.ok _, _) := rfl
  have hopened : Reached (InMemory.holding [9]) _ _ := .opened rfl Supply.heap_honest hstart
  have hreached := hopened.called (.write [1, 2])
  have hserved := (hreached.read_eq_serve trivial (by decide) trivial [0, 0, 0, 0] 0 3).1
  exact ⟨_, _, hreached, congrArg Prod.fst hserved, congrArg Prod.snd hserved⟩

end Journal

end WriteBack
