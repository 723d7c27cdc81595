/-
# Breakoff — what a read leaves behind when its medium stops early

A medium *breaks off* if it hands out the first bytes of what it was asked
for, in pieces and with interruptions, and then delivers nothing or fails.
Whichever piece it is after, the read that asked has come exactly that far and
says so: its failure counts what arrived and what was wanted from the medium,
the destination has what arrived at its front and is otherwise as it was, and
so is the journal (`Live.BrokenOff`).  Bytes of the tail are not copied on top
of a gap.  Once the medium serves its bytes again, the same read succeeds.

A file that somebody else has cut breaks off where it now ends.
-/
import WriteBack.Proofs.Pieces

namespace WriteBack

open Faithful (contents Undisturbed)

/-- The failure of a read of `wanted` bytes from `start` on, which its medium
stopped after `got` of them. -/
def Stop.failure (start wanted got : Nat) : Stop → Failure
  | dry => .shortRead start wanted got
  | failed error => .io error

/-! ## Media that break off -/

namespace Medium

section Breaking

variable {σ : Type} [Medium σ] {bytes : Bytes} {m : σ} {offset wanted got : Nat} {stop : Stop}

/-- `BreaksOff bytes m offset wanted got stop`: asked for `wanted` of these
bytes from `offset` on, and again for what is still missing, the medium
delivers the first `got` of them and then stops.  How it parts them is up to
it, and so are interruptions. -/
inductive BreaksOff (bytes : Bytes) : σ → Nat → Nat → Nat → Stop → Prop
  | stops {m : σ} {offset wanted : Nat} {stop : Stop} : 0 < wanted →
      (Medium.readAt m offset wanted).1 = stop.answer → BreaksOff bytes m offset wanted 0 stop
  | again {m next : σ} {offset wanted got : Nat} {stop : Stop} :
      Medium.readAt m offset wanted = (.interrupted, next) →
      BreaksOff bytes next offset wanted got stop → BreaksOff bytes m offset wanted got stop
  | further {m next : σ} {offset wanted got : Nat} {stop : Stop} {delivered : Bytes} :
      Medium.readAt m offset wanted = (.bytes delivered, next) → delivered ≠ [] →
      delivered = bytes.slice offset delivered.length →
      BreaksOff bytes next (offset + delivered.length) (wanted - delivered.length) got stop →
      BreaksOff bytes m offset wanted (delivered.length + got) stop

theorem BreaksOff.got_lt (h : BreaksOff bytes m offset wanted got stop) : got < wanted := by
  induction h with
  | stops hwanted _ => exact hwanted
  | again _ _ ih => exact ih
  | further answered _ _ _ ih =>
      have hle := Medium.length_le (congrArg Prod.fst answered)
      omega

theorem BreaksOff.length_slice (h : BreaksOff bytes m offset wanted got stop) :
    (bytes.slice offset got).length = got := by
  induction h with
  | stops _ _ =>
      rw [Bytes.length_slice]
      exact Nat.zero_min _
  | again _ _ ih => exact ih
  | further _ _ hfirst _ ih => rw [Bytes.slice_add, List.length_append, ← hfirst, ih]

theorem BreaksOff.gather_fst (h : BreaksOff bytes m offset wanted got stop) :
    (gather m offset wanted).1 = ⟨bytes.slice offset got, some stop⟩ := by
  induction h with
  | @stops m offset wanted stop hwanted hanswer =>
      have answered : Medium.readAt m offset wanted =
          (stop.answer, (Medium.readAt m offset wanted).2) := Prod.ext hanswer rfl
      rw [gather_eq m offset (Nat.ne_of_gt hwanted), answered, Bytes.slice, List.take_zero]
      cases stop with
      | dry => rfl
      | failed error => rfl
  | @again m next offset wanted got stop answered hnext ih =>
      have hwanted : wanted ≠ 0 := Nat.ne_zero_of_lt hnext.got_lt
      rw [gather_eq m offset hwanted, answered]
      exact ih
  | @further m next offset wanted got stop delivered answered hne hfirst hnext ih =>
      have hwanted : wanted ≠ 0 := by
        have hlt := hnext.got_lt
        omega
      obtain ⟨b, bs, rfl⟩ := List.exists_cons_of_ne_nil hne
      have hrest : (gather next (offset + (bs.length + 1)) (wanted - (bs.length + 1))).1 = _ := ih
      rw [gather_eq m offset hwanted, answered]
      show Gathered.mk (b :: bs ++ (gather next _ _).1.bytes) (gather next _ _).1.stop = _
      rw [hrest, Bytes.slice_add, ← hfirst]

/-- A medium that has kept only the first of the bytes, and delivers all of
those that it is asked for, breaks off where they end. -/
theorem BreaksOff.of_kept {kept : Bytes} (hkept : kept = bytes.take kept.length)
    (hwanted : 0 < wanted) (hpast : kept.length < offset + wanted)
    (hread : ∀ here missing : Nat, here + missing ≤ offset + wanted →
      Medium.readAt m here missing = (.bytes (kept.slice here missing), m)) :
    BreaksOff bytes m offset wanted (kept.length - offset) .dry := by
  have hend : ∀ here missing : Nat, kept.length ≤ here → here + missing ≤ offset + wanted →
      (Medium.readAt m here missing).1 = Stop.dry.answer := by
    intro here missing hhere hle
    rw [hread here missing hle, Bytes.slice, List.drop_eq_nil_of_le hhere, List.take_nil]
    rfl
  rcases Nat.lt_or_ge offset kept.length with hlt | hge
  · have hslice : kept.slice offset wanted = bytes.slice offset (kept.length - offset) := by
      have hall : (kept.drop offset).length ≤ wanted := by
        rw [List.length_drop]
        omega
      rw [Bytes.slice, Bytes.slice, List.take_of_length_le hall, ← List.drop_take, ← hkept]
    have hgot : (kept.slice offset wanted).length = kept.length - offset := by
      rw [Bytes.length_slice]
      omega
    have hne : kept.slice offset wanted ≠ [] := List.ne_nil_of_length_pos (by omega)
    have hbreaks := BreaksOff.further (hread offset wanted (Nat.le_refl _)) hne
      (hgot.symm ▸ hslice) (.stops (by omega) (hend _ _ (by omega) (by omega)))
    rwa [hgot, Nat.add_zero] at hbreaks
  · rw [Nat.sub_eq_zero_of_le hge]
    exact .stops hwanted (hend offset wanted hge (Nat.le_refl _))

end Breaking

end Medium

/-- The file after somebody else has set its length. -/
def OpenFile.resized (f : OpenFile) (size : Nat) : OpenFile := f.withBytes (f.bytes.resize size)

theorem OpenFile.resized_breaksOff {f : OpenFile} (hplace : f.place ≠ [])
    {size offset wanted : Nat} (hsize : size ≤ f.bytes.length) (hwanted : 0 < wanted)
    (hpast : size < offset + wanted) (hlimit : offset + wanted < offsetLimit) :
    Medium.BreaksOff f.bytes (f.resized size) offset wanted (size - offset) .dry := by
  have hbytes : (f.resized size).bytes = f.bytes.take size := by
    rw [resized, bytes_withBytes f _ hplace, Bytes.resize, Nat.sub_eq_zero_of_le hsize]
    exact List.append_nil _
  have hlength : (f.resized size).bytes.length = size := by
    rw [hbytes, List.length_take, Nat.min_eq_left hsize]
  have hkept : (f.resized size).bytes = f.bytes.take (f.resized size).bytes.length := by
    rw [hlength, hbytes]
  have hread : ∀ here missing : Nat, here + missing ≤ offset + wanted →
      Medium.readAt (f.resized size) here missing =
        (.bytes ((f.resized size).bytes.slice here missing), f.resized size) := by
    intro here missing hle
    show ((f.resized size).readAt here missing, f.resized size) = _
    rw [readAt, if_neg (by omega)]
  have hbreaks := Medium.BreaksOff.of_kept hkept hwanted (by omega) hread
  rwa [hlength] at hbreaks

/-! ## Reads that were broken off -/

namespace Live

section Broken

variable {σ : Type} [Medium σ] {j : Live σ} {below stream dest : Bytes}

/-- What has become of a read that the medium stopped after `got` bytes: the
journal spans the stream from the bytes `below`, which is what a later medium
is to serve for the read to succeed. -/
structure BrokenOff (j : Live σ) (below stream dest : Bytes) (position length : Int64)
    (got : Nat) (stop : Stop) : Prop where
  got_lt : got < j.onMedium position.toInt.toNat length.toInt.toNat
  result_eq : (j.read dest position length).1.result =
    .error (stop.failure position.toInt.toNat
      (j.onMedium position.toInt.toNat length.toInt.toNat) got)
  front_eq : (j.read dest position length).2.take got = stream.slice position.toInt.toNat got
  rest_eq : (j.read dest position length).2.drop got = dest.drop got
  length_eq : (j.read dest position length).2.length = dest.length
  after_eq : (j.read dest position length).1.after =
    j.atop (j.read dest position length).1.after.medium
  view_eq : ∀ {α : Type} (view : σ → α),
    (∀ (m : σ) (offset wanted : Nat), view (Medium.readAt m offset wanted).2 = view m) →
      view (j.read dest position length).1.after.medium = view j.medium
  again : ∀ (Ready : σ → Prop) (later : σ), Medium.Serves below Ready → Ready later →
    (((j.read dest position length).1.after.atop later).read
        (j.read dest position length).2 position length).1.result =
        .ok length.toInt.toNat ∧
      (((j.read dest position length).1.after.atop later).read
        (j.read dest position length).2 position length).2 =
        stream.slice position.toInt.toNat length.toInt.toNat ++ dest.drop length.toInt.toNat

theorem copyOut_of_stop {start count : Nat} {bytes : Bytes} {stop : Stop}
    (h : (Medium.gather j.medium start (j.onMedium start count)).1 = ⟨bytes, some stop⟩) :
    j.copyOut dest start count =
      (.fail (stop.failure start (j.onMedium start count) bytes.length)
          (j.atop (Medium.gather j.medium start (j.onMedium start count)).2),
        dest.overlay bytes) := by
  have hgather : Medium.gather j.medium start (j.onMedium start count) =
      (⟨bytes, some stop⟩, (Medium.gather j.medium start (j.onMedium start count)).2) :=
    Prod.ext h rfl
  rw [copyOut, hgather]
  cases stop with
  | dry => rfl
  | failed error => rfl

/-- A read is broken off as its medium breaks off. -/
theorem Spans.brokenOff (h : j.Spans below stream) {position length : Int64}
    (hthrough : j.objection? dest.length position length = none) {got : Nat} {stop : Stop}
    (hbreaks : Medium.BreaksOff below j.medium position.toInt.toNat
      (j.onMedium position.toInt.toNat length.toInt.toNat) got stop) :
    j.BrokenOff below stream dest position length got stop := by
  obtain ⟨-, -, hrange⟩ := (j.objection?_eq_none_iff _ _ _).mp hthrough
  have hlt := hbreaks.got_lt
  have hmedium : j.onMedium position.toInt.toNat length.toInt.toNat ≤ length.toInt.toNat :=
    Nat.min_le_left _ _
  have hbelow : position.toInt.toNat +
      j.onMedium position.toInt.toNat length.toInt.toNat ≤ below.length := by
    rw [← h.boundary_eq]
    exact j.onMedium_le (by omega)
  have hfront : below.slice position.toInt.toNat got = stream.slice position.toInt.toNat got := by
    rw [← h.stream_eq, Journal.slice_append_of_le j.held fun _ => by omega]
  have hread : j.read dest position length =
      (.fail (stop.failure position.toInt.toNat
          (j.onMedium position.toInt.toNat length.toInt.toNat) got)
        (j.atop (Medium.gather j.medium position.toInt.toNat
          (j.onMedium position.toInt.toNat length.toInt.toNat)).2),
        stream.slice position.toInt.toNat got ++ dest.drop got) := by
    rw [read, hthrough]
    dsimp only
    rw [copyOut_of_stop hbreaks.gather_fst, hbreaks.length_slice, Bytes.overlay,
      hbreaks.length_slice, hfront]
  have hgot : (stream.slice position.toInt.toNat got).length = got :=
    hfront ▸ hbreaks.length_slice
  have hlength : (stream.slice position.toInt.toNat got ++ dest.drop got).length =
      dest.length := by
    rw [List.length_append, hgot, List.length_drop]
    omega
  refine ⟨hlt, ?_, ?_, ?_, ?_, ?_, ?_, ?_⟩
  · rw [hread]
    rfl
  · rw [hread]
    exact List.take_left' hgot
  · rw [hread]
    exact List.drop_left' hgot
  · rw [hread]
    exact hlength
  · rw [hread]
    rfl
  · intro α view hview
    rw [hread]
    exact Medium.gather_view hview _ _ _
  · intro Ready later hserves hready
    -- read once more, what had arrived is written over with the same bytes
    have hend : 0 < length.toInt.toNat →
        position.toInt.toNat + length.toInt.toNat ≤ stream.length := by
      rw [← h.logicalEnd_eq]
      omega
    have hthrough' : (j.atop later).objection?
        (stream.slice position.toInt.toNat got ++ dest.drop got).length position length =
          none := hlength ▸ hthrough
    obtain ⟨hresult, hdest⟩ := (h.atop later).copyOut_eq hserves hready
      (stream.slice position.toInt.toNat got ++ dest.drop got) hend
    rw [hread]
    show ((j.atop later).read _ position length).1.result = _ ∧
      ((j.atop later).read _ position length).2 = _
    rw [read, hthrough']
    refine ⟨hresult, hdest.trans ?_⟩
    rw [List.drop_append, hgot, List.drop_eq_nil_of_le (by omega), List.drop_drop,
      Nat.add_sub_of_le (by omega)]
    rfl

end Broken

end Live

namespace Journal

section Breakoff

variable {σ β : Type} [Medium σ] [Medium β] [Screened σ β] [Faithful β]

/-- **A read that fails says how far it came, and shows just that.**  In every
state that a run can reach, take a read that is let through, and let the bytes
below the boundary be on a medium that breaks off.  Then the read is broken off
after as many bytes and for the same reason.  In particular it is broken off
where a file ends that somebody has cut below the boundary. -/
theorem Reached.read_broken_off {base : β} (hbase : Undisturbed base) {history : List Report}
    {j : Live σ} (h : Reached base history (live j)) (dest : Bytes) (position length : Int64)
    (hthrough : j.objection? dest.length position length = none) :
    (∀ {τ : Type} [Medium τ] (m : τ) (got : Nat) (stop : Stop),
      Medium.BreaksOff (contents (Screened.base j.medium)) m position.toInt.toNat
        (j.onMedium position.toInt.toNat length.toInt.toNat) got stop →
      (j.atop m).BrokenOff (contents (Screened.base j.medium))
        (contents (Screened.base j.medium) ++ j.held) dest position length got stop) ∧
    ∀ (f : OpenFile) (size : Nat), f.place ≠ [] →
      f.bytes = contents (Screened.base j.medium) → f.bytes.length < OpenFile.offsetLimit →
      size < j.boundary → 0 < j.onMedium position.toInt.toNat length.toInt.toNat →
      size < position.toInt.toNat + j.onMedium position.toInt.toNat length.toInt.toNat →
      (j.atop (f.resized size)).BrokenOff f.bytes (f.bytes ++ j.held) dest position length
        (size - position.toInt.toNat) .dry := by
  have hspans := h.spans hbase
  refine ⟨?_, ?_⟩
  · intro τ _ m got stop hbreaks
    exact (hspans.atop m).brokenOff hthrough hbreaks
  · intro f size hplace hbytes hfits hcut hwanted hpast
    have hboundary : j.boundary = f.bytes.length := by rw [hspans.boundary_eq, hbytes]
    have hbelow := j.onMedium_le hwanted
    have hbreaks : Medium.BreaksOff f.bytes (f.resized size) _ _ _ _ :=
      OpenFile.resized_breaksOff hplace (by omega) hwanted hpast (by omega)
    rw [← hbytes] at hspans
    exact (hspans.atop (f.resized size)).brokenOff hthrough hbreaks

def fourBytes : OpenFile :=
  { disk := ⟨.file "four" [9, 8, 7, 6] .empty⟩, path := ⟨["four"]⟩, place := ["four"], cursor := 4 }

/-- The same four bytes, of which a read gets one, is interrupted and fails. -/
def tearing : Scripted :=
  ⟨[9, 8, 7, 6], [.upTo 0, .interruption, .stop (.failed (.described "torn"))]⟩

/-- A range across the boundary, with three bytes below it: one of them arrives
before the medium fails, and as many are left in the file when it is cut. -/
theorem read_broken_off_across :
    ∃ (history : List Report) (j : Live OpenFile),
      Reached fourBytes history (live j) ∧ j.boundary = 4 ∧ j.held = [1, 2] ∧
        (j.atop tearing).BrokenOff [9, 8, 7, 6] [9, 8, 7, 6, 1, 2] [0, 0, 0, 0, 0] 1 4 1
          (.failed (.described "torn")) ∧
        (j.atop (fourBytes.resized 2)).BrokenOff [9, 8, 7, 6] [9, 8, 7, 6, 1, 2]
          [0, 0, 0, 0, 0] 1 4 1 .dry := by
  have hbase : Undisturbed fourBytes := ⟨by decide, rfl⟩
  have hstart : start fourBytes {} .heap = (.ok _, _) := rfl
  have hopened : Reached fourBytes _ _ := .opened rfl Supply.heap_honest hstart
  have hreached := hopened.called (.write [1, 2])
  have hbreaks : Medium.BreaksOff [9, 8, 7, 6] tearing 1 3 1 (.failed (.described "torn")) :=
    .further rfl (List.cons_ne_nil 8 []) rfl (.again rfl (.stops (by decide) rfl))
  obtain ⟨htorn, hcut⟩ := hreached.read_broken_off hbase [0, 0, 0, 0, 0] 1 4 rfl
  exact ⟨_, _, hreached, rfl, rfl, htorn tearing 1 _ hbreaks,
    hcut fourBytes 2 (by decide) rfl (by decide) (by decide) (by decide) (by decide)⟩

end Breakoff

end Journal

end WriteBack
