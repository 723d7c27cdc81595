/-
# Salvage — what is still read from a file that was tampered with

A journal over a file does not look at the file to know where it stands, so that
whatever others do to the file its offsets stay.  What it reads back depends on what they have
done: a byte that had reached the file when they cut it off or wrote over it is
*spoilt*, and no other byte is.  The tail cannot be spoilt, even if the file has
become shorter meanwhile: it goes to the offset where it belongs.

The proof keeps beside the medium what the journal *believes* to be on it, which
is what was there and then what was handed over.  A journal over beliefs is
faithful by definition, so that it carries the stream like every other, and it
tells nothing apart (`Believing.mirrors`).  What is left to show is that belief
and file agree wherever nothing is spoilt (`Sound`).
-/
import WriteBack.Proofs.Interchange
import WriteBack.Proofs.Stability
import WriteBack.Proofs.Tampering

namespace WriteBack

open Faithful (contents Undisturbed Addressable)

/-! ## Bytes that are spoilt -/

/-- A change to a file, and how far the file had been written before. -/
structure Harm where
  change : Change
  reach : Nat
deriving DecidableEq, Repr

/-- A byte had been written when it was cut off or written over. -/
def Spoilt (harms : List Harm) (i : Nat) : Prop :=
  ∃ harm ∈ harms, i < harm.reach ∧ harm.change.Touches i

instance (harms : List Harm) (i : Nat) : Decidable (Spoilt harms i) :=
  inferInstanceAs (Decidable (∃ harm ∈ harms, i < harm.reach ∧ harm.change.Touches i))

theorem not_spoilt_concat {harms : List Harm} {last : Harm} {i : Nat} :
    ¬ Spoilt (harms ++ [last]) i ↔
      ¬ Spoilt harms i ∧ ¬ (i < last.reach ∧ last.change.Touches i) := by
  simp [Spoilt]

theorem Bytes.getElem?_slice (bytes : Bytes) (offset : Nat) {count k : Nat} (hk : k < count) :
    (bytes.slice offset count)[k]? = bytes[offset + k]? := by
  rw [slice, List.getElem?_take_of_lt hk, List.getElem?_drop]

/-! ## Media with beliefs -/

/-- A medium, and the bytes that are believed to be on it. -/
structure Believing (σ : Type) where
  inner : σ
  believed : Bytes

namespace Believing

section Screen

variable {σ β : Type} [Medium σ] [Medium β]

def taken (data : Bytes) : Except MediumError Unit → Bytes
  | .ok _ => data
  | .error _ => []

instance : Medium (Believing σ) where
  position m := Medium.position m.inner
  size m := Medium.size m.inner
  readAt m offset wanted :=
    let (answer, inner) := Medium.readAt m.inner offset wanted
    (answer, { m with inner })
  append m data :=
    let (answer, inner) := Medium.append m.inner data
    (answer, ⟨inner, m.believed ++ taken data answer⟩)
  sync m :=
    let (answer, inner) := Medium.sync m.inner
    (answer, { m with inner })
  patience m := Medium.patience m.inner
  length_le h := Medium.length_le h
  patience_lt h := Medium.patience_lt h

theorem mirrors :
    Medium.Mirrors (fun (m : σ) (believing : Believing σ) => believing.inner = m)
      (fun _ => False) where
  position_eq h := congrArg Medium.position h.symm
  size_eq h := congrArg Medium.size h.symm
  append _ h := h ▸ ⟨rfl, rfl⟩
  sync h := h ▸ ⟨rfl, rfl⟩
  readAt _ _ h := .inr (h ▸ ⟨rfl, rfl⟩)

/-- A screen remains one: what it stops is not believed to have been written. -/
instance [Screened σ β] : Screened (Believing σ) (Believing β) where
  base m := ⟨Screened.base m.inner, m.believed⟩
  Meddled m m' := Screened.Meddled m.inner m'.inner ∧ m'.believed = m.believed
  base_of_meddled := by
    rintro m m' ⟨hmeddled, hbelieved⟩
    rw [Screened.base_of_meddled hmeddled, hbelieved]
  position_eq m := Screened.position_eq m.inner
  append_cases m data := by
    have hafter : Medium.append m data = ((Medium.append m.inner data).1,
        ⟨(Medium.append m.inner data).2,
          m.believed ++ taken data (Medium.append m.inner data).1⟩) := rfl
    rw [hafter]
    rcases Screened.append_cases m.inner data with ⟨hanswer, hbase⟩ | ⟨hanswer, hbase⟩
    · left
      refine ⟨hanswer, ?_⟩
      dsimp only
      rw [hbase, hanswer, taken, List.append_nil]
    · right
      refine ⟨hanswer, ?_⟩
      dsimp only
      rw [hbase, hanswer]
      rfl
  sync_cases m := by
    rcases Screened.sync_cases m.inner with ⟨hanswer, hbase⟩ | ⟨hanswer, hbase⟩
    · exact .inl ⟨hanswer, congrArg (mk · m.believed) hbase⟩
    · exact .inr ⟨hanswer, congrArg (mk · m.believed) hbase⟩
  readAt_cases m offset wanted := by
    rcases Screened.readAt_cases m.inner offset wanted with ⟨hanswer, hbase⟩ | ⟨hanswer, hbase⟩
    · exact .inl ⟨hanswer, congrArg (mk · m.believed) hbase⟩
    · exact .inr ⟨hanswer, congrArg (mk · m.believed) hbase⟩

end Screen

/-- What is believed of a file is what an append adds to, as long as the cursor is
where it ends. -/
instance : Faithful (Believing OpenFile) where
  append_fst _ _ := rfl
  sync_fst _ := rfl
  readAt_snd _ _ _ := rfl
  contents m := m.believed
  Undisturbed m := m.inner.cursor = m.believed.length
  Addressable m := m.inner.bytes = m.believed ∧ m.inner.bytes.length < OpenFile.offsetLimit
  position_eq h := h
  contents_append _ _ := rfl
  undisturbed_append {m} data h := by
    show m.inner.cursor + data.length = (m.believed ++ data).length
    rw [h, List.length_append]
  contents_sync _ := rfl
  undisturbed_sync h := h
  readAt_fst {m offset wanted} h hend := by
    rw [← h.1] at hend ⊢
    exact Faithful.readAt_fst (m := m.inner) h.2 hend

/-- What is believed of the file holds but for spoilt bytes. -/
structure Sound (harms : List Harm) (m : Believing OpenFile) : Prop where
  place_ne : m.inner.place ≠ []
  cursor_eq : m.inner.cursor = m.believed.length
  intact (i : Nat) (hi : i < m.believed.length) (h : ¬ Spoilt harms i) :
    m.inner.bytes[i]? = m.believed[i]?

variable {harms : List Harm} {m : Believing OpenFile}

theorem Sound.lt_length (h : m.Sound harms) {i : Nat} (hi : i < m.believed.length)
    (hunspoilt : ¬ Spoilt harms i) : i < m.inner.bytes.length := by
  have hthere := h.intact i hi hunspoilt
  rw [List.getElem?_eq_getElem hi] at hthere
  exact (List.getElem?_eq_some_iff.mp hthere).1

/-- What is appended comes behind all that was believed to be there. -/
theorem Sound.append (h : m.Sound harms) (data : Bytes) :
    (Medium.append m data).2.Sound harms := by
  show (⟨m.inner.append data, m.believed ++ data⟩ : Believing OpenFile).Sound harms
  refine ⟨h.place_ne, ?_, ?_⟩
  · show m.inner.cursor + data.length = (m.believed ++ data).length
    rw [h.cursor_eq, List.length_append]
  · intro i hi hunspoilt
    by_cases hdata : data = []
    · subst hdata
      have hbytes : (m.inner.append []).bytes = m.inner.bytes :=
        OpenFile.bytes_withBytes m.inner _ h.place_ne
      show (m.inner.append []).bytes[i]? = (m.believed ++ [])[i]?
      rw [hbytes, List.append_nil]
      exact h.intact i (by simpa using hi) hunspoilt
    · have hlaid := OpenFile.append_laid h.place_ne hdata
      by_cases hbefore : i < m.believed.length
      · show (m.inner.append data).bytes[i]? = (m.believed ++ data)[i]?
        rw [List.getElem?_append_left hbefore, ← h.intact i hbefore hunspoilt]
        exact hlaid.kept i (h.lt_length hbefore hunspoilt) (.inl (h.cursor_eq.symm ▸ hbefore))
      · obtain ⟨k, rfl⟩ := Nat.exists_eq_add_of_le (Nat.le_of_not_lt hbefore)
        have hk : k < data.length := by
          simp only [List.length_append] at hi
          omega
        show (m.inner.append data).bytes[m.believed.length + k]? = (m.believed ++ data)[_]?
        rw [List.getElem?_append_right (Nat.le_add_right _ _), Nat.add_sub_cancel_left,
          ← h.cursor_eq, ← Bytes.getElem?_slice _ _ hk, hlaid.slice_eq]

theorem hereditary_sound (harms : List Harm) :
    Live.Hereditary fun j : Live (Believing OpenFile) => j.medium.Sound harms :=
  Live.hereditary_medium (P := Sound harms) (fun _ data h => h.append data) fun _ h => h

theorem Sound.tampered (h : m.Sound harms) {change : Change} {file : OpenFile}
    (htampered : OpenFile.Tampered change m.inner file) :
    (⟨file, m.believed⟩ : Believing OpenFile).Sound (harms ++ [⟨change, m.inner.cursor⟩]) := by
  refine ⟨htampered.place_eq ▸ h.place_ne, htampered.cursor_eq.trans h.cursor_eq, ?_⟩
  intro i hi hunspoilt
  obtain ⟨hbefore, huntouched⟩ := not_spoilt_concat.mp hunspoilt
  have hkept : ¬ change.Touches i := by
    intro htouches
    exact huntouched ⟨h.cursor_eq.symm ▸ hi, htouches⟩
  show file.bytes[i]? = m.believed[i]?
  rw [htampered.bytes_eq, Change.getElem?_apply (h.lt_length hi hbefore) hkept]
  exact h.intact i hi hbefore

end Believing

/-! ## Reading a range from beliefs -/

namespace Live

section Ranges

variable {σ : Type} {j : Live σ} {below stream actual : Bytes}

/-- Where the medium holds what is believed, a range with the rest from the tail is
the range of the stream. -/
theorem Spans.getElem?_range (h : j.Spans below stream) {Doubtful : Nat → Prop}
    (hintact : ∀ i < below.length, ¬ Doubtful i → actual[i]? = below[i]?) {start count : Nat}
    (hlength : (actual.slice start (j.onMedium start count)).length = j.onMedium start count)
    {k : Nat} (hk : k < count) (hkept : ¬ Doubtful (start + k)) :
    (actual.slice start (j.onMedium start count) ++ j.fromTail start count)[k]? =
      stream[start + k]? := by
  have hboundary := h.boundary_eq
  have hbelieved : (below.slice start (j.onMedium start count)).length =
      j.onMedium start count := by
    rw [Bytes.length_slice, onMedium]
    omega
  rw [← Bytes.getElem?_slice stream start hk, ← h.onMedium_append_fromTail]
  by_cases hfront : k < j.onMedium start count
  · have hbelow : start + k < below.length := by
      rw [onMedium] at hfront
      omega
    rw [List.getElem?_append_left (hlength.symm ▸ hfront),
      List.getElem?_append_left (hbelieved.symm ▸ hfront), Bytes.getElem?_slice _ _ hfront,
      Bytes.getElem?_slice _ _ hfront]
    exact hintact _ hbelow hkept
  · have hbehind := Nat.le_of_not_lt hfront
    rw [List.getElem?_append_right (hlength.symm ▸ hbehind),
      List.getElem?_append_right (hbelieved.symm ▸ hbehind), hlength, hbelieved]

variable [Medium σ]

theorem read_of_gather {dest : Bytes} {position length : Int64}
    (hthrough : j.objection? dest.length position length = none) {bytes : Bytes}
    (hgather : (Medium.gather j.medium position.toInt.toNat
      (j.onMedium position.toInt.toNat length.toInt.toNat)).1 = ⟨bytes, none⟩) :
    (j.read dest position length).1.result = .ok length.toInt.toNat ∧
      (j.read dest position length).2 =
        dest.overlay (bytes ++ j.fromTail position.toInt.toNat length.toInt.toNat) := by
  have hwhole : Medium.gather j.medium position.toInt.toNat
      (j.onMedium position.toInt.toNat length.toInt.toNat) =
      (⟨bytes, none⟩, (Medium.gather j.medium position.toInt.toNat
        (j.onMedium position.toInt.toNat length.toInt.toNat)).2) := Prod.ext hgather rfl
  rw [read, hthrough]
  dsimp only
  rw [copyOut, hwhole]
  exact ⟨rfl, rfl⟩

theorem gather_of_read {dest : Bytes} {position length : Int64} {count : Nat}
    (h : (j.read dest position length).1.result = .ok count) :
    ∃ bytes : Bytes, bytes.length = j.onMedium position.toInt.toNat length.toInt.toNat ∧
      (Medium.gather j.medium position.toInt.toNat
        (j.onMedium position.toInt.toNat length.toInt.toNat)).1 = ⟨bytes, none⟩ := by
  have hall : (Medium.gather j.medium position.toInt.toNat
      (j.onMedium position.toInt.toNat length.toInt.toNat)).1.stop = none → _ :=
    Medium.length_gather
  rw [read, (j.objection?_of_read h).1] at h
  unfold copyOut at h
  dsimp only at h
  split at h
  · next bytes medium hgather =>
      rw [hgather] at hall ⊢
      exact ⟨bytes, hall rfl, rfl⟩
  · cases h
  · cases h

end Ranges

end Live

/-! ## Runs in which the file is tampered with -/

namespace Journal

section Runs

variable {σ : Type} [Medium σ] [Screened σ OpenFile]

/-- A journal over a file has been called, asked and meddled with, and the file
tampered with, in any order. -/
inductive Weathers (first : Journal σ) : List Report → List Harm → Journal σ → Prop
  | opened : Weathers first [] [] first
  | called {history : List Report} {harms : List Harm} {j : Journal σ} (request : Request) :
      Weathers first history harms j →
        Weathers first (history ++ [j.report request]) harms (j.perform request).1.after
  | asked {history : List Report} {harms : List Harm} {j : Journal σ} (query : Query) :
      Weathers first history harms j →
        Weathers first (history ++ [.asked query (j.answer query)]) harms j
  | meddled {history : List Report} {harms : List Harm} {j : Journal σ} {medium : σ} :
      Weathers first history harms j → Screened.Meddled j.medium medium →
        Weathers first history harms (j.mapMedium fun _ => medium)
  | tampered {history : List Report} {harms : List Harm} {j : Journal σ} {medium : σ}
      (change : Change) : Weathers first history harms j →
        OpenFile.Tampered change (Screened.base j.medium) (Screened.base medium) →
          Weathers first history (harms ++ [⟨change, (Screened.base j.medium).cursor⟩])
            (j.mapMedium fun _ => medium)

/-- The journal over its medium with beliefs carries the stream, and what it believes
is sound. -/
structure Weathered (stream : Bytes) (harms : List Harm) (j : Journal σ) (believed : Bytes) :
    Prop where
  carries : (j.atop (⟨j.medium, believed⟩ : Believing σ)).Carries stream
  sound : (j.atop (⟨j.medium, believed⟩ : Believing σ)).Keeps
    fun last : Live (Believing OpenFile) => last.medium.Sound harms

variable {stream believed : Bytes} {harms : List Harm} {j : Journal σ}

theorem Weathered.perform (h : j.Weathered stream harms believed) (request : Request) :
    ∃ believed', (j.perform request).1.after.Weathered
      (stream ++ (j.report request).accepted) harms believed' := by
  have hmirrored : j.Mirrored (fun m (b : Believing σ) => b.inner = m)
      (j.atop (⟨j.medium, believed⟩ : Believing σ)) := ⟨⟨j.medium, believed⟩, rfl, rfl⟩
  rcases hmirrored.perform Believing.mirrors request with ⟨_, hnever, -⟩ | ⟨hcall, hdest⟩
  · exact hnever.elim
  · have hcarries := h.carries.perform_after request
    have hsound := h.sound.perform (Believing.hereditary_sound harms) request
    rw [← report_eq hcall hdest] at hcarries
    obtain ⟨⟨inner, believed'⟩, hinner, hafter⟩ := hcall.after
    obtain rfl : inner = (j.perform request).1.after.medium := hinner
    rw [hafter] at hcarries hsound
    exact ⟨believed', hcarries, hsound⟩

theorem Weathered.meddled (h : j.Weathered stream harms believed) {medium : σ}
    (hmeddled : Screened.Meddled j.medium medium) :
    (j.mapMedium fun _ => medium).Weathered stream harms believed := by
  have hbelieving : Screened.Meddled (j.atop (⟨j.medium, believed⟩ : Believing σ)).medium
      ⟨medium, believed⟩ := by
    rw [atop_medium]
    exact ⟨hmeddled, rfl⟩
  have hcarries := h.carries.meddled hbelieving
  have hsound := h.sound.meddled hbelieving
  cases j with
  | live state => exact ⟨hcarries, hsound⟩
  | closed settings old => exact ⟨hcarries, hsound⟩

theorem Weathered.tampered (h : j.Weathered stream harms believed) {change : Change} {medium : σ}
    (htampered : OpenFile.Tampered change (Screened.base j.medium) (Screened.base medium)) :
    (j.mapMedium fun _ => medium).Weathered stream
      (harms ++ [⟨change, (Screened.base j.medium).cursor⟩]) believed := by
  cases j with
  | live state =>
      obtain ⟨hundisturbed, hboundary, hstream⟩ := h.carries
      exact ⟨⟨htampered.cursor_eq.trans hundisturbed, hboundary, hstream⟩,
        h.sound.tampered htampered⟩
  | closed settings old =>
      obtain ⟨last, hlast, hmedium⟩ := h.sound
      refine ⟨trivial, { last with medium := ⟨Screened.base medium, believed⟩ }, ?_, rfl⟩
      rw [hmedium] at hlast
      exact hlast.tampered htampered

/-- What the journal believes stays sound in every run. -/
theorem Weathers.weathered {first : Journal σ}
    (hfirst : ∃ believed, first.Weathered stream [] believed) {history : List Report}
    (h : Weathers first history harms j) :
    ∃ believed, j.Weathered (stream ++ accepted history) harms believed := by
  induction h with
  | opened => exact (List.append_nil stream).symm ▸ hfirst
  | called request _ ih =>
      obtain ⟨believed, hbelieved⟩ := ih
      rw [accepted_concat, ← List.append_assoc]
      exact hbelieved.perform request
  | asked query _ ih =>
      rw [accepted_concat]
      exact (List.append_nil (accepted _)).symm ▸ ih
  | meddled _ hmeddled ih =>
      obtain ⟨believed, hbelieved⟩ := ih
      exact ⟨believed, hbelieved.meddled hmeddled⟩
  | tampered change _ htampered ih =>
      obtain ⟨believed, hbelieved⟩ := ih
      exact ⟨believed, hbelieved.tampered htampered⟩

theorem weathered_of_start {first : σ} (hfirst : Undisturbed (Screened.base first))
    {settings : Settings} {supply : Supply} (hsupply : supply.Honest) {opened : Journal σ}
    {events : List Event} (h : start first settings supply = (.ok opened, events)) :
    opened.Weathered (Screened.base first).bytes [] (Screened.base first).bytes := by
  have hbelieving := start_atop Believing.mirrors
    (m := first) (n := (⟨first, (Screened.base first).bytes⟩ : Believing σ)) rfl settings supply
  rw [h] at hbelieving
  have hmedium : opened.medium = first := by
    rw [eq_fresh_of_start h]
    rfl
  refine ⟨?_, ?_⟩
  · rw [hmedium]
    exact start_carries hfirst.2 hsupply hbelieving
  · have hsound : (⟨Screened.base first, (Screened.base first).bytes⟩ :
        Believing OpenFile).Sound [] := ⟨hfirst.1, hfirst.2, fun _ _ _ => rfl⟩
    have hfresh : (Live.fresh (Screened.base (⟨first, (Screened.base first).bytes⟩ :
        Believing σ)) settings supply).medium.Sound [] := hsound
    rw [hmedium]
    exact keeps_of_start (I := fun last : Live (Believing OpenFile) => last.medium.Sound [])
      hfresh hbelieving

end Runs

/-! ## What a journal answers and reads -/

section Answers

variable {σ : Type} [Medium σ] [Screened σ OpenFile]

/-- A journal over a file, of which others have changed what is spoilt, stands where
the stream ends, and hands its bytes to where the file has its cursor.  A change
moves none of its answers.  Every read that succeeds has the bytes of the stream
wherever they are not spoilt; and a read of bytes of which none is spoilt succeeds,
as long as the medium serves what is on the file. -/
structure Salvages (stream : Bytes) (harms : List Harm) (j : Live σ) : Prop where
  position_eq : (live j).position = .ok stream.length
  flushedPosition_eq : (live j).flushedPosition = .ok (Screened.base j.medium).cursor
  unmoved (change : Change) (medium : σ)
    (h : OpenFile.Tampered change (Screened.base j.medium) (Screened.base medium))
    (query : Query) : ((live j).mapMedium fun _ => medium).answer query = (live j).answer query
  agrees (dest : Bytes) (position length : Int64) (count : Nat)
    (h : ((live j).read dest position length).1.result = .ok count) :
    ∃ bytes : Bytes, j.Yields dest position length bytes ∧ bytes.length = count ∧
      ∀ k < count, ¬ Spoilt harms (position.toInt.toNat + k) →
        bytes[k]? = stream[position.toInt.toNat + k]?
  yields (Ready : σ → Prop)
    (hserves : Medium.Serves (Screened.base j.medium).bytes Ready) (hready : Ready j.medium)
    (dest : Bytes) (position length : Int64) (hposition : 0 ≤ position.toInt)
    (hlength : 0 ≤ length.toInt)
    (hend : position.toInt.toNat + length.toInt.toNat ≤ stream.length)
    (hdest : length.toInt.toNat ≤ dest.length)
    (h : ∀ k < length.toInt.toNat, ¬ Spoilt harms (position.toInt.toNat + k)) :
    j.Yields dest position length (stream.slice position.toInt.toNat length.toInt.toNat)

variable {stream believed : Bytes} {harms : List Harm} {j : Live σ}

theorem Weathered.spans (h : (live j).Weathered stream harms believed) :
    j.Spans believed stream :=
  ⟨h.carries.boundary_eq, h.carries.stream_eq⟩

theorem Weathered.read_agrees (h : (live j).Weathered stream harms believed) {dest : Bytes}
    {position length : Int64} {count : Nat}
    (hread : (j.read dest position length).1.result = .ok count) :
    ∃ bytes : Bytes, j.Yields dest position length bytes ∧ bytes.length = count ∧
      ∀ k < count, ¬ Spoilt harms (position.toInt.toNat + k) →
        bytes[k]? = stream[position.toInt.toNat + k]? := by
  obtain ⟨hthrough, rfl⟩ := j.objection?_of_read hread
  obtain ⟨front, hfront, hgather⟩ := Live.gather_of_read hread
  obtain ⟨hresult, hdest⟩ := Live.read_of_gather hthrough hgather
  -- what arrives is from the file as it is now, harmed or not
  have htrue : front = (Screened.base j.medium).bytes.slice position.toInt.toNat front.length := by
    have hbytes := (Screened.truthful (σ := σ) (Screened.base j.medium)).gather_bytes
      (m := j.medium) rfl position.toInt.toNat
      (j.onMedium position.toInt.toNat length.toInt.toNat)
    rw [hgather] at hbytes
    exact hbytes
  have hcount : (front ++ j.fromTail position.toInt.toNat length.toInt.toNat).length =
      length.toInt.toNat := by
    obtain ⟨-, -, hrange⟩ := (j.objection?_eq_none_iff _ _ _).mp hthrough
    have hend : j.logicalEnd = j.boundary + j.held.length := rfl
    rw [List.length_append, hfront, Live.fromTail, Bytes.length_slice, Live.onMedium]
    omega
  refine ⟨_, ⟨?_, hdest⟩, hcount, ?_⟩
  · rw [hcount]
    exact hresult
  · intro k hk hkept
    rw [hfront] at htrue
    rw [htrue] at hfront ⊢
    exact h.spans.getElem?_range h.sound.intact hfront hk hkept

theorem Weathered.read_succeeds (h : (live j).Weathered stream harms believed) {Ready : σ → Prop}
    (hserves : Medium.Serves (Screened.base j.medium).bytes Ready) (hready : Ready j.medium)
    {dest : Bytes} {position length : Int64}
    (hthrough : j.objection? dest.length position length = none)
    (hkept : ∀ k < length.toInt.toNat, ¬ Spoilt harms (position.toInt.toNat + k)) :
    (j.read dest position length).1.result = .ok length.toInt.toNat := by
  have hboundary := h.spans.boundary_eq
  have hthere : 0 < j.onMedium position.toInt.toNat length.toInt.toNat →
      position.toInt.toNat + j.onMedium position.toInt.toNat length.toInt.toNat ≤
        (Screened.base j.medium).bytes.length := by
    intro hpos
    have hle := j.onMedium_le hpos
    have hcount : j.onMedium position.toInt.toNat length.toInt.toNat ≤ length.toInt.toNat :=
      Nat.min_le_left _ _
    have hlast := h.sound.lt_length (i := position.toInt.toNat +
      (j.onMedium position.toInt.toNat length.toInt.toNat - 1)) (by
        show _ < believed.length
        omega) (hkept _ (by omega))
    have hlt : position.toInt.toNat +
      (j.onMedium position.toInt.toNat length.toInt.toNat - 1) <
        (Screened.base j.medium).bytes.length := hlast
    omega
  exact (Live.read_of_gather hthrough (hserves.gather_fst hready hthere)).1

theorem Weathered.salvages (h : (live j).Weathered stream harms believed) :
    Salvages stream harms j where
  position_eq := congrArg Except.ok h.spans.logicalEnd_eq
  flushedPosition_eq := congrArg Except.ok (h.spans.boundary_eq.trans h.sound.cursor_eq.symm)
  unmoved _ _ _ query := by cases query <;> rfl
  agrees _ _ _ _ hread := h.read_agrees hread
  yields Ready hserves hready dest position length hposition hlength hend hdest hkept := by
    have hstream := h.spans.logicalEnd_eq
    have hthrough : j.objection? dest.length position length = none := by
      rw [Live.objection?_eq_none_iff]
      omega
    have hread := h.read_succeeds hserves hready hthrough hkept
    obtain ⟨bytes, hyields, hcount, hagree⟩ := h.read_agrees hread
    have hbytes : bytes = stream.slice position.toInt.toNat length.toInt.toNat := by
      apply List.ext_getElem?
      intro k
      by_cases hk : k < length.toInt.toNat
      · rw [hagree k hk (hkept k hk), Bytes.getElem?_slice _ _ hk]
      · rw [List.getElem?_eq_none (hcount.symm ▸ Nat.le_of_not_lt hk),
          List.getElem?_eq_none (Nat.le_trans (Bytes.length_slice_le _ _ _) (Nat.le_of_not_lt hk))]
    exact hbytes ▸ hyields

/-- **Offsets survive tampering.**  Open a file, and let others add to it, cut, extend
and overwrite it at any time.  Its position is then its length from when it was opened
and the bytes that it took; and an append lays its data there, without harm to any
other byte, and with zeros up to there if the file has become shorter.  A journal over
it goes on as if nothing had happened: no change moves an answer, and every byte is
read back from the offset where it was written unless others have spoilt it. -/
theorem offsets_survive {disk disk' : Disk} {path : Path} {policy : SyncPolicy}
    {file : OpenFile} {events : List Event}
    (hopen : OpenFile.opening disk path policy = (.ok file, disk', events)) {first : σ}
    (hfirst : Screened.base first = file) :
    (∀ (record : List Exchange) (m : σ), Handled first record m →
      Medium.position m = file.bytes.length + (record.flatMap Exchange.taken).length ∧
        ∀ data : Bytes, data ≠ [] → (Medium.append m data).1 = .ok () →
          Bytes.Laid (Screened.base m).bytes (Medium.position m) data
            (Screened.base (Medium.append m data).2).bytes) ∧
      ∀ (settings : Settings) (supply : Supply) (opened : Journal σ) (told : List Event),
        supply.Honest → start first settings supply = (.ok opened, told) →
          ∀ (history : List Report) (harms : List Harm) (j : Live σ),
            Weathers opened history harms (live j) →
              Salvages (file.bytes ++ accepted history) harms j := by
  have hundisturbed : Undisturbed (Screened.base first) :=
    hfirst ▸ OpenFile.undisturbed_of_opening hopen
  subst hfirst
  refine ⟨?_, ?_⟩
  · intro record m hhandled
    refine ⟨?_, fun data hdata haccepted =>
      hhandled.append_laid hundisturbed.1 hdata haccepted⟩
    rw [hhandled.position_eq, Screened.position_eq first]
    exact congrArg (· + _) hundisturbed.2
  · intro settings supply opened told hsupply hstart history harms j hweathers
    obtain ⟨believed, hweathered⟩ :=
      hweathers.weathered ⟨_, weathered_of_start hundisturbed hsupply hstart⟩
    exact hweathered.salvages

/-- The ledger after two bytes more, and after somebody has cut it to its first. -/
def cutLedger : OpenFile := { ledgerFile with cursor := 3 }

/-- A journal that has gone on to write there. -/
def patched : Live OpenFile :=
  { settings := { capacity := 4 }
    medium := { ledgerFile with disk := ⟨.file "ledger" [9, 0, 0, 4] .empty⟩, cursor := 4 }
    buffer := .ok ⟨4, []⟩
    boundary := 4
    unsynced := 3
    tally := { writes := 2, bytesWritten := 3, appends := 2, bytesFlushed := 3 } }

/-- The next byte goes behind a hole, and is read from there although the two before it
are lost. -/
theorem offsets_survive_cut :
    ∃ (record : List Exchange) (opened : Journal OpenFile) (told : List Event)
      (history : List Report),
      Handled ledgerFile record cutLedger ∧ Medium.position cutLedger = 3 ∧
        Bytes.Laid [9] 3 [4] [9, 0, 0, 4] ∧
        start ledgerFile { capacity := 4 } .heap = (.ok opened, told) ∧
        Weathers opened history [⟨.resize 1, 3⟩] (live patched) ∧
        patched.Yields [0, 0] 3 1 [4] := by
  have hfile : ledger.disk.file? ledger.path = some [9] := by decide
  have hopen : OpenFile.opening ledger.disk ledger.path .dataOnly = (.ok ledgerFile, _, _) :=
    OpenFile.opening_of_file hfile .dataOnly
  have hstart : start ledgerFile { capacity := 4 } .heap = (.ok _, _) := rfl
  obtain ⟨hstore, hjournal⟩ :=
    offsets_survive hopen (show Screened.base ledgerFile = ledgerFile from rfl)
  have hcut : OpenFile.Tampered (.resize 1) (ledgerFile.append [1, 2])
      (Screened.base cutLedger) := ⟨rfl, by decide⟩
  have hhandled : Handled ledgerFile _ cutLedger :=
    (Handled.opened.called (.append [1, 2])).tampered (.resize 1) hcut
  have hopened : Weathers (live (Live.fresh ledgerFile { capacity := 4 } .heap)) [] [] _ := .opened
  have hflushed := (hopened.called (.write [1, 2])).called (.flush false)
  have hweathers : Weathers _ _ _ (live patched) :=
    ((hflushed.tampered (.resize 1) hcut).called (.write [4])).called (.flush false)
  have hsalvages := hjournal _ _ _ _ Supply.heap_honest hstart _ _ _ hweathers
  have hfits : patched.medium.bytes.length < OpenFile.offsetLimit := by decide
  have hserves : Medium.Serves patched.medium.bytes fun m => m = patched.medium :=
    Faithful.serves hfits
  obtain ⟨hposition, hlays⟩ := hstore _ _ hhandled
  exact ⟨_, _, _, _, hhandled, hposition, hlays [4] (by decide) rfl, hstart, hweathers,
    hsalvages.yields _ hserves rfl [0, 0] 3 1 (by decide) (by decide) (by decide) (by decide)
      (by decide)⟩

end Answers

end Journal

end WriteBack
