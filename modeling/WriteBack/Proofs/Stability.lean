/-
# Stability — what a reader has been entitled to is never taken back

One client writes to a journal and others read from it, all at the same time,
while calls on the medium are stopped at will.  A reader is *entitled* to a
range once the stream has reached its end, or once a read of it has
succeeded.  From then on, as long as the journal is live, every read of the
range comes to the same bytes, or fails because the medium did; it is never
told that there are no such bytes.

The same offsets are served from the tail first and from the medium later,
and a write that fails takes bytes back out of the tail.  Neither matters,
because the stream only grows: what a reader was entitled to lies in the
stream as it was then, and that is the beginning of the stream as it is now.
-/
import WriteBack.Proofs.Following
import WriteBack.Proofs.Gathering

namespace WriteBack

open Faithful (contents Undisturbed)

namespace Live

/-! ## Which reads are let through -/

section Objections

variable {σ : Type} (j : Live σ)

theorem objection?_eq_none_iff (available : Nat) (position length : Int64) :
    j.objection? available position length = none ↔
      0 ≤ position.toInt ∧ 0 ≤ length.toInt ∧
        (length.toInt.toNat = 0 ∨
          position.toInt.toNat + length.toInt.toNat ≤ j.logicalEnd ∧
            length.toInt.toNat ≤ available) := by
  have hzero : (0 : Int64).toInt = 0 := rfl
  simp only [objection?, Int64.lt_iff_toInt_lt, hzero]
  repeat' split
  all_goals simp only [reduceCtorEq, false_iff, true_iff]
  all_goals omega

theorem onMedium_le {start count : Nat} (h : 0 < j.onMedium start count) :
    start + j.onMedium start count ≤ j.boundary := by
  unfold onMedium at h ⊢
  omega

variable [Medium σ]

theorem objection?_of_read {dest : Bytes} {position length : Int64} {count : Nat}
    (h : (j.read dest position length).1.result = .ok count) :
    j.objection? dest.length position length = none ∧ count = length.toInt.toNat := by
  cases hobjection : j.objection? dest.length position length with
  | some failure =>
      rw [read, hobjection] at h
      cases h
  | none =>
      refine ⟨rfl, ?_⟩
      rw [read, hobjection] at h
      unfold copyOut at h
      dsimp only at h
      split at h
      · exact (Except.ok.inj h).symm
      · cases h
      · cases h

/-- A read of the range fails because the medium does.  Asked in its course for
bytes below the boundary, the medium delivered none or failed, and the failure
passes this on. -/
def Denied (start count : Nat) (failure : Failure) : Prop :=
  ∃ (m : σ) (offset wanted : Nat),
    Medium.Asks j.medium start (j.onMedium start count) m offset wanted ∧
      offset + wanted ≤ j.boundary ∧
      ((Medium.readAt m offset wanted).1 = .bytes [] ∧
          (∃ missing got, failure = .shortRead start missing got) ∨
        ∃ error, (Medium.readAt m offset wanted).1 = .failed error ∧ failure = .io error)

/-- The read returns these bytes: they are at the front of the destination,
and behind them it is as it was. -/
def Yields (dest : Bytes) (position length : Int64) (bytes : Bytes) : Prop :=
  (j.read dest position length).1.result = .ok bytes.length ∧
    (j.read dest position length).2 = bytes ++ dest.drop bytes.length

end Objections

/-! ## What a read that is let through comes to -/

section Copying

variable {σ β : Type} [Medium σ] [Medium β] [Screened σ β] [Faithful β] [Candid β]
variable {j : Live σ} {stream : Bytes}

theorem Carries.copyOut_cases (h : j.bare.Carries stream) (dest : Bytes) {start count : Nat}
    (hend : 0 < count → start + count ≤ stream.length) :
    ((j.copyOut dest start count).1.result = .ok count ∧
        (j.copyOut dest start count).2 = stream.slice start count ++ dest.drop count) ∨
      ∃ failure, (j.copyOut dest start count).1.result = .error failure ∧
        j.Denied start count failure := by
  have hbytes := (Screened.truthful (σ := σ) j.bare.medium).gather_bytes (m := j.medium) rfl start
    (j.onMedium start count)
  have hall : (Medium.gather j.medium start (j.onMedium start count)).1.stop = none → _ :=
    Medium.length_gather
  have hstopped : ∀ stop : Stop,
      (Medium.gather j.medium start (j.onMedium start count)).1.stop = some stop →
        ∃ (m : σ) (offset wanted : Nat),
          Medium.Asks j.medium start (j.onMedium start count) m offset wanted ∧
            offset + wanted ≤ j.boundary ∧ (Medium.readAt m offset wanted).1 = stop.answer := by
    intro stop hstop
    obtain ⟨m, offset, wanted, hasks, hanswer⟩ := Medium.gather_stopped hstop
    obtain ⟨hpos, hfrom, hsum⟩ := hasks.missing
    refine ⟨m, offset, wanted, hasks, ?_, hanswer⟩
    rw [hsum]
    exact j.onMedium_le (by omega)
  unfold copyOut
  dsimp only
  split
  · next bytes m hgather =>
      rw [hgather] at hbytes hall
      have hfront : bytes =
          (contents (Screened.base j.medium)).slice start (j.onMedium start count) :=
        hall rfl ▸ hbytes
      have hlength : (stream.slice start count).length = count := by
        rw [Bytes.length_slice]
        omega
      left
      refine ⟨rfl, ?_⟩
      show dest.overlay (bytes ++ j.fromTail start count) = _
      rw [hfront, h.spans.onMedium_append_fromTail, Bytes.overlay, hlength]
  · next bytes m hgather =>
      rw [hgather] at hstopped
      obtain ⟨m, offset, wanted, hasks, hle, hanswer⟩ := hstopped .dry rfl
      right
      exact ⟨_, rfl, m, offset, wanted, hasks, hle, .inl ⟨hanswer, _, _, rfl⟩⟩
  · next bytes error m hgather =>
      rw [hgather] at hstopped
      obtain ⟨m, offset, wanted, hasks, hle, hanswer⟩ := hstopped (.failed error) rfl
      right
      exact ⟨_, rfl, m, offset, wanted, hasks, hle, .inr ⟨error, hanswer, rfl⟩⟩

/-- A read that is let through yields what the stream has there, or the medium
denies it. -/
theorem Carries.read_cases (h : j.bare.Carries stream) {dest : Bytes} {position length : Int64}
    (hthrough : j.objection? dest.length position length = none) :
    j.Yields dest position length
        (stream.slice position.toInt.toNat length.toInt.toNat) ∨
      ∃ failure, (j.read dest position length).1.result = .error failure ∧
        j.Denied position.toInt.toNat length.toInt.toNat failure := by
  obtain ⟨-, -, hrange⟩ := (j.objection?_eq_none_iff _ _ _).mp hthrough
  have hstream : j.logicalEnd = stream.length := h.logicalEnd_eq
  have hend : 0 < length.toInt.toNat →
      position.toInt.toNat + length.toInt.toNat ≤ stream.length := by
    omega
  have hlength : (stream.slice position.toInt.toNat length.toInt.toNat).length =
      length.toInt.toNat := by
    rw [Bytes.length_slice]
    omega
  rw [Yields, hlength, read, hthrough]
  exact h.copyOut_cases dest hend

end Copying

/-! ## The boundary only advances -/

theorem hereditary_boundary {β : Type} [Medium β] [Steady β] (least : Nat) :
    Hereditary fun j : Live β => least ≤ j.boundary where
  flush h := by
    rw [flush_boundary, logicalEnd]
    exact Nat.le_add_right_of_le h
  sync h := by rwa [sync_eq]
  writeThrough _ _ h := by
    rw [writeThrough_eq]
    exact Nat.le_add_right_of_le h
  withHeld _ _ h := h
  counted _ h := h

end Live

namespace Journal

variable {σ β : Type} [Medium σ] [Medium β] [Screened σ β] [Faithful β]

theorem slice_append_of_le {stream : Bytes} (more : Bytes) {start count : Nat}
    (h : 0 < count → start + count ≤ stream.length) :
    (stream ++ more).slice start count = stream.slice start count := by
  rcases Nat.eq_zero_or_pos count with hzero | hpos
  · rw [hzero]
    rfl
  · have hle := h hpos
    rw [Bytes.slice_append, show min count (stream.length - start) = count by omega,
      Nat.sub_self]
    exact List.append_nil _

/-- A reader may count on the range: the stream has reached its end, or a read
of it succeeds. -/
def Entitles (j : Journal σ) (position length : Int64) : Prop :=
  (∃ start count logicalEnd : Nat, position.toInt = start ∧ length.toInt = count ∧ 0 < count ∧
      j.position = .ok logicalEnd ∧ start + count ≤ logicalEnd) ∨
    ∃ (dest : Bytes) (count : Nat), (j.read dest position length).1.result = .ok count

theorem Entitles.range {j : Live σ} {position length : Int64}
    (h : (live j).Entitles position length) :
    0 ≤ position.toInt ∧ 0 ≤ length.toInt ∧
      (0 < length.toInt.toNat →
        position.toInt.toNat + length.toInt.toNat ≤ j.logicalEnd) := by
  rcases h with ⟨start, count, logicalEnd, hposition, hlength, -, hend, hle⟩ | ⟨dest, count, hread⟩
  · cases hend
    omega
  · obtain ⟨hpos, hlen, hrange⟩ :=
      (j.objection?_eq_none_iff _ _ _).mp (j.objection?_of_read hread).1
    omega

variable [Candid β]

/-- **What a reader was entitled to stays.**  In every run that follows a state,
whoever calls and whatever is stopped, the end of the stream and the boundary
only advance; and to every range that a reader was entitled to there belong
bytes, those that a successful read of it has returned if there was one, which
every later read of the range returns, unless the medium itself denies them. -/
theorem Reached.reads_stable {base : β} (hbase : Undisturbed base) {history : List Report}
    {j : Live σ} (h : Reached base history (live j)) :
    (∀ (later : List Report) (j' : Live σ), Follows (live j) later (live j') →
      j.logicalEnd ≤ j'.logicalEnd ∧ j.boundary ≤ j'.boundary) ∧
    ∀ position length : Int64, (live j).Entitles position length →
      ∃ bytes : Bytes, bytes.length = length.toInt.toNat ∧
        (∀ (dest : Bytes) (count : Nat), (j.read dest position length).1.result = .ok count →
          j.Yields dest position length bytes) ∧
        ∀ (later : List Report) (j' : Live σ), Follows (live j) later (live j') →
          ∀ dest : Bytes, bytes.length ≤ dest.length →
            j'.Yields dest position length bytes ∨
              ∃ failure, (j'.read dest position length).1.result = .error failure ∧
                j'.Denied position.toInt.toNat length.toInt.toNat failure := by
  obtain ⟨stream, hstream⟩ : ∃ stream, stream = contents base ++ accepted history := ⟨_, rfl⟩
  have hcarries : j.bare.Carries stream := hstream ▸ h.carries hbase
  have hend : j.logicalEnd = stream.length := hcarries.logicalEnd_eq
  have hlater : ∀ (later : List Report) (j' : Live σ), Follows (live j) later (live j') →
      j'.bare.Carries (stream ++ accepted later) := by
    intro later j' hfollows
    exact hfollows.carries (j := live j) hcarries
  refine ⟨?_, ?_⟩
  · intro later j' hfollows
    have hend' : j'.logicalEnd = _ := (hlater later j' hfollows).logicalEnd_eq
    refine ⟨?_, ?_⟩
    · rw [hend, hend', List.length_append]
      exact Nat.le_add_right _ _
    · exact hfollows.keeps (Live.hereditary_boundary j.boundary) (Nat.le_refl _)
  · intro position length hentitled
    obtain ⟨hposition, hlength, hrange⟩ := hentitled.range
    rw [hend] at hrange
    have hcount : (stream.slice position.toInt.toNat length.toInt.toNat).length =
        length.toInt.toNat := by
      rw [Bytes.length_slice]
      omega
    refine ⟨stream.slice position.toInt.toNat length.toInt.toNat, hcount, ?_, ?_⟩
    · intro dest count hread
      rcases hcarries.read_cases (j.objection?_of_read hread).1 with hyields | ⟨_, hfails, -⟩
      · exact hyields
      · cases hread.symm.trans hfails
    · intro later j' hfollows dest hdest
      have hcarries' := hlater later j' hfollows
      have hend' : j'.logicalEnd = (stream ++ accepted later).length := hcarries'.logicalEnd_eq
      rw [List.length_append] at hend'
      -- whatever was accepted since lies behind the range
      rw [← slice_append_of_le (accepted later) hrange]
      apply hcarries'.read_cases
      rw [Live.objection?_eq_none_iff]
      omega

/-- A journal behind a panel, right after a first write of three bytes. -/
def begun : Live (Rigged InMemory) :=
  { settings := { capacity := 4 }
    medium := .behind 1 (.holding [])
    buffer := .ok ⟨4, [1, 2, 3]⟩
    boundary := 0
    tally := { writes := 1, bytesWritten := 3 } }

/-- The bytes move to a medium whose sync is stopped, and whose reads deliver
nothing from then on; a reader may still count on the first two. -/
theorem reads_stable_of_begun :
    ∃ (history later : List Report) (j' : Live (Rigged InMemory)),
      Reached (InMemory.holding []) history (live begun) ∧
        Follows (live begun) later (live j') ∧ (live begun).Entitles 0 2 ∧
        j'.held = [] ∧ begun.boundary ≤ j'.boundary ∧
        ∃ bytes : Bytes, bytes.length = 2 ∧
          (j'.Yields [0, 0] 0 2 bytes ∨
            ∃ failure, (j'.read [0, 0] 0 2).1.result = .error failure ∧
              j'.Denied 0 2 failure) := by
  have hstart : start (Rigged.behind 1 (InMemory.holding [])) { capacity := 4 } .heap =
      (.ok _, _) := rfl
  have hopened : Reached (InMemory.holding []) _ _ := .opened rfl Supply.heap_honest hstart
  have hreached : Reached _ _ (live begun) := hopened.called (.write [1, 2, 3])
  have hhere : Follows (live begun) [] (live begun) := .here
  have hfollows := ((hhere.switched 0 (.arm .sync .once)).called .forceWrite).switched 0
    (.arm .shortRead .always)
  have hentitled : (live begun).Entitles 0 2 :=
    .inl ⟨0, 2, 3, rfl, rfl, by decide, rfl, by decide⟩
  obtain ⟨hadvance, hranges⟩ := hreached.reads_stable trivial
  obtain ⟨bytes, hlength, -, hreads⟩ := hranges 0 2 hentitled
  exact ⟨_, _, _, hreached, hfollows, hentitled, rfl, (hadvance _ _ hfollows).2, bytes, hlength,
    hreads _ _ hfollows [0, 0] (Nat.le_of_eq hlength)⟩

end Journal

end WriteBack
