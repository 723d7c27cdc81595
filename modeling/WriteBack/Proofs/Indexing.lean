/-
# Indexing — a read in words never leaves its range

A read is given two signed words, casts them, adds them, compares the sum with
the end of the stream, and then cuts three kinds of stretches: out of the
destination, out of the window that the medium is to fill, and out of the tail.
That none of this goes wrong rests on all the checks together, since the boundary
may lie beyond every signed word.

`Worded.read?` is that read, step by step.  The medium is anything that answers
requests, and need not be a `Medium`: it may interrupt for ever, so that the read
never ends.  Therefore a read is given a number of rounds that it may go through,
and is `underway` if they do not suffice.  For any number of rounds it is exact,
over every medium that delivers no more than it is asked for.  Over a `Medium` there
are enough rounds, and then it comes to what the read of the journal in numbers comes
to (`Worded.read?_exact`).
-/
import WriteBack.Journal.Read
import WriteBack.Proofs.Breakoff
import WriteBack.Proofs.Words

namespace WriteBack

/-! ## Cutting and copying -/

namespace Bytes

/-- A stretch cut in two, where the cut lies inside. -/
def splitAt? (bytes : Bytes) (cut : Word) : Option (Bytes × Bytes) :=
  if cut.toNat ≤ bytes.length then some (bytes.take cut.toNat, bytes.drop cut.toNat) else none

/-- What lies between two offsets, both inside and in this order. -/
def window? (bytes : Bytes) (first last : Word) : Option Bytes := do
  let (front, _) ← bytes.splitAt? last
  let (_, window) ← front.splitAt? first
  return window

def copy? (stretch source : Bytes) : Option Bytes :=
  if stretch.length = source.length then some source else none

theorem splitAt?_of_le {bytes : Bytes} {cut : Word} (h : cut.toNat ≤ bytes.length) :
    bytes.splitAt? cut = some (bytes.take cut.toNat, bytes.drop cut.toNat) :=
  if_pos h

theorem window?_of_le {bytes : Bytes} {first last : Word} (horder : first.toNat ≤ last.toNat)
    (h : last.toNat ≤ bytes.length) :
    bytes.window? first last = some (bytes.slice first.toNat (last.toNat - first.toNat)) := by
  have hfront : first.toNat ≤ (bytes.take last.toNat).length := by
    rw [List.length_take]
    omega
  rw [window?, splitAt?_of_le h]
  show (do
    let (_, window) ← splitAt? (bytes.take last.toNat) first
    return window) = _
  rw [splitAt?_of_le hfront]
  show some ((bytes.take last.toNat).drop first.toNat) = _
  rw [List.drop_take, slice]

theorem copy?_of_eq {stretch source : Bytes} (h : stretch.length = source.length) :
    stretch.copy? source = some source :=
  if_pos h

theorem overlay_append_of_le {front window : Bytes} (h : front.length ≤ window.length)
    (rest : Bytes) : (window ++ rest).overlay front = window.overlay front ++ rest := by
  rw [overlay, overlay, List.drop_append_of_le_length h, List.append_assoc]

theorem overlay_take_append_drop {front window : Bytes} {count : Nat}
    (h : front.length ≤ count) (hcount : count ≤ window.length) :
    overlay (window.take count) front ++ window.drop count = window.overlay front := by
  rw [← overlay_append_of_le (by rw [List.length_take]; omega), List.take_append_drop]

theorem overlay_of_eq {front window : Bytes} (h : front.length = window.length) :
    window.overlay front = front := by
  rw [overlay, h, List.drop_length, List.append_nil]

end Bytes

/-! ## Filling a window -/

/-- What answers reads: asked for so many bytes from an offset on, it delivers. -/
abbrev Answering (σ : Type) := σ → Nat → Nat → Delivery × σ

/-- It never delivers more than it was asked for. -/
def Answering.Modest {σ : Type} (ask : Answering σ) : Prop :=
  ∀ (m : σ) (offset wanted : Nat) (delivered : Bytes),
    (ask m offset wanted).1 = .bytes delivered → delivered.length ≤ wanted

/-- A read that is still going on, or what it has come to. -/
inductive Progress (α : Type) where
  | underway
  | returned (value : α)

def Progress.map {α β : Type} (f : α → β) : Progress α → Progress β
  | underway => underway
  | returned value => returned (f value)

/-- A window of a destination on the way to being filled. -/
structure Filling (σ : Type) where
  medium : σ
  window : Bytes
  filled : Word := 0

namespace Filling

variable {σ : Type}

/-- Fills the window with what lies from `offset` on, in at most so many rounds. -/
def fill? (ask : Answering σ) (offset : Word) :
    Nat → Filling σ → Option (Progress (Except Failure Unit × Filling σ))
  | 0, _ => some .underway
  | rounds + 1, f => do
    let size ← Word.ofLength? f.window.length
    if f.filled < size then
      let (ready, missing) ← f.window.splitAt? f.filled
      let start ← offset.add? f.filled
      match ask f.medium start.toNat missing.length with
      | (.interrupted, medium) => fill? ask offset rounds { f with medium }
      | (.failed error, medium) =>
        return .returned (.error (.io error), { f with medium })
      | (.bytes [], medium) =>
        return .returned
          (.error (.shortRead offset.toNat size.toNat f.filled.toNat), { f with medium })
      | (.bytes (b :: bs), medium) =>
        let count ← Word.ofLength? (b :: bs).length
        let filled ← f.filled.add? count
        fill? ask offset rounds ⟨medium, ready ++ missing.overlay (b :: bs), filled⟩
    else
      return .returned (.ok (), f)

/-- What has been filled lies in the window, and the machine has a word for where
the window ends. -/
structure Sound (f : Filling σ) (offset : Word) : Prop where
  filled_le : f.filled.toNat ≤ f.window.length
  end_lt : offset.toNat + f.window.length < UInt64.size

variable {ask : Answering σ} {offset : Word} {f : Filling σ}

theorem fill?_of_full (h : f.Sound offset) (hfull : f.filled.toNat = f.window.length)
    (rounds : Nat) : fill? ask offset (rounds + 1) f = some (.returned (.ok (), f)) := by
  obtain ⟨size, hsize, hlength⟩ := Word.ofLength?_of_lt (n := f.window.length)
    (by have := h.end_lt; omega)
  have hnone : ¬ f.filled < size := by
    rw [UInt64.lt_iff_toNat_lt]
    omega
  rw [fill?, hsize]
  exact if_neg hnone

theorem fill?_of_lt (h : f.Sound offset) (hlt : f.filled.toNat < f.window.length)
    (rounds : Nat) :
    fill? ask offset (rounds + 1) f =
      match ask f.medium (offset.toNat + f.filled.toNat) (f.window.length - f.filled.toNat) with
      | (.interrupted, medium) => fill? ask offset rounds { f with medium }
      | (.failed error, medium) =>
        some (.returned (.error (.io error), { f with medium }))
      | (.bytes [], medium) =>
        some (.returned (.error (.shortRead offset.toNat f.window.length f.filled.toNat),
          { f with medium }))
      | (.bytes (b :: bs), medium) => (do
        let count ← Word.ofLength? (b :: bs).length
        let filled ← f.filled.add? count
        fill? ask offset rounds
          ⟨medium, f.window.take f.filled.toNat ++
            Bytes.overlay (f.window.drop f.filled.toNat) (b :: bs), filled⟩) := by
  have hend := h.end_lt
  obtain ⟨size, hsize, hlength⟩ := Word.ofLength?_of_lt (n := f.window.length) (by omega)
  obtain ⟨start, hstart, hsum⟩ := Word.add?_of_lt (a := offset) (b := f.filled) (by omega)
  have hmore : f.filled < size := by
    rw [UInt64.lt_iff_toNat_lt]
    omega
  have hmissing : (f.window.drop f.filled.toNat).length = f.window.length - f.filled.toNat :=
    List.length_drop
  rw [← hlength, ← hsum, hlength, ← hmissing, fill?, hsize]
  show (if f.filled < size then _ else _) = _
  rw [if_pos hmore, Bytes.splitAt?_of_le h.filled_le, hstart, ← hlength]
  rfl

/-- The filling once more has been delivered, of which so much is filled. -/
def advanced (f : Filling σ) (medium : σ) (delivered : Bytes) (filled : Word) : Filling σ :=
  ⟨medium, f.window.take f.filled.toNat ++
    Bytes.overlay (f.window.drop f.filled.toNat) delivered, filled⟩

theorem advanced_nil (f : Filling σ) (medium : σ) :
    f.advanced medium [] f.filled = { f with medium } := by
  simp [advanced, Bytes.overlay]

theorem advanced_advanced (hfilled : f.filled.toNat ≤ f.window.length) {first : Bytes}
    {filled : Word} (hvalue : filled.toNat = f.filled.toNat + first.length)
    (medium medium' : σ) (second : Bytes) (filled' : Word) :
    (f.advanced medium first filled).advanced medium' second filled' =
      f.advanced medium' (first ++ second) filled' := by
  have hready : (f.window.take f.filled.toNat ++ first).length = filled.toNat := by
    rw [List.length_append, List.length_take, hvalue]
    omega
  have hwindow : f.window.take f.filled.toNat ++
      Bytes.overlay (f.window.drop f.filled.toNat) first =
        (f.window.take f.filled.toNat ++ first) ++
          f.window.drop (f.filled.toNat + first.length) := by
    simp [Bytes.overlay]
  simp only [advanced]
  rw [hwindow, ← hready, List.take_left, List.drop_left]
  simp [Bytes.overlay, Nat.add_assoc]

theorem Sound.advanced (h : f.Sound offset) {delivered : Bytes}
    (hfits : delivered.length ≤ f.window.length - f.filled.toNat) (medium : σ) :
    ∃ filled : Word, filled.toNat = f.filled.toNat + delivered.length ∧
      (∀ (α : Type) (next : Word → Option α),
        (do
          let count ← Word.ofLength? delivered.length
          let filled ← f.filled.add? count
          next filled) = next filled) ∧
      (f.advanced medium delivered filled).window.length = f.window.length ∧
      (f.advanced medium delivered filled).Sound offset := by
  have hfilled := h.filled_le
  have hend := h.end_lt
  obtain ⟨count, hcount, hlength⟩ := Word.ofLength?_of_lt (n := delivered.length) (by omega)
  obtain ⟨filled, hadd, hsum⟩ := Word.add?_of_lt (a := f.filled) (b := count) (by omega)
  have hwindow : (f.advanced medium delivered filled).window.length = f.window.length := by
    simp only [Filling.advanced, Bytes.overlay, List.length_append, List.length_take,
      List.length_drop]
    omega
  refine ⟨filled, by omega, ?_, hwindow, ?_, ?_⟩
  · intro α next
    rw [hcount]
    show (f.filled.add? count).bind next = next filled
    rw [hadd]
    rfl
  · rw [hwindow]
    show filled.toNat ≤ f.window.length
    omega
  · rw [hwindow]
    exact hend

/-- However many rounds it goes through, filling is exact. -/
theorem Sound.isSome_fill? (hmodest : ask.Modest) (rounds : Nat) (h : f.Sound offset) :
    (fill? ask offset rounds f).isSome := by
  induction rounds generalizing f with
  | zero => rfl
  | succ rounds ih =>
      rcases Nat.lt_or_eq_of_le h.filled_le with hlt | hfull
      case inr =>
        rw [fill?_of_full h hfull]
        rfl
      rw [fill?_of_lt h hlt]
      cases hanswer : ask f.medium (offset.toNat + f.filled.toNat)
          (f.window.length - f.filled.toNat) with
      | mk answer medium =>
          cases answer with
          | interrupted => exact ih ⟨h.filled_le, h.end_lt⟩
          | failed error => rfl
          | bytes delivered =>
              cases delivered with
              | nil => rfl
              | cons b bs =>
                  have hfits := hmodest _ _ _ _ (congrArg Prod.fst hanswer)
                  obtain ⟨filled, -, hnext, -, hsound⟩ := h.advanced hfits medium
                  have hround := hnext _ fun filled =>
                    fill? ask offset rounds (f.advanced medium (b :: bs) filled)
                  exact (congrArg Option.isSome hround).trans (ih hsound)

end Filling

/-- What filling a window of so many bytes from an offset on comes to, where so many
of them had been filled before. -/
def Gathered.outcome (gathered : Gathered) (offset size filled : Nat) : Except Failure Unit :=
  match gathered.stop with
  | none => .ok ()
  | some stop => .error (stop.failure offset size (filled + gathered.bytes.length))

theorem Gathered.outcome_append (front bytes : Bytes) (stop : Option Stop)
    (offset size filled : Nat) :
    Gathered.outcome ⟨front ++ bytes, stop⟩ offset size filled =
      Gathered.outcome ⟨bytes, stop⟩ offset size (filled + front.length) := by
  simp only [outcome, List.length_append, Nat.add_assoc]

namespace Filling

variable {σ : Type} [Medium σ]

/-- Over a medium the filling ends, with what is gathered from there. -/
theorem Sound.fill?_eq {offset : Word} (m : σ) (start wanted : Nat) :
    ∀ f : Filling σ, f.Sound offset → f.medium = m → offset.toNat + f.filled.toNat = start →
      f.window.length - f.filled.toNat = wanted →
      ∃ (enough : Nat) (filled : Word), ∀ rounds : Nat, enough ≤ rounds →
        fill? Medium.readAt offset rounds f =
          some (.returned
            ((Medium.gather m start wanted).1.outcome offset.toNat f.window.length
                f.filled.toNat,
              f.advanced (Medium.gather m start wanted).2
                (Medium.gather m start wanted).1.bytes filled)) := by
  -- every delivery and every interruption takes a round, and what ends the filling
  -- takes one more
  fun_induction Medium.gather m start wanted with
  | case1 m start =>
      intro f h hmedium hstart hwanted
      refine ⟨1, f.filled, ?_⟩
      intro rounds hrounds
      obtain ⟨rounds, rfl⟩ := Nat.exists_eq_succ_of_ne_zero (Nat.one_le_iff_ne_zero.mp hrounds)
      have hfull : f.filled.toNat = f.window.length := by
        have := h.filled_le
        omega
      rw [fill?_of_full h hfull, advanced_nil, ← hmedium]
      rfl
  | case2 m start wanted hwanted m' answered _ ih =>
      intro f h hmedium hstart hmissing
      subst hmedium hstart hmissing
      obtain ⟨enough, filled, hrest⟩ :=
        ih { f with medium := m' } ⟨h.filled_le, h.end_lt⟩ rfl rfl rfl
      refine ⟨enough + 1, filled, ?_⟩
      intro rounds hrounds
      obtain ⟨rounds, rfl⟩ := Nat.exists_eq_add_of_le' (Nat.le_of_add_left_le hrounds)
      rw [fill?_of_lt h (by omega), answered]
      exact hrest rounds (by omega)
  | case3 m start wanted hwanted error m' answered =>
      intro f h hmedium hstart hmissing
      subst hmedium hstart hmissing
      refine ⟨1, f.filled, ?_⟩
      intro rounds hrounds
      obtain ⟨rounds, rfl⟩ := Nat.exists_eq_add_of_le' hrounds
      rw [fill?_of_lt h (by omega), answered, advanced_nil]
      rfl
  | case4 m start wanted hwanted m' answered =>
      intro f h hmedium hstart hmissing
      subst hmedium hstart hmissing
      refine ⟨1, f.filled, ?_⟩
      intro rounds hrounds
      obtain ⟨rounds, rfl⟩ := Nat.exists_eq_add_of_le' hrounds
      rw [fill?_of_lt h (by omega), answered, advanced_nil]
      rfl
  | case5 m start wanted hwanted b bs m' answered rest ih =>
      intro f h hmedium hstart hmissing
      subst hmedium hstart hmissing
      have hfits : (b :: bs).length ≤ f.window.length - f.filled.toNat :=
        Medium.length_le (congrArg Prod.fst answered)
      have hlength : (b :: bs).length = bs.length + 1 := rfl
      obtain ⟨filled, hvalue, hnext, hwindow, hsound⟩ := h.advanced hfits m'
      obtain ⟨enough, last, hrest⟩ := ih (f.advanced m' (b :: bs) filled) hsound rfl
        (by show offset.toNat + filled.toNat = _; omega)
        (by rw [hwindow]; show f.window.length - filled.toNat = _; omega)
      refine ⟨enough + 1, last, ?_⟩
      intro rounds hrounds
      obtain ⟨rounds, rfl⟩ := Nat.exists_eq_add_of_le' (Nat.le_of_add_left_le hrounds)
      have hround := hnext _ fun filled =>
        fill? Medium.readAt offset rounds (f.advanced m' (b :: bs) filled)
      rw [fill?_of_lt h (by omega), answered]
      refine hround.trans ((hrest rounds (by omega)).trans ?_)
      rw [advanced_advanced h.filled_le hvalue, hwindow]
      show some (Progress.returned (rest.1.outcome _ _ filled.toNat, _)) = _
      rw [hvalue, ← Gathered.outcome_append]

end Filling

/-! ## Reading -/

namespace Worded

variable {σ : Type}

/-- Fills a window of the destination with the stream between two offsets: from the
medium, from the tail, or from both. -/
def serve? (ask : Answering σ) (rounds : Nat) (w : Worded σ) (start stop size : Word)
    (window : Bytes) : Option (Progress (Outcome (Worded σ) Nat × Bytes)) := do
  if stop ≤ w.boundary then
    match ← Filling.fill? ask start rounds ⟨w.medium, window, 0⟩ with
    | .underway => return .underway
    | .returned (.error failure, f) =>
      return .returned (.fail failure { w with medium := f.medium }, f.window)
    | .returned (.ok (), f) =>
      return .returned (.done size.toNat { w with medium := f.medium }, f.window)
  else if w.boundary ≤ start then
    let offset ← start.sub? w.boundary
    let last ← offset.add? size
    let source ← w.held.window? offset last
    let copied ← window.copy? source
    return .returned (.done size.toNat w, copied)
  else
    let cut ← w.boundary.sub? start
    let (fromStore, fromBuffer) ← window.splitAt? cut
    match ← Filling.fill? ask start rounds ⟨w.medium, fromStore, 0⟩ with
    | .underway => return .underway
    | .returned (.error failure, f) =>
      return .returned (.fail failure { w with medium := f.medium }, f.window ++ fromBuffer)
    | .returned (.ok (), f) =>
      let remaining ← size.sub? cut
      let (source, _) ← w.held.splitAt? remaining
      let copied ← fromBuffer.copy? source
      return .returned (.done size.toNat { w with medium := f.medium }, f.window ++ copied)

/-- Reads `length` bytes from `position` on into `dest`, in words. -/
def read? (ask : Answering σ) (rounds : Nat) (w : Worded σ) (dest : Bytes)
    (position length : Int64) : Option (Progress (Outcome (Worded σ) Nat × Bytes)) := do
  let objecting (failure : Failure) : Progress (Outcome (Worded σ) Nat × Bytes) :=
    .returned (.fail failure w, dest)
  if position < 0 then
    return objecting (.invalidArgument (.negativePosition position))
  if length < 0 then
    return objecting (.invalidArgument (.negativeLength length))
  if length = 0 then
    return .returned (.done 0 w, dest)
  let start ← Word.ofSigned? position
  let logicalEnd ← w.logicalEnd?
  if logicalEnd ≤ start then
    return objecting (.invalidArgument (.beyondEnd start.toNat logicalEnd.toNat))
  let count ← Word.ofSigned? length
  let stop ← start.add? count
  if logicalEnd < stop then
    return objecting (.underflow start.toNat count.toNat logicalEnd.toNat)
  let size ← stop.sub? start
  let available ← Word.ofLength? dest.length
  if available < size then
    return objecting (.destinationTooSmall size.toNat available.toNat)
  let (window, rest) ← dest.splitAt? size
  let progress ← w.serve? ask rounds start stop size window
  return progress.map fun (outcome, window) => (outcome, window ++ rest)

/-! ## Every step of a read is exact -/

variable {ask : Answering σ} {w : Worded σ} {start stop size : Word} {window : Bytes}

/-- The range is not empty and lies in the stream, the machine has a word for its
length, and so long is the window. -/
structure InRange (w : Worded σ) (start stop size : Word) (window : Bytes) : Prop where
  size_pos : 0 < size.toNat
  length_eq : window.length = size.toNat
  stop_eq : size.toNat + start.toNat = stop.toNat
  stop_le : stop.toNat ≤ w.boundary.toNat + w.held.length

theorem InRange.sound (h : w.InRange start stop size window) {part : Bytes}
    (hpart : part.length ≤ window.length) : (Filling.mk w.medium part 0).Sound start where
  filled_le := Nat.zero_le _
  end_lt := by
    have hstop := stop.toNat_lt_size
    have hlength := h.length_eq
    have heq := h.stop_eq
    show start.toNat + part.length < UInt64.size
    omega

/-- What serving a window comes to once the part below the boundary is there or is not
to be had. -/
def served (w : Worded σ) (start size : Nat) (beyond : Bytes) :
    Except Failure Unit × Filling σ → Outcome (Worded σ) Nat × Bytes
  | (.error failure, f) => (.fail failure { w with medium := f.medium }, f.window ++ beyond)
  | (.ok (), f) =>
    (.done size { w with medium := f.medium }, f.window ++ w.value.fromTail start size)

theorem InRange.serve?_of_le (h : w.InRange start stop size window) (rounds : Nat)
    (hstop : w.boundary.toNat < stop.toNat) (hstart : w.boundary.toNat ≤ start.toNat) :
    w.serve? ask rounds start stop size window =
      some (.returned (.done size.toNat w, w.value.fromTail start.toNat size.toNat)) := by
  obtain ⟨-, hlength, heq, hle⟩ := h
  obtain ⟨offset, hoffset, hfrom⟩ := Word.sub?_of_le hstart
  obtain ⟨last, hlast, hto⟩ := Word.add?_of_lt (a := offset) (b := size)
    (by have := stop.toNat_lt_size; omega)
  have hnotBelow : ¬ stop ≤ w.boundary := by
    rw [UInt64.le_iff_toNat_le]
    omega
  have hbeyond : w.boundary ≤ start := UInt64.le_iff_toNat_le.mpr hstart
  have hsource : w.held.window? offset last =
      some (w.held.slice offset.toNat (last.toNat - offset.toNat)) :=
    Bytes.window?_of_le (by omega) (by omega)
  have htail : w.value.fromTail start.toNat size.toNat =
      w.held.slice offset.toNat (last.toNat - offset.toNat) := by
    have hmedium : w.value.onMedium start.toNat size.toNat = 0 := by
      show min size.toNat (w.boundary.toNat - start.toNat) = 0
      omega
    rw [Live.fromTail, hmedium]
    show w.held.slice (start.toNat - w.boundary.toNat) (size.toNat - 0) = _
    congr 1
    · omega
    · omega
  have hcopy : window.copy? (w.held.slice offset.toNat (last.toNat - offset.toNat)) =
      some (w.held.slice offset.toNat (last.toNat - offset.toNat)) := by
    apply Bytes.copy?_of_eq
    rw [Bytes.slice, List.length_take, List.length_drop]
    omega
  rw [htail, serve?, if_neg hnotBelow, if_pos hbeyond, hoffset]
  show ((offset.add? size).bind _) = _
  rw [hlast]
  show ((w.held.window? offset last).bind _) = _
  rw [hsource]
  show ((window.copy? _).bind _) = _
  rw [hcopy]
  rfl

def fromMedium (w : Worded σ) (start : Word) (window : Bytes) : Filling σ :=
  ⟨w.medium, window.take (w.value.onMedium start.toNat window.length), 0⟩

theorem InRange.serve?_below (h : w.InRange start stop size window) (rounds : Nat)
    (hbelow : stop.toNat ≤ w.boundary.toNat) :
    w.serve? ask rounds start stop size window =
      (Filling.fill? ask start rounds (w.fromMedium start window)).map
        (Progress.map (w.served start.toNat size.toNat
          (window.drop (w.value.onMedium start.toNat window.length)))) := by
  obtain ⟨-, hlength, heq, -⟩ := h
  have hall : w.value.onMedium start.toNat window.length = window.length := by
    show min window.length (w.boundary.toNat - start.toNat) = window.length
    omega
  have htail : w.value.fromTail start.toNat size.toNat = [] := by
    rw [Live.fromTail, ← hlength, hall, Nat.sub_self]
    rfl
  rw [fromMedium, hall, List.take_length, List.drop_length, serve?,
    if_pos (UInt64.le_iff_toNat_le.mpr hbelow)]
  cases Filling.fill? ask start rounds ⟨w.medium, window, 0⟩ with
  | none => rfl
  | some progress =>
      cases progress with
      | underway => rfl
      | returned value =>
          obtain ⟨result, f⟩ := value
          cases result with
          | error failure => simp [Progress.map, served]
          | ok value => simp [Progress.map, served, htail]

theorem InRange.serve?_across (h : w.InRange start stop size window) (rounds : Nat)
    (hstart : start.toNat < w.boundary.toNat) (hstop : w.boundary.toNat < stop.toNat) :
    w.serve? ask rounds start stop size window =
      (Filling.fill? ask start rounds (w.fromMedium start window)).map
        (Progress.map (w.served start.toNat size.toNat
          (window.drop (w.value.onMedium start.toNat window.length)))) := by
  obtain ⟨-, hlength, heq, hle⟩ := h
  obtain ⟨cut, hcut, hvalue⟩ := Word.sub?_of_le (Nat.le_of_lt hstart)
  obtain ⟨remaining, hremaining, hrest⟩ := Word.sub?_of_le (a := size) (b := cut) (by omega)
  have hpart : w.value.onMedium start.toNat window.length = cut.toNat := by
    show min window.length (w.boundary.toNat - start.toNat) = cut.toNat
    omega
  have htail : w.value.fromTail start.toNat size.toNat = w.held.take remaining.toNat := by
    rw [Live.fromTail, ← hlength, hpart]
    show w.held.slice (start.toNat - w.boundary.toNat) (window.length - cut.toNat) = _
    have hfirst : start.toNat - w.boundary.toNat = 0 := by omega
    have hcount : window.length - cut.toNat = remaining.toNat := by omega
    rw [hfirst, hcount]
    rfl
  have hcopy : Bytes.copy? (window.drop cut.toNat) (w.held.take remaining.toNat) =
      some (w.held.take remaining.toNat) := by
    apply Bytes.copy?_of_eq
    rw [List.length_drop, List.length_take]
    omega
  have hnotBelow : ¬ stop ≤ w.boundary := by
    rw [UInt64.le_iff_toNat_le]
    omega
  have hnotBeyond : ¬ w.boundary ≤ start := by
    rw [UInt64.le_iff_toNat_le]
    omega
  rw [fromMedium, hpart, serve?, if_neg hnotBelow, if_neg hnotBeyond, hcut]
  show ((window.splitAt? cut).bind _) = _
  rw [Bytes.splitAt?_of_le (by omega)]
  show ((Filling.fill? ask start rounds ⟨w.medium, window.take cut.toNat, 0⟩).bind _) = _
  -- what is left for the tail is computed only once the filling has succeeded
  cases Filling.fill? ask start rounds ⟨w.medium, window.take cut.toNat, 0⟩ with
  | none => rfl
  | some progress =>
      cases progress with
      | underway => rfl
      | returned value =>
          obtain ⟨result, f⟩ := value
          cases result with
          | error failure => rfl
          | ok value =>
              show ((size.sub? cut).bind _) = _
              rw [hremaining]
              show ((w.held.splitAt? remaining).bind _) = _
              rw [Bytes.splitAt?_of_le (by omega)]
              show ((Bytes.copy? (window.drop cut.toNat) _).bind _) = _
              rw [hcopy]
              simp [Progress.map, served, htail]

theorem InRange.serve?_of_lt (h : w.InRange start stop size window) (rounds : Nat)
    (hstart : start.toNat < w.boundary.toNat) :
    w.serve? ask rounds start stop size window =
      (Filling.fill? ask start rounds (w.fromMedium start window)).map
        (Progress.map (w.served start.toNat size.toNat
          (window.drop (w.value.onMedium start.toNat window.length)))) := by
  rcases Nat.lt_or_ge w.boundary.toNat stop.toNat with hacross | hbelow
  · exact h.serve?_across rounds hstart hacross
  · exact h.serve?_below rounds hbelow

theorem InRange.length_fromTail (h : w.InRange start stop size window) :
    (w.value.fromTail start.toNat size.toNat).length =
      size.toNat - w.value.onMedium start.toNat size.toNat := by
  have hle := h.stop_le
  have heq := h.stop_eq
  rw [Live.fromTail, Bytes.length_slice]
  show min (size.toNat - min size.toNat (w.boundary.toNat - start.toNat))
    (w.held.length - (start.toNat - w.boundary.toNat)) = _
  show _ = size.toNat - min size.toNat (w.boundary.toNat - start.toNat)
  omega

theorem InRange.isSome_serve? (h : w.InRange start stop size window) (hmodest : ask.Modest)
    (rounds : Nat) : (w.serve? ask rounds start stop size window).isSome := by
  rcases Nat.lt_or_ge start.toNat w.boundary.toNat with hlt | hge
  · rw [h.serve?_of_lt rounds hlt, Option.isSome_map]
    exact (h.sound (List.length_take_le' _ _)).isSome_fill? hmodest rounds
  · have hpos := h.size_pos
    have heq := h.stop_eq
    rw [h.serve?_of_le rounds (by omega) hge]
    rfl

end Worded

theorem Medium.length_gather_le {σ : Type} [Medium σ] (m : σ) (offset wanted : Nat) :
    (Medium.gather m offset wanted).1.bytes.length ≤ wanted := by
  fun_induction Medium.gather m offset wanted with
  | case1 => exact Nat.le_refl 0
  | case2 _ _ _ _ _ _ _ ih => exact ih
  | case3 => exact Nat.zero_le _
  | case4 => exact Nat.zero_le _
  | case5 m offset wanted _ b bs m' answered rest ih =>
      have hle : (b :: bs).length ≤ wanted := Medium.length_le (congrArg Prod.fst answered)
      show (b :: bs ++ rest.1.bytes).length ≤ wanted
      rw [List.length_append]
      exact Nat.add_le_of_le_sub' hle ih

theorem Medium.gather_blank (m : Blank) {offset wanted : Nat} (h : offset + wanted ≤ m.length) :
    Medium.gather m offset wanted = (⟨Bytes.zeros wanted, none⟩, m) := by
  induction wanted generalizing offset with
  | zero =>
      rw [Medium.gather, if_pos rfl]
      rfl
  | succ wanted ih =>
      have hanswer : Medium.readAt m offset (wanted + 1) = (.bytes [0], m) := by
        have hone : min (m.length - offset) (min 1 (wanted + 1)) = 1 := by omega
        show (Delivery.bytes (Bytes.zeros (min (m.length - offset) (min 1 (wanted + 1)))), m) = _
        rw [hone]
        rfl
      have hrest : Medium.gather m (offset + 1) (wanted + 1 - 1) = _ := ih (by omega)
      rw [Medium.gather_eq m offset (Nat.succ_ne_zero wanted), hanswer]
      simp only [List.length_nil, Nat.zero_add, hrest]
      rfl

namespace Worded

variable {σ : Type} [Medium σ] {w : Worded σ} {start stop size : Word} {window : Bytes}

/-- Once the part below the boundary has been gathered, serving the front of a
destination comes to what copying out of the stream does. -/
theorem InRange.served_eq (h : w.InRange start stop size window) {gathered : Gathered}
    {medium : σ}
    (hgather : Medium.gather w.value.medium start.toNat
      (w.value.onMedium start.toNat size.toNat) = (gathered, medium))
    (filled : Word) (rest : Bytes) :
    ((w.served start.toNat size.toNat (window.drop (w.value.onMedium start.toNat size.toNat))
        (gathered.outcome start.toNat (w.value.onMedium start.toNat size.toNat) 0,
          (w.fromMedium start window).advanced medium gathered.bytes filled)).1.lift value,
      (w.served start.toNat size.toNat (window.drop (w.value.onMedium start.toNat size.toNat))
        (gathered.outcome start.toNat (w.value.onMedium start.toNat size.toNat) 0,
          (w.fromMedium start window).advanced medium gathered.bytes filled)).2 ++ rest) =
      w.value.copyOut (window ++ rest) start.toNat size.toNat := by
  have hlength := h.length_eq
  have htail := h.length_fromTail
  have hpartLe : w.value.onMedium start.toNat size.toNat ≤ window.length :=
    hlength ▸ Nat.min_le_left _ _
  have hpart : (window.take (w.value.onMedium start.toNat size.toNat)).length =
      w.value.onMedium start.toNat size.toNat := List.length_take_of_le hpartLe
  have hgathered := Medium.length_gather_le w.value.medium start.toNat
    (w.value.onMedium start.toNat size.toNat)
  have hall (hstop : (Medium.gather w.value.medium start.toNat
      (w.value.onMedium start.toNat size.toNat)).1.stop = none) :=
    Medium.length_gather hstop
  rw [hgather] at hgathered hall
  rw [Live.copyOut, hgather, fromMedium, hlength]
  obtain ⟨bytes, stopped⟩ := gathered
  cases stopped with
  | none =>
      have hbytes : bytes.length = w.value.onMedium start.toNat size.toNat := hall rfl
      have hwhole : (bytes ++ w.value.fromTail start.toNat size.toNat).length =
          window.length := by
        rw [List.length_append]
        omega
      have hdest : Bytes.overlay (window.take (w.value.onMedium start.toNat size.toNat)) bytes ++
          w.value.fromTail start.toNat size.toNat ++ rest =
            (window ++ rest).overlay (bytes ++ w.value.fromTail start.toNat size.toNat) := by
        rw [Bytes.overlay_of_eq (hbytes.trans hpart.symm),
          Bytes.overlay_append_of_le (Nat.le_of_eq hwhole), Bytes.overlay_of_eq hwhole]
      exact Prod.ext rfl hdest
  | some stop =>
      -- the rest of the window is untouched, on both sides of the boundary
      have hdest : Bytes.overlay (window.take (w.value.onMedium start.toNat size.toNat)) bytes ++
          window.drop (w.value.onMedium start.toNat size.toNat) ++ rest =
            (window ++ rest).overlay bytes := by
        rw [Bytes.overlay_take_append_drop hgathered hpartLe,
          Bytes.overlay_append_of_le (Nat.le_trans hgathered hpartLe)]
      cases stop with
      | dry =>
          refine Prod.ext ?_ hdest
          show Outcome.fail (.shortRead _ _ (0 + bytes.length)) _ = _
          rw [Nat.zero_add]
          rfl
      | failed error => exact Prod.ext rfl hdest

/-- Over a medium, serving the front of a destination ends as copying out of the
stream does. -/
theorem InRange.serve?_eq (h : w.InRange start stop size window) (rest : Bytes) :
    ∃ enough : Nat, ∀ rounds : Nat, enough ≤ rounds →
      ∃ (outcome : Outcome (Worded σ) Nat) (served : Bytes),
        w.serve? Medium.readAt rounds start stop size window =
            some (.returned (outcome, served)) ∧
          (outcome.lift value, served ++ rest) =
            w.value.copyOut (window ++ rest) start.toNat size.toNat := by
  have hlength := h.length_eq
  rcases Nat.lt_or_ge start.toNat w.boundary.toNat with hlt | hge
  case inr =>
    have hpos := h.size_pos
    have heq := h.stop_eq
    have htail := h.length_fromTail
    have hnone : w.value.onMedium start.toNat size.toNat = 0 := by
      show min size.toNat (w.boundary.toNat - start.toNat) = 0
      omega
    have hall : (w.value.fromTail start.toNat size.toNat).length = window.length := by omega
    refine ⟨0, ?_⟩
    intro rounds _
    refine ⟨_, _, h.serve?_of_le rounds (by omega) hge, ?_⟩
    rw [Live.copyOut, hnone, Medium.gather, if_pos rfl]
    dsimp only
    rw [List.nil_append, Bytes.overlay_append_of_le (Nat.le_of_eq hall),
      Bytes.overlay_of_eq hall]
    rfl
  have hpart : (window.take (w.value.onMedium start.toNat window.length)).length =
      w.value.onMedium start.toNat window.length :=
    List.length_take_of_le (Nat.min_le_left _ _)
  obtain ⟨enough, filled, hfill⟩ := Filling.Sound.fill?_eq w.medium start.toNat
    (w.value.onMedium start.toNat window.length) (w.fromMedium start window)
    (h.sound (List.length_take_le' _ _)) rfl rfl hpart
  refine ⟨enough, ?_⟩
  intro rounds hrounds
  rw [h.serve?_of_lt rounds hlt, hfill rounds hrounds]
  refine ⟨_, _, rfl, ?_⟩
  have hwindow : (w.fromMedium start window).window.length =
      w.value.onMedium start.toNat window.length := hpart
  rw [hwindow, hlength]
  exact h.served_eq rfl filled rest

end Worded

namespace Worded

variable {σ : Type} {ask : Answering σ} {w : Worded σ}

/-! ## The course of a read -/

variable {dest : Bytes} {position length : Int64}

/-- What a read in words comes to before it touches anything: it meets the objection
that the journal has, there is nothing to read, or it serves a window of the
destination from a range of the stream. -/
inductive Course (w : Worded σ) (ask : Answering σ) (dest : Bytes) (position length : Int64) :
    Prop where
  | objected (failure : Failure)
      (objection : w.value.objection? dest.length position length = some failure)
      (read_eq : ∀ rounds : Nat,
        w.read? ask rounds dest position length = some (.returned (.fail failure w, dest)))
  | nothing
      (unobjected : w.value.objection? dest.length position length = none)
      (length_eq : length.toInt.toNat = 0)
      (read_eq : ∀ rounds : Nat,
        w.read? ask rounds dest position length = some (.returned (.done 0 w, dest)))
  | served (start stop size : Word)
      (unobjected : w.value.objection? dest.length position length = none)
      (start_eq : start.toNat = position.toInt.toNat)
      (size_eq : size.toNat = length.toInt.toNat)
      (size_le : size.toNat ≤ dest.length)
      (inRange : w.InRange start stop size (dest.take size.toNat))
      (read_eq : ∀ rounds : Nat,
        w.read? ask rounds dest position length =
          (w.serve? ask rounds start stop size (dest.take size.toNat)).map
            (Progress.map fun (outcome, window) => (outcome, window ++ dest.drop size.toNat)))

theorem toInt_nonneg {n : Int64} (h : ¬ n < 0) : 0 ≤ n.toInt := by
  rw [Int64.lt_iff_toInt_lt] at h
  exact Int.not_lt.mp h

/-- Every read takes one of these courses.  The checks have to be gone through in
order: each of them is what makes the arithmetic of the next one exact. -/
theorem course (w : Worded σ) (ask : Answering σ) (dest : Bytes) (position length : Int64)
    (hend : w.value.logicalEnd < UInt64.size) (hdest : dest.length < UInt64.size) :
    w.Course ask dest position length := by
  by_cases hposition : position < 0
  · refine .objected (.invalidArgument (.negativePosition position)) (if_pos hposition) ?_
    intro rounds
    exact if_pos hposition
  by_cases hnegative : length < 0
  · refine .objected (.invalidArgument (.negativeLength length)) ?_ ?_
    · simp [Live.objection?, hposition, hnegative]
    · intro rounds
      simp [read?, hposition, hnegative]
  have hlengthNonneg := toInt_nonneg hnegative
  by_cases hzero : length = 0
  · have hnone : length.toInt.toNat = 0 := by rw [hzero]; rfl
    refine .nothing ?_ hnone ?_
    · simp [Live.objection?, hposition, hnegative, hnone]
    · intro rounds
      simp [read?, hposition, hzero]
  have hsome : length.toInt.toNat ≠ 0 := by
    intro hnone
    apply hzero
    rw [← Int64.toInt_inj]
    show length.toInt = 0
    omega
  obtain ⟨start, hstart, hstartValue⟩ := Word.ofSigned?_of_nonneg (toInt_nonneg hposition)
  obtain ⟨logicalEnd, hlogicalEnd, hendValue⟩ := logicalEnd?_eq hend
  -- from here on the checks of `objection?` are those of the words
  have hbeyondIff : w.value.logicalEnd ≤ position.toInt.toNat ↔ logicalEnd ≤ start := by
    rw [UInt64.le_iff_toNat_le, hendValue, hstartValue]
  by_cases hbeyond : logicalEnd ≤ start
  · refine .objected (.invalidArgument (.beyondEnd start.toNat logicalEnd.toNat)) ?_ ?_
    · simp only [Live.objection?, hposition, hnegative, hsome, hbeyondIff, hbeyond, hstartValue,
        hendValue, if_true, if_false]
    · intro rounds
      simp [read?, hposition, hnegative, hzero, hstart, hlogicalEnd, hbeyond]
  obtain ⟨count, hcount, hcountValue⟩ := Word.ofSigned?_of_nonneg hlengthNonneg
  obtain ⟨stop, hstop, hstopValue⟩ := Word.add?_of_lt (a := start) (b := count) (by
    have hsize : UInt64.size = 2 ^ 64 := rfl
    have hpositionLt := position.toInt_lt
    have hlengthLt := length.toInt_lt
    omega)
  have hunderflowIff : w.value.logicalEnd < position.toInt.toNat + length.toInt.toNat ↔
      logicalEnd < stop := by
    rw [UInt64.lt_iff_toNat_lt, hendValue, hstopValue, hstartValue, hcountValue]
  by_cases hunderflow : logicalEnd < stop
  · refine .objected (.underflow start.toNat count.toNat logicalEnd.toNat) ?_ ?_
    · simp only [Live.objection?, hposition, hnegative, hsome, hbeyondIff, hbeyond,
        hunderflowIff, hunderflow, hstartValue, hcountValue, hendValue, if_true, if_false]
    · intro rounds
      simp [read?, hposition, hnegative, hzero, hstart, hlogicalEnd, hbeyond, hcount, hstop,
        hunderflow]
  obtain ⟨size, hsize, hsizeSum⟩ := Word.sub?_of_le (a := stop) (b := start) (by omega)
  have hsizeValue : size.toNat = length.toInt.toNat := by omega
  obtain ⟨available, havailable, havailableValue⟩ := Word.ofLength?_of_lt hdest
  have hsmallIff : dest.length < length.toInt.toNat ↔ available < size := by
    rw [UInt64.lt_iff_toNat_lt, havailableValue, hsizeValue]
  by_cases hsmall : available < size
  · refine .objected (.destinationTooSmall size.toNat available.toNat) ?_ ?_
    · simp only [Live.objection?, hposition, hnegative, hsome, hbeyondIff, hbeyond,
        hunderflowIff, hunderflow, hsmallIff, hsmall, hsizeValue, havailableValue, if_true,
        if_false]
    · intro rounds
      simp [read?, hposition, hnegative, hzero, hstart, hlogicalEnd, hbeyond, hcount, hstop,
        hunderflow, hsize, havailable, hsmall]
  have hfits : size.toNat ≤ dest.length := by
    rw [← havailableValue]
    exact Nat.not_lt.mp fun h => hsmall (UInt64.lt_iff_toNat_lt.mpr h)
  have hwithin : stop.toNat ≤ w.value.logicalEnd := by
    rw [← hendValue]
    exact Nat.not_lt.mp fun h => hunderflow (UInt64.lt_iff_toNat_lt.mpr h)
  refine .served start stop size ?_ hstartValue hsizeValue hfits
    ⟨by omega, List.length_take_of_le hfits, hsizeSum, hwithin⟩ ?_
  · simp only [Live.objection?, hposition, hnegative, hsome, hbeyondIff, hbeyond,
      hunderflowIff, hunderflow, hsmallIff, hsmall, if_false]
  · intro rounds
    cases hserve : w.serve? ask rounds start stop size (dest.take size.toNat) <;>
      simp [read?, hposition, hnegative, hzero, hstart, hlogicalEnd, hbeyond, hcount, hstop,
        hunderflow, hsize, havailable, hsmall, Bytes.splitAt?_of_le hfits, hserve]

/-- A read in words is exact over any medium that delivers no more than it is asked
for: no sum, difference or cast ever comes to another number, and no stretch is cut
where there is none, however long the read goes on.  Over a `Medium` it ends, with what
the read of the journal in numbers comes to. -/
theorem read?_exact (w : Worded σ) (ask : Answering σ) (hmodest : ask.Modest) (dest : Bytes)
    (position length : Int64) (hend : w.value.logicalEnd < UInt64.size)
    (hdest : dest.length < UInt64.size) :
    (∀ rounds : Nat, (w.read? ask rounds dest position length).isSome) ∧
      ∀ [Medium σ], ask = Medium.readAt →
        ∃ enough : Nat, ∀ rounds : Nat, enough ≤ rounds →
          ∃ (outcome : Outcome (Worded σ) Nat) (dest' : Bytes),
            w.read? ask rounds dest position length = some (.returned (outcome, dest')) ∧
              (outcome.lift value, dest') = w.value.read dest position length := by
  cases w.course ask dest position length hend hdest with
  | objected failure objection read_eq =>
      refine ⟨fun rounds => by rw [read_eq]; rfl, ?_⟩
      intro _ _
      refine ⟨0, fun rounds _ => ⟨_, _, read_eq rounds, ?_⟩⟩
      rw [Live.read, objection]
      rfl
  | nothing unobjected length_eq read_eq =>
      refine ⟨fun rounds => by rw [read_eq]; rfl, ?_⟩
      intro _ _
      refine ⟨0, fun rounds _ => ⟨_, _, read_eq rounds, ?_⟩⟩
      have hnone : w.value.onMedium position.toInt.toNat 0 = 0 := Nat.zero_min _
      rw [Live.read, unobjected, length_eq]
      dsimp only
      rw [Live.copyOut, hnone, Medium.gather, if_pos rfl, Live.fromTail, Nat.zero_sub]
      rfl
  | served start stop size unobjected start_eq size_eq size_le inRange read_eq =>
      refine ⟨fun rounds => ?_, ?_⟩
      · rw [read_eq, Option.isSome_map]
        exact inRange.isSome_serve? hmodest rounds
      · intro _ hask
        subst hask
        obtain ⟨enough, hserve⟩ := inRange.serve?_eq (dest.drop size.toNat)
        refine ⟨enough, fun rounds hrounds => ?_⟩
        obtain ⟨outcome, window, hreturned, hvalue⟩ := hserve rounds hrounds
        refine ⟨outcome, window ++ dest.drop size.toNat, ?_, ?_⟩
        · rw [read_eq, hreturned]
          rfl
        · rw [hvalue, List.take_append_drop, Live.read, unobjected, start_eq, size_eq]

/-- Three bytes in the tail behind a boundary that no signed word reaches. -/
def straddling : Worded Blank where
  settings := {}
  medium := ⟨UInt64.size / 2⟩
  buffer := .ok ⟨65536, [7, 8, 9]⟩
  boundary := 0x8000000000000000

theorem read?_straddling :
    (∀ rounds : Nat, (straddling.read? Medium.readAt rounds [1, 2, 3, 4, 5]
        (Int64.maxValue - 1) 4).isSome) ∧
      ∃ enough : Nat, ∀ rounds : Nat, enough ≤ rounds →
        ∃ outcome : Outcome (Worded Blank) Nat,
          straddling.read? Medium.readAt rounds [1, 2, 3, 4, 5] (Int64.maxValue - 1) 4 =
              some (.returned (outcome, [0, 0, 7, 8, 5])) ∧
            outcome.result = .ok 4 := by
  have hend : straddling.value.logicalEnd < UInt64.size := by decide
  have hmodest : Answering.Modest (Medium.readAt : Answering Blank) := by
    intro m offset wanted delivered h
    exact Medium.length_le h
  obtain ⟨hexact, hends⟩ := read?_exact straddling Medium.readAt hmodest [1, 2, 3, 4, 5]
    (Int64.maxValue - 1) 4 hend (by decide)
  refine ⟨hexact, ?_⟩
  obtain ⟨enough, h⟩ := hends rfl
  refine ⟨enough, ?_⟩
  intro rounds hrounds
  obtain ⟨outcome, dest', hread, hvalue⟩ := h rounds hrounds
  have hsample : straddling.value.read [1, 2, 3, 4, 5] (Int64.maxValue - 1) 4 =
      (.done 4 straddling.value, [0, 0, 7, 8, 5]) := by
    have hlet : straddling.value.objection? ([1, 2, 3, 4, 5] : Bytes).length
        (Int64.maxValue - 1) 4 = none := by decide
    have hbelow : straddling.value.onMedium (Int64.maxValue - 1).toInt.toNat
        (4 : Int64).toInt.toNat = 2 := by decide
    have hgather : Medium.gather straddling.value.medium (Int64.maxValue - 1).toInt.toNat 2 =
        (⟨[0, 0], none⟩, straddling.value.medium) :=
      Medium.gather_blank _ (by decide)
    rw [Live.read, hlet, Live.copyOut, hbelow, hgather]
    rfl
  rw [hsample] at hvalue
  obtain ⟨houtcome, rfl⟩ := Prod.mk.inj hvalue
  exact ⟨outcome, hread, congrArg Outcome.result houtcome⟩

end Worded

end WriteBack
