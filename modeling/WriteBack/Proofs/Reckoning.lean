/-
# Reckoning — the sums that a journal makes, in words

Five sums grow with a journal: the boundary, the bytes that no sync has covered,
the two counts of bytes, and what is exposed.  They are kept apart and added to in
different places, before it is known how a call will end.  Here every call is made
on words.  A sum that a machine cannot make ends the call, so that a call which has
an outcome has made all of its sums.

What keeps them all below the limit is one number.  None of them exceeds where the
stream ends (`Live.Contained`), and while a write is under way none exceeds where
the stream would end with it.  So it is enough that there is a word for that.
-/
import WriteBack.Journal
import WriteBack.Proofs.Abiding
import WriteBack.Proofs.Words

namespace WriteBack

/-! ## Calls that may have no outcome -/

/-- Goes on from where a call left off, if it has come to an end. -/
def Outcome.andThen? {State α β : Type} (first? : Option (Outcome State α))
    (next? : α → State → Option (Outcome State β)) : Option (Outcome State β) := do
  let first ← first?
  match first.result with
  | .ok value =>
    let second ← next? value first.after
    return { second with events := first.events ++ second.events }
  | .error failure => return ⟨.error failure, first.after, first.events⟩

namespace Worded

variable {σ : Type}

def withHeld (w : Worded σ) (held : Bytes) : Worded σ :=
  { w with buffer := w.buffer.map fun buffer => { buffer with held := held } }

def exposed? (w : Worded σ) : Option Word := do
  let length ← Word.ofLength? w.held.length
  w.unsynced.add? length

/-- Whether more bytes are exposed than a bound allows, if it is one: the bound is
cast and compared as a word. -/
def exceeds? (w : Worded σ) (bound : Int64) : Option Bool :=
  if 0 < bound then do
    let exposed ← w.exposed?
    let most ← Word.ofSigned? bound
    return most < exposed
  else
    return false

def booked? (w : Worded σ) (count : Nat) : Option (Worded σ) := do
  let count ← Word.ofLength? count
  let boundary ← w.boundary.add? count
  let unsynced ← w.unsynced.add? count
  let bytesFlushed ← w.bytesFlushed.add? count
  return { w with boundary, unsynced, appends := w.appends + 1, bytesFlushed }

def counted? (w : Worded σ) (count : Nat) : Option (Worded σ) := do
  let count ← Word.ofLength? count
  let bytesWritten ← w.bytesWritten.add? count
  return { w with writes := w.writes + 1, bytesWritten }

section Calls

variable [Medium σ]

def flush? (w : Worded σ) : Option (Outcome (Worded σ) Unit) :=
  if w.held.isEmpty then some (.done () w)
  else
    match Medium.append w.medium w.held with
    | (.error error, medium) => some (.fail (.io error) { w with medium })
    | (.ok (), medium) => do
      let flushed ← ({ w with medium }.withHeld []).booked? w.held.length
      return ⟨.ok (), flushed, [.flushed w.held.length flushed.boundary.toNat]⟩

def writeThrough? (w : Worded σ) (data : Bytes) : Option (Outcome (Worded σ) Unit) :=
  match Medium.append w.medium data with
  | (.error error, medium) => some (.fail (.io error) { w with medium })
  | (.ok (), medium) => do
    let written ← { w with medium }.booked? data.length
    return ⟨.ok (), { written with straightThrough := written.straightThrough + 1 },
      [.wroteThrough data.length written.boundary.toNat]⟩

/-- Makes durable what the medium has; this takes no sum. -/
def sync (w : Worded σ) : Outcome (Worded σ) Unit :=
  match Medium.sync w.medium with
  | (.error error, medium) => .fail (.io error) { w with medium }
  | (.ok (), medium) => .done () { w with medium, unsynced := 0, syncs := w.syncs + 1 }

def makeRoom? (w : Worded σ) (count : Nat) : Option (Outcome (Worded σ) Unit) := do
  let length ← Word.ofLength? w.held.length
  let count ← Word.ofLength? count
  let total ← length.add? count
  if w.settings.room < total.toNat then w.flush? else return .done () w

def place? (w : Worded σ) (data : Bytes) : Option (Outcome (Worded σ) Unit) :=
  if w.settings.room < data.length then w.writeThrough? data
  else some (.done () (w.withHeld (w.held ++ data)))

/-- Counts the write, and forces a sync if too many bytes are exposed. -/
def settle? (w : Worded σ) (kept count : Nat) : Option (Outcome (Worded σ) Unit) := do
  let excess ← w.exceeds? w.settings.bound
  let exposed ← w.exposed?
  if excess then
    let flushed? := w.flush?.map (Outcome.onFailure fun w' => w'.withHeld (w'.held.take kept))
    let stored? := Outcome.andThen? flushed? fun _ w' => (w'.counted? count).map sync
    Outcome.andThen? stored? fun _ w' =>
      some ⟨.ok (), w', [.forcedSync exposed.toNat w.settings.bound]⟩
  else
    (w.counted? count).map (Outcome.done ())

def write? (w : Worded σ) (data : Bytes) : Option (Outcome (Worded σ) Unit) :=
  match w.buffer with
  | .error shortage => some (.fail (.bufferUnavailable shortage) w)
  | .ok _ =>
    if data.isEmpty then some (.done () w)
    else
      Outcome.andThen? (w.makeRoom? data.length) fun _ roomy =>
        Outcome.andThen? (roomy.place? data) fun _ placed =>
          placed.settle? roomy.held.length data.length

def flushAnd? (w : Worded σ) (syncing : Bool) : Option (Outcome (Worded σ) Unit) :=
  Outcome.andThen? w.flush? fun _ w' => some (if syncing then w'.sync else .done () w')

def forceWrite? (w : Worded σ) : Option (Outcome (Worded σ) Nat) :=
  Outcome.andThen? (w.flushAnd? true) fun _ w' => some (.done w'.boundary.toNat w')

/-- A read begins with where the stream ends.  What follows after that adds to none
of the sums that the journal keeps. -/
def serveRead? (w : Worded σ) (dest : Bytes) (position length : Int64) :
    Option (Outcome (Worded σ) Nat × Bytes) := do
  let _ ← w.logicalEnd?
  let (outcome, dest) := w.value.read dest position length
  return (⟨outcome.result, { w with medium := outcome.after.medium }, outcome.events⟩, dest)

def lastFlush? (w : Worded σ) : Option (Outcome (Worded σ) Unit) := do
  let flushed ← w.flush?
  match flushed.result with
  | .ok () =>
    return { flushed with events := flushed.events ++ [.closed flushed.after.boundary.toNat] }
  | .error failure =>
    return { flushed with
      events := flushed.events ++ [.lostOnClose failure flushed.after.held.length] }

def drop? (w : Worded σ) : Option (σ × List Event) := do
  let exposed ← w.exposed?
  if exposed = 0 then
    return (w.medium, [])
  else
    let last ← w.flushAnd? true
    match last.result with
    | .ok () => return (last.after.medium, last.events)
    | .error failure => return (last.after.medium, last.events ++ [.failedOnDrop failure])

end Calls

/-! ## Exact calls -/

/-- The call in words comes to an end, and to what the call in numbers comes to. -/
def Exact {α : Type} (call? : Option (Outcome (Worded σ) α)) (call : Outcome (Live σ) α) :
    Prop :=
  ∃ outcome : Outcome (Worded σ) α, call? = some outcome ∧ outcome.lift value = call

section Combining

variable {α γ : Type} {first? : Option (Outcome (Worded σ) α)} {first : Outcome (Live σ) α}

theorem Exact.andThen (hfirst : Exact first? first)
    {next? : α → Worded σ → Option (Outcome (Worded σ) γ)}
    {next : α → Live σ → Outcome (Live σ) γ}
    (hnext : ∀ (a : α) (w : Worded σ), first.result = .ok a → w.value = first.after →
      Exact (next? a w) (next a w.value)) :
    Exact (Outcome.andThen? first? next?) (first.andThen next) := by
  obtain ⟨⟨result, after, events⟩, rfl, rfl⟩ := hfirst
  cases result with
  | ok a =>
      obtain ⟨second, hsecond, hvalue⟩ := hnext a after rfl rfl
      refine ⟨{ second with events := events ++ second.events }, ?_, ?_⟩
      · simp [Outcome.andThen?, hsecond]
      · simp [Outcome.andThen, Outcome.lift, ← hvalue]
  | error failure => exact ⟨⟨.error failure, after, events⟩, rfl, rfl⟩

theorem Exact.onFailure (hfirst : Exact first? first) {mend? : Worded σ → Worded σ}
    {mend : Live σ → Live σ} (hmend : ∀ w : Worded σ, (mend? w).value = mend w.value) :
    Exact (first?.map (Outcome.onFailure mend?)) (first.onFailure mend) := by
  obtain ⟨⟨result, after, events⟩, rfl, rfl⟩ := hfirst
  cases result with
  | ok a => exact ⟨_, rfl, rfl⟩
  | error failure =>
      refine ⟨_, rfl, ?_⟩
      show Outcome.mk _ (mend? after).value events = _
      rw [hmend]
      rfl

end Combining

end Worded

/-! ## What keeps the sums below the limit -/

namespace Live

variable {σ : Type}

/-- None of the sums of the journal exceeds where its stream ends, which is `ahead` of
the bytes that were counted at least; and `spare` more bytes lie within the words. -/
structure Contained (ahead spare : Nat) (j : Live σ) : Prop where
  unsynced_le : j.unsynced ≤ j.boundary
  flushed_le : j.tally.bytesFlushed ≤ j.boundary
  written_le : j.tally.bytesWritten + ahead ≤ j.logicalEnd
  end_lt : j.logicalEnd + spare < UInt64.size

variable {ahead spare : Nat} {j : Live σ}

theorem calm_contained [Medium σ] (ahead spare : Nat) :
    Calm (Contained ahead spare : Live σ → Prop) where
  refused _ h := ⟨h.unsynced_le, h.flushed_le, h.written_le, h.end_lt⟩
  readAt _ _ h := ⟨h.unsynced_le, h.flushed_le, h.written_le, h.end_lt⟩
  moved {j} _ _ h := by
    have hend : (({ j with medium := (Medium.append j.medium j.held).2 }.withHeld []).booked
        j.held.length).logicalEnd = j.logicalEnd := by
      show j.boundary + j.held.length +
        (({ j with medium := (Medium.append j.medium j.held).2 } : Live σ).withHeld
          []).held.length = _
      rw [held_withHeld_nil]
      rfl
    refine ⟨Nat.add_le_add_right h.unsynced_le _, Nat.add_le_add_right h.flushed_le _, ?_, ?_⟩
    · rw [hend]
      exact h.written_le
    · rw [hend]
      exact h.end_lt
  synced _ h := ⟨Nat.zero_le _, h.flushed_le, h.written_le, h.end_lt⟩

theorem Contained.place [Medium σ] {data : Bytes} (h : j.Contained 0 data.length)
    (hbuffer : ∃ buffer, j.buffer = .ok buffer) (hok : (j.place data).result = .ok ()) :
    (j.place data).after.Contained data.length 0 := by
  obtain ⟨hunsynced, hflushed, hwritten, hend⟩ := h
  have hsum : j.logicalEnd = j.boundary + j.held.length := rfl
  by_cases hlarge : j.settings.room < data.length
  · rw [place_of_lt hlarge] at hok ⊢
    cases happend : (Medium.append j.medium data).1 with
    | ok value =>
        rw [writeThrough_of_append happend]
        have hend' : j.boundary + data.length + j.held.length = j.logicalEnd + data.length := by
          omega
        refine ⟨Nat.add_le_add_right hunsynced _, Nat.add_le_add_right hflushed _, ?_, ?_⟩
        · show j.tally.bytesWritten + data.length ≤ j.boundary + data.length + j.held.length
          omega
        · show j.boundary + data.length + j.held.length < UInt64.size
          omega
    | error error =>
        rw [writeThrough_of_refused happend] at hok
        cases hok
  · obtain ⟨buffer, hbuffer⟩ := hbuffer
    rw [place_of_le (Nat.le_of_not_lt hlarge)]
    have hend' : (j.withHeld (j.held ++ data)).logicalEnd = j.logicalEnd + data.length := by
      show j.boundary + (j.withHeld (j.held ++ data)).held.length = _
      rw [held_withHeld hbuffer, List.length_append, hsum, Nat.add_assoc]
    refine ⟨hunsynced, hflushed, ?_, ?_⟩
    · show j.tally.bytesWritten + data.length ≤ (j.withHeld (j.held ++ data)).logicalEnd
      omega
    · show (j.withHeld (j.held ++ data)).logicalEnd < UInt64.size
      omega

end Live

/-! ## Every call is exact -/

namespace Worded

open Live (Contained calm_contained)

variable {σ : Type} {w : Worded σ} {ahead spare : Nat}

theorem exposed?_eq (h : w.value.Contained ahead spare) :
    ∃ c : Word, w.exposed? = some c ∧ c.toNat = w.value.exposed := by
  have hunsynced : w.unsynced.toNat ≤ w.boundary.toNat := h.unsynced_le
  have hend : w.boundary.toNat + w.held.length + spare < UInt64.size := h.end_lt
  obtain ⟨length, hlength, hvalue⟩ := Word.ofLength?_of_lt (n := w.held.length) (by omega)
  obtain ⟨c, hc, hsum⟩ := Word.add?_of_lt (a := w.unsynced) (b := length) (by omega)
  refine ⟨c, ?_, ?_⟩
  · simp [exposed?, hlength, hc]
  · rw [hsum, hvalue]
    rfl

theorem exceeds?_eq (h : w.value.Contained ahead spare) (bound : Int64) :
    w.exceeds? bound = some (decide (0 < bound) && decide (bound.toInt < w.value.exposed)) := by
  by_cases hbound : 0 < bound
  · have hpos : 0 < bound.toInt := Int64.lt_iff_toInt_lt.mp hbound
    obtain ⟨exposed, hexposed, hvalue⟩ := exposed?_eq h
    obtain ⟨most, hmost, hnumber⟩ := Word.ofSigned?_of_nonneg (Int.le_of_lt hpos)
    have hiff : most < exposed ↔ bound.toInt < w.value.exposed := by
      rw [UInt64.lt_iff_toNat_lt, hvalue, hnumber]
      omega
    simp [exceeds?, hbound, hexposed, hmost, hiff]
  · simp [exceeds?, hbound]

theorem booked?_eq {count : Nat} (hunsynced : w.unsynced.toNat ≤ w.boundary.toNat)
    (hflushed : w.bytesFlushed.toNat ≤ w.boundary.toNat)
    (hlt : w.boundary.toNat + count < UInt64.size) :
    ∃ w' : Worded σ, w.booked? count = some w' ∧ w'.value = w.value.booked count := by
  obtain ⟨n, hn, hvalue⟩ := Word.ofLength?_of_lt (n := count) (by omega)
  obtain ⟨boundary, hboundary, hb⟩ := Word.add?_of_lt (a := w.boundary) (b := n) (by omega)
  obtain ⟨unsynced, hunsynced', hu⟩ := Word.add?_of_lt (a := w.unsynced) (b := n) (by omega)
  obtain ⟨flushed, hflushed', hf⟩ := Word.add?_of_lt (a := w.bytesFlushed) (b := n) (by omega)
  refine ⟨_, by simp [booked?, hn, hboundary, hunsynced', hflushed']; rfl, ?_⟩
  simp [value, Live.booked, hb, hu, hf, hvalue]

theorem counted?_eq {count : Nat} (h : w.value.Contained count 0) :
    ∃ w' : Worded σ, w.counted? count = some w' ∧ w'.value = w.value.counted count := by
  have hlt : w.bytesWritten.toNat + count < UInt64.size :=
    Nat.lt_of_le_of_lt h.written_le h.end_lt
  obtain ⟨n, hn, hvalue⟩ := Word.ofLength?_of_lt (n := count) (by omega)
  obtain ⟨written, hwritten, hsum⟩ := Word.add?_of_lt (a := w.bytesWritten) (b := n) (by omega)
  refine ⟨_, by simp [counted?, hn, hwritten]; rfl, ?_⟩
  simp [value, Live.counted, hsum, hvalue]

variable [Medium σ]

theorem exact_flush (h : w.value.Contained ahead spare) : Exact w.flush? w.value.flush := by
  have hend : w.boundary.toNat + w.held.length + spare < UInt64.size := h.end_lt
  by_cases hheld : w.held = []
  · rw [Live.flush_of_nil hheld]
    exact ⟨.done () w, by simp [flush?, hheld], rfl⟩
  have hempty : ¬ w.held.isEmpty = true := by simpa using hheld
  cases happend : Medium.append w.medium w.held with
  | mk answer medium =>
      have hflush : w.value.flush = match (answer, medium) with
          | (.error error, medium) => .fail (.io error) { w.value with medium }
          | (.ok (), medium) =>
            ⟨.ok (), ({ w.value with medium }.withHeld []).booked w.held.length,
              [.flushed w.held.length
                (({ w.value with medium }.withHeld []).booked w.held.length).boundary]⟩ := by
        rw [← happend]
        exact if_neg hempty
      rw [hflush, flush?, if_neg hempty, happend]
      cases answer with
      | ok value =>
          have hroom : w.boundary.toNat + w.held.length < UInt64.size := by omega
          obtain ⟨flushed, hbooked, hvalue⟩ :=
            booked?_eq (w := ({ w with medium } : Worded σ).withHeld []) h.unsynced_le
              h.flushed_le hroom
          refine ⟨⟨.ok (), flushed, [.flushed w.held.length flushed.boundary.toNat]⟩, ?_, ?_⟩
          · simp [hbooked]
          · have hboundary : flushed.boundary.toNat = flushed.value.boundary := rfl
            rw [hboundary, Outcome.lift, hvalue]
            rfl
      | error error => exact ⟨_, rfl, rfl⟩

theorem exact_writeThrough {data : Bytes} (h : w.value.Contained 0 data.length) :
    Exact (w.writeThrough? data) (w.value.writeThrough data) := by
  have hend : w.boundary.toNat + w.held.length + data.length < UInt64.size := h.end_lt
  have hroom : w.boundary.toNat + data.length < UInt64.size := by omega
  cases happend : Medium.append w.medium data with
  | mk answer medium =>
      have hthrough : w.value.writeThrough data = match (answer, medium) with
          | (.error error, medium) => .fail (.io error) { w.value with medium }
          | (.ok (), medium) =>
            ⟨.ok (),
              { { w.value with medium }.booked data.length with
                tally.straightThrough := w.value.tally.straightThrough + 1 },
              [.wroteThrough data.length (w.value.boundary + data.length)]⟩ := by
        rw [← happend]
        rfl
      rw [hthrough, writeThrough?, happend]
      cases answer with
      | ok value =>
          obtain ⟨written, hbooked, hvalue⟩ :=
            booked?_eq (w := { w with medium }) h.unsynced_le h.flushed_le hroom
          refine ⟨⟨.ok (), { written with straightThrough := written.straightThrough + 1 },
            [.wroteThrough data.length written.boundary.toNat]⟩, by simp [hbooked], ?_⟩
          show Outcome.mk (.ok ())
            { written.value with
              tally.straightThrough := written.value.tally.straightThrough + 1 }
            [.wroteThrough data.length written.value.boundary] = _
          rw [hvalue]
          rfl
      | error error => exact ⟨_, rfl, rfl⟩

theorem value_sync (w : Worded σ) : w.sync.lift value = w.value.sync := by
  cases hsync : Medium.sync w.medium with
  | mk answer medium =>
      have hvalue : Medium.sync w.value.medium = (answer, medium) := hsync
      rw [sync, hsync, Live.sync, hvalue]
      cases answer with
      | ok value => rfl
      | error error => rfl

theorem exact_makeRoom {count : Nat} (h : w.value.Contained 0 count) :
    Exact (w.makeRoom? count) (w.value.makeRoom count) := by
  have hend : w.boundary.toNat + w.held.length + count < UInt64.size := h.end_lt
  obtain ⟨length, hlength, hheld⟩ := Word.ofLength?_of_lt (n := w.held.length) (by omega)
  obtain ⟨n, hn, hcount⟩ := Word.ofLength?_of_lt (n := count) (by omega)
  obtain ⟨total, htotal, hsum⟩ := Word.add?_of_lt (a := length) (b := n) (by omega)
  have hmake : w.makeRoom? count =
      if w.settings.room < total.toNat then w.flush? else some (.done () w) := by
    simp [makeRoom?, hlength, hn, htotal]
  rw [hmake, hsum, hheld, hcount, Live.makeRoom]
  by_cases hfull : w.settings.room < w.held.length + count
  · have hfull' : w.value.settings.room < w.value.held.length + count := hfull
    rw [if_pos hfull, if_pos hfull']
    exact exact_flush h
  · have hfull' : ¬ w.value.settings.room < w.value.held.length + count := hfull
    rw [if_neg hfull, if_neg hfull']
    exact ⟨_, rfl, rfl⟩

theorem exact_place {data : Bytes} (h : w.value.Contained 0 data.length) :
    Exact (w.place? data) (w.value.place data) := by
  by_cases hlarge : w.settings.room < data.length
  · have hlarge' : w.value.settings.room < data.length := hlarge
    rw [place?, if_pos hlarge, Live.place, if_pos hlarge']
    exact exact_writeThrough h
  · have hlarge' : ¬ w.value.settings.room < data.length := hlarge
    rw [place?, if_neg hlarge, Live.place, if_neg hlarge']
    exact ⟨_, rfl, rfl⟩

/-- Settling a write whose data has been placed.  The forced flush may be refused; what
has to be counted is below where the stream ends in any case. -/
theorem exact_settle {count : Nat} (h : w.value.Contained count 0) (kept : Nat) :
    Exact (w.settle? kept count) (w.value.settle kept count) := by
  obtain ⟨exposed, hexposed, hvalue⟩ := exposed?_eq h
  have hover : w.exceeds? w.settings.bound = some w.value.overBound := exceeds?_eq h _
  cases hforced : w.value.overBound with
  | false =>
      obtain ⟨counted, hcounted, hnumbers⟩ := counted?_eq h
      refine ⟨.done () counted, ?_, ?_⟩
      · simp [settle?, hover, hforced, hexposed, hcounted]
      · rw [Live.settle, hforced]
        exact congrArg (Outcome.done ()) hnumbers
  | true =>
      have hsettle : w.settle? kept count =
          Outcome.andThen?
            (Outcome.andThen?
              (w.flush?.map (Outcome.onFailure fun w' => w'.withHeld (w'.held.take kept)))
              fun _ w' => (w'.counted? count).map sync)
            fun _ w' => some ⟨.ok (), w', [.forcedSync exposed.toNat w.settings.bound]⟩ := by
        simp [settle?, hover, hforced, hexposed]
      rw [hsettle, Live.settle, if_pos hforced, hvalue]
      have hflushed : Exact
          (w.flush?.map (Outcome.onFailure fun w' => w'.withHeld (w'.held.take kept)))
          (w.value.flush.onFailure fun j' => j'.withHeld (j'.held.take kept)) :=
        (exact_flush h).onFailure fun _ => rfl
      refine (hflushed.andThen ?_).andThen ?_
      · intro _ flushed hok hafter
        -- cutting the tail back does not turn a refused flush into a success
        have hflush : w.value.flush.result = .ok () := by
          cases hresult : w.value.flush.result with
          | ok value => rfl
          | error failure =>
              rw [Outcome.onFailure_of_error _ hresult, hresult] at hok
              cases hok
        rw [Outcome.onFailure_of_ok _ hflush] at hafter
        have hcontained : flushed.value.Contained count 0 := by
          rw [hafter]
          exact (calm_contained count 0).flush h
        obtain ⟨counted, hcounted, hnumbers⟩ := counted?_eq hcontained
        refine ⟨counted.sync, by rw [hcounted]; rfl, ?_⟩
        rw [value_sync, hnumbers]
      · intro _ stored _ _
        exact ⟨_, rfl, rfl⟩

/-- A write is exact as soon as there is a word for where the stream would end with
it, whatever becomes of it. -/
theorem exact_write {data : Bytes} (h : w.value.Contained 0 data.length) :
    Exact (w.write? data) (w.value.write data) := by
  rw [write?, Live.write]
  cases hbuffer : w.buffer with
  | error shortage =>
      have hnone : w.value.buffer = .error shortage := hbuffer
      rw [hnone]
      exact ⟨_, rfl, rfl⟩
  | ok buffer =>
      have hsome : w.value.buffer = .ok buffer := hbuffer
      rw [hsome]
      by_cases hdata : data.isEmpty = true
      · simp only [if_pos hdata]
        exact ⟨_, rfl, rfl⟩
      simp only [if_neg hdata]
      refine (exact_makeRoom h).andThen ?_
      intro _ roomy _ hroomy
      have hcontained : roomy.value.Contained 0 data.length := by
        rw [hroomy]
        exact (calm_contained 0 data.length).makeRoom h data.length
      have hbuffered : ∃ buffer, roomy.value.buffer = .ok buffer := by
        rw [hroomy]
        exact Live.abiding_buffer.makeRoom ⟨buffer, hsome⟩ data.length
      refine (exact_place hcontained).andThen ?_
      intro _ placed hok hplaced
      have hahead := hcontained.place hbuffered hok
      rw [← hplaced] at hahead
      exact exact_settle hahead _

theorem exact_flushAnd (h : w.value.Contained ahead spare) (syncing : Bool) :
    Exact (w.flushAnd? syncing) (w.value.flushAnd syncing) := by
  refine (exact_flush h).andThen ?_
  intro _ flushed _ _
  cases syncing with
  | true => exact ⟨_, rfl, value_sync flushed⟩
  | false => exact ⟨_, rfl, rfl⟩

theorem exact_forceWrite (h : w.value.Contained ahead spare) :
    Exact w.forceWrite? w.value.forceWrite := by
  refine (exact_flushAnd h true).andThen ?_
  intro _ stored _ _
  exact ⟨_, rfl, rfl⟩

theorem exact_lastFlush (h : w.value.Contained ahead spare) :
    Exact w.lastFlush? w.value.lastFlush := by
  obtain ⟨⟨result, after, events⟩, hflush, hvalue⟩ := exact_flush h
  rw [lastFlush?, Live.lastFlush, hflush, ← hvalue]
  cases result with
  | ok value => exact ⟨_, rfl, rfl⟩
  | error failure => exact ⟨_, rfl, rfl⟩

theorem read_after (j : Live σ) (dest : Bytes) (position length : Int64) :
    (j.read dest position length).1.after =
      { j with medium := (j.read dest position length).1.after.medium } := by
  unfold Live.read
  split
  · rfl
  · unfold Live.copyOut
    dsimp only
    split <;> rfl

theorem exact_read (h : w.value.Contained ahead spare) (dest : Bytes)
    (position length : Int64) :
    ∃ outcome : Outcome (Worded σ) Nat,
      w.serveRead? dest position length =
          some (outcome, (w.value.read dest position length).2) ∧
        outcome.lift value = (w.value.read dest position length).1 := by
  obtain ⟨c, hc, -⟩ := logicalEnd?_eq (Nat.lt_of_le_of_lt (Nat.le_add_right _ spare) h.end_lt)
  have hafter := read_after w.value dest position length
  cases hread : w.value.read dest position length with
  | mk outcome dest' =>
      obtain ⟨result, after, events⟩ := outcome
      rw [hread] at hafter
      refine ⟨⟨result, { w with medium := after.medium }, events⟩, ?_, ?_⟩
      · simp [serveRead?, hc, hread]
      · show Outcome.mk result { w.value with medium := after.medium } events = _
        rw [← hafter]

theorem drop?_eq (h : w.value.Contained ahead spare) : w.drop? = some w.value.drop := by
  obtain ⟨exposed, hexposed, hvalue⟩ := exposed?_eq h
  have hiff : exposed = 0 ↔ w.value.exposed = 0 := by
    rw [← UInt64.toNat_inj, hvalue]
    rfl
  by_cases hnone : w.value.exposed = 0
  · rw [Live.drop, if_pos hnone]
    simp [drop?, hexposed, hiff, hnone]
    rfl
  · obtain ⟨⟨result, after, events⟩, hflush, hlast⟩ := exact_flushAnd h true
    rw [Live.drop, if_neg hnone, ← hlast]
    cases result with
    | ok value =>
        simp [drop?, hexposed, hiff, hnone, hflush]
        rfl
    | error failure =>
        simp [drop?, hexposed, hiff, hnone, hflush]
        rfl

end Worded

end WriteBack
