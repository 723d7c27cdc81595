/-
# Abiding properties — what a journal keeps over any medium at all

A hereditary property is kept on a medium that refuses nothing, and faults are
added from outside.  But much of what a journal does right does not depend on
how well the medium behaves.  A property *abides* if it is kept by whatever a
single answer makes the journal do: book what was accepted, count a sync, or go
on with nothing but the medium changed.  Whatever calls come to over any medium,
they keep it.

Properties that do not outlive a change of the tail, such as where the stream
ends, are at least *calm*: every call other than a write keeps them.
-/
import WriteBack.Proofs.Mirror
import WriteBack.Proofs.Stream

namespace WriteBack.Live

section Any

variable {σ : Type} [Medium σ]

/-! ## Keeping a property answer by answer -/

/-- A property kept by all that flushing, syncing and reading can do, whatever
the medium answers. -/
structure Calm (I : Live σ → Prop) : Prop where
  refused {j : Live σ} {call : Medium.Call} {error : MediumError} :
    (Medium.answer j.medium call).1 = .accepted (.error error) → I j →
      I { j with medium := (Medium.answer j.medium call).2 }
  readAt {j : Live σ} (offset wanted : Nat) : I j →
    I { j with medium := (Medium.readAt j.medium offset wanted).2 }
  moved {j : Live σ} : j.held ≠ [] → (Medium.append j.medium j.held).1 = .ok () → I j →
    I (({ j with medium := (Medium.append j.medium j.held).2 }.withHeld []).booked
      j.held.length)
  synced {j : Live σ} : (Medium.sync j.medium).1 = .ok () → I j →
    I { j with
      medium := (Medium.sync j.medium).2
      unsynced := 0
      tally.syncs := j.tally.syncs + 1 }

/-- A calm property that is also kept by what else a write can do. -/
structure Abiding (I : Live σ → Prop) : Prop extends Calm I where
  through {j : Live σ} {data : Bytes} : (Medium.append j.medium data).1 = .ok () → I j →
    I { { j with medium := (Medium.append j.medium data).2 }.booked data.length with
      tally.straightThrough := j.tally.straightThrough + 1 }
  withHeld {j : Live σ} (held : Bytes) : I j → I (j.withHeld held)
  counted {j : Live σ} (count : Nat) : I j → I (j.counted count)

/-! ## Calls that write nothing -/

variable {I : Live σ → Prop} {j : Live σ}

theorem Calm.flush (hI : Calm I) (h : I j) : I j.flush.after := by
  by_cases hheld : j.held = []
  · rw [flush_of_nil hheld]
    exact h
  · cases happend : (Medium.append j.medium j.held).1 with
    | ok value =>
        rw [flush_of_append hheld happend]
        exact hI.moved hheld happend h
    | error error =>
        have hanswer : (Medium.answer j.medium (.append j.held)).1 = .accepted (.error error) :=
          congrArg Medium.Answer.accepted happend
        rw [flush_of_refused hheld happend]
        exact hI.refused hanswer h

theorem Calm.sync (hI : Calm I) (h : I j) : I j.sync.after := by
  cases hsync : (Medium.sync j.medium).1 with
  | ok value =>
      rw [sync_of_sync hsync]
      exact hI.synced hsync h
  | error error =>
      have hanswer : (Medium.answer j.medium .sync).1 = .accepted (.error error) :=
        congrArg Medium.Answer.accepted hsync
      rw [sync_of_refused hsync]
      exact hI.refused hanswer h

theorem Calm.flushAnd (hI : Calm I) (h : I j) (syncing : Bool) :
    I (j.flushAnd syncing).after := by
  apply Outcome.andThen_after (hI.flush h)
  intro _
  cases syncing with
  | true => exact hI.sync (hI.flush h)
  | false => exact hI.flush h

theorem Calm.forceWrite (hI : Calm I) (h : I j) : I j.forceWrite.after :=
  Outcome.andThen_after (hI.flushAnd h true) fun _ => hI.flushAnd h true

theorem Calm.read (hI : Calm I) (h : I j) (dest : Bytes) (position length : Int64) :
    I (j.read dest position length).1.after := by
  unfold Live.read
  split
  · exact h
  · have hread : ∀ (m : σ) (offset wanted : Nat), I { j with medium := m } →
        I { j with medium := (Medium.readAt m offset wanted).2 } :=
      fun m offset wanted hm => hI.readAt offset wanted hm
    have hgather := Medium.gather_keeps hread h position.toInt.toNat
      (j.onMedium position.toInt.toNat length.toInt.toNat)
    unfold copyOut
    dsimp only
    split <;> next hgathered => rwa [hgathered] at hgather

/-! ## Writes -/

theorem Abiding.writeThrough (hI : Abiding I) (h : I j) (data : Bytes) :
    I (j.writeThrough data).after := by
  cases happend : (Medium.append j.medium data).1 with
  | ok value =>
      rw [writeThrough_of_append happend]
      exact hI.through happend h
  | error error =>
      have hanswer : (Medium.answer j.medium (.append data)).1 = .accepted (.error error) :=
        congrArg Medium.Answer.accepted happend
      rw [writeThrough_of_refused happend]
      exact hI.refused hanswer h

theorem Calm.makeRoom (hI : Calm I) (h : I j) (count : Nat) : I (j.makeRoom count).after := by
  rw [Live.makeRoom]
  split
  · exact hI.flush h
  · exact h

theorem Abiding.place (hI : Abiding I) (h : I j) (data : Bytes) : I (j.place data).after := by
  rw [Live.place]
  split
  · exact hI.writeThrough h data
  · exact hI.withHeld _ h

theorem Abiding.settle (hI : Abiding I) (h : I j) (kept count : Nat) :
    I (j.settle kept count).after := by
  rw [Live.settle]
  split
  · have hflushed : I (j.flush.onFailure fun j' => j'.withHeld (j'.held.take kept)).after := by
      rw [Outcome.onFailure]
      split
      · exact hI.flush h
      · exact hI.withHeld _ (hI.flush h)
    have hstored : I ((j.flush.onFailure fun j' => j'.withHeld (j'.held.take kept)).andThen
        fun _ j' => (j'.counted count).sync).after :=
      Outcome.andThen_after hflushed fun _ => hI.sync (hI.counted count hflushed)
    exact Outcome.andThen_after hstored fun _ => hstored
  · exact hI.counted count h

theorem Abiding.write (hI : Abiding I) (h : I j) (data : Bytes) : I (j.write data).after := by
  rw [Live.write]
  split
  · exact h
  · split
    · exact h
    · have hroomy := hI.makeRoom h data.length
      apply Outcome.andThen_after hroomy
      intro _
      have hplaced := hI.place hroomy data
      apply Outcome.andThen_after hplaced
      intro _
      exact hI.settle hplaced _ _

/-! ## Properties that abide -/

theorem abiding_medium {P : σ → Prop}
    (hP : ∀ (m : σ) (call : Medium.Call), P m → P (Medium.answer m call).2) :
    Abiding fun j : Live σ => P j.medium where
  refused _ h := hP _ _ h
  readAt offset wanted h := hP _ (.readAt offset wanted) h
  moved {j} _ _ h := hP _ (.append j.held) h
  synced _ h := hP _ .sync h
  through {_ data} _ h := hP _ (.append data) h
  withHeld _ h := h
  counted _ h := h

theorem abiding_settings (settings : Settings) :
    Abiding fun j : Live σ => j.settings = settings where
  refused _ h := h
  readAt _ _ h := h
  moved _ _ h := h
  synced _ h := h
  through _ h := h
  withHeld _ h := h
  counted _ h := h

theorem abiding_buffer : Abiding fun j : Live σ => ∃ buffer, j.buffer = .ok buffer where
  refused _ h := h
  readAt _ _ h := h
  moved {j} _ _ h := by
    obtain ⟨buffer, hbuffer⟩ := h
    exact ⟨_, congrArg (Except.map _) hbuffer⟩
  synced _ h := h
  through _ h := h
  withHeld {j} held h := by
    obtain ⟨buffer, hbuffer⟩ := h
    exact ⟨_, congrArg (Except.map _) hbuffer⟩
  counted _ h := h

end Any

end WriteBack.Live

namespace WriteBack.Journal

variable {σ : Type} [Medium σ] {I : Live σ → Prop} {j j' : Live σ} {request : Request}

theorem calm_perform (hI : Live.Calm I) (h : I j) (hrequest : ∀ data, request ≠ .write data)
    (hafter : ((live j).perform request).1.after = live j') : I j' := by
  cases request with
  | write data => exact absurd rfl (hrequest data)
  | flush syncing =>
      obtain rfl := live.inj hafter
      exact hI.flushAnd h syncing
  | forceWrite =>
      obtain rfl := live.inj hafter
      exact hI.forceWrite h
  | read dest position length =>
      obtain rfl := live.inj hafter
      exact hI.read h dest position length
  | close => exact nomatch hafter

/-- Every call keeps an abiding property, if it leaves the journal live. -/
theorem abiding_perform (hI : Live.Abiding I) (h : I j)
    (hafter : ((live j).perform request).1.after = live j') : I j' := by
  by_cases hwrite : ∃ data, request = .write data
  · obtain ⟨data, rfl⟩ := hwrite
    obtain rfl := live.inj hafter
    exact hI.write h data
  · exact calm_perform hI.toCalm h (fun data hdata => hwrite ⟨data, hdata⟩) hafter

end WriteBack.Journal
