/-
# Shutdown — closing, dropping, and what is left to do afterwards

There are two ways to give a journal up, and they differ in what they ask of
the medium.  Closing flushes the tail and never syncs; its failure is
returned, and the journal is closed even so.  Dropping a journal that has not
been closed flushes and then syncs, but only if there is something exposed,
and only if the flush came through.  A closed journal is inert: whatever is
still called, asked or meddled with, and also when it is dropped in the end,
it asks nothing more of its medium.

What either way leaves on the base depends on nothing but whether the append
was let through: the whole stream if it was, and otherwise the part of it below
the boundary.
-/
import WriteBack.Proofs.Following
import WriteBack.Proofs.Recording

namespace WriteBack

open Faithful (contents Undisturbed)

namespace Journal

section Exchanges

variable {σ : Type} [Medium σ]

theorem exchanges_close (j : Live σ) : (live j).exchanges .close = j.flushing := by
  have hflush := congrArg Outcome.after (Live.flush_recording j [])
  show (j.recording []).lastFlush.after.medium.log = _
  rw [Live.lastFlush_after, hflush]
  rfl

/-- Dropping asks for what a flush that syncs asks for, unless there is nothing
to be flushed or synced. -/
theorem exchangesOnDrop_live (j : Live σ) :
    (live j).exchangesOnDrop = if j.exposed = 0 then [] else j.syncing := by
  show (j.recording []).drop.1.log = _
  rw [Live.drop_fst, Live.flushAnd_true_recording]
  show (if j.exposed = 0 then _ else _ : Recorded σ).log = _
  split
  · rfl
  · rfl

end Exchanges

/-! ## A closed journal is inert -/

/-- The journal refuses everything but to be closed once more, and asks nothing
of its medium, not even when it is dropped. -/
structure Inert {σ : Type} [Medium σ] (j : Journal σ) : Prop where
  refuses {request : Request} : request ≠ .close →
    (j.perform request).1.result = .error .closed
  close_result : (j.perform .close).1.result = .ok .nothing
  dest_eq (dest : Bytes) (position length : Int64) :
    (j.perform (.read dest position length)).2 = dest
  answers_eq : ∀ query ∈ [Query.position, .size, .flushedPosition, .unsynced, .heldCount, .tally],
    j.answer query = .error .closed
  exchanges_eq (request : Request) : j.exchanges request = []
  exchangesOnDrop_eq : j.exchangesOnDrop = []

theorem inert_of_closed {σ : Type} [Medium σ] (settings : Settings) (medium : σ) :
    (closed settings medium).Inert where
  refuses {request} hrequest := by
    cases request with
    | close => exact absurd rfl hrequest
    | write data => rfl
    | flush syncing => rfl
    | forceWrite => rfl
    | read dest position length => rfl
  close_result := rfl
  dest_eq _ _ _ := rfl
  answers_eq := by
    intro query hquery
    simp only [List.mem_cons, List.not_mem_nil, or_false] at hquery
    rcases hquery with rfl | rfl | rfl | rfl | rfl | rfl <;> rfl
  exchanges_eq request := by
    cases request <;> rfl
  exchangesOnDrop_eq := rfl

section Closed

variable {σ β : Type} [Medium σ] [Medium β] [Screened σ β]

theorem Follows.closed {settings : Settings} {medium : σ} {later : List Report} {j : Journal σ}
    (h : Follows (closed settings medium) later j) : ∃ medium', j = closed settings medium' := by
  induction h with
  | here => exact ⟨medium, rfl⟩
  | called request _ ih =>
      obtain ⟨medium', rfl⟩ := ih
      exact ⟨medium', perform_closed settings medium' request⟩
  | asked query _ ih => exact ih
  | @meddled _ _ meddled _ _ ih =>
      obtain ⟨medium', rfl⟩ := ih
      exact ⟨meddled, rfl⟩

end Closed

end Journal

/-! ## What is left on the base -/

/-- How much of a base is covered by a sync: an append covers nothing, and a
sync all that there is. -/
structure Gauge {β : Type} [Medium β] [Faithful β] (covered : β → Nat) : Prop where
  append_eq (m : β) (data : Bytes) : covered (Medium.append m data).2 = covered m
  sync_eq (m : β) : covered (Medium.sync m).2 = (contents m).length

theorem InMemory.gauge_synced : Gauge InMemory.synced := ⟨fun _ _ => rfl, fun _ => rfl⟩

namespace Live

section Left

variable {σ β : Type} [Medium σ] [Medium β] [Screened σ β] {j : Live σ}

theorem flush_bare_of_ok (hok : j.flush.result = .ok ()) :
    j.flush.after.bare = j.bare.flush.after := by
  rcases flush_cases j with hflush | ⟨-, hflush⟩
  · exact congrArg Outcome.after hflush
  · have hfailed : j.flush.result = .error _ := congrArg Outcome.result hflush
    cases hok.symm.trans hfailed

theorem sync_bare_of_ok (hok : (Medium.sync j.medium).1 = .ok ()) :
    j.sync.after.bare = j.bare.sync.after := by
  have hresult : j.sync.result = .ok () := by
    rw [sync]
    cases hsync : Medium.sync j.medium with
    | mk answer medium =>
        rw [hsync] at hok
        cases hok
        rfl
  rcases sync_cases j with hsync | hsync
  · exact congrArg Outcome.after hsync
  · have hfailed : j.sync.result = .error _ := congrArg Outcome.result hsync
    cases hresult.symm.trans hfailed

theorem flushAnd_bare_of_syncing (hspared : ∀ exchange ∈ j.syncing, ¬ exchange.Fails) :
    (j.flushAnd true).after.bare = j.bare.flush.after.sync.after := by
  cases hflush : j.flush.result with
  | error failure =>
      rw [syncing, hflush, ← flush_ok_iff, hflush] at hspared
      cases hspared
  | ok value =>
      rw [syncing, hflush] at hspared
      have hsync : (Medium.sync j.flush.after.medium).1 = .ok () := by
        cases hanswer : (Medium.sync j.flush.after.medium).1 with
        | ok value => rfl
        | error error =>
            apply (hspared _ (List.mem_append_right _ (List.mem_singleton_self _))).elim
            exact ⟨error, congrArg Medium.Answer.accepted hanswer⟩
      rw [flushAnd, Outcome.andThen_of_ok _ hflush, ← flush_bare_of_ok hflush]
      exact sync_bare_of_ok hsync

theorem flush_bare_of_error [Steady β] {failure : Failure}
    (hfailed : j.flush.result = .error failure) : j.flush.after.bare = j.bare := by
  rcases flush_cases j with hflush | ⟨-, hflush⟩
  · have hok : j.flush.result = .ok () :=
      (congrArg Outcome.result hflush).trans (flush_result j.bare)
    cases hok.symm.trans hfailed
  · exact congrArg Outcome.after hflush

end Left

section Endings

variable {σ β : Type} [Medium σ] [Medium β] [Screened σ β] [Faithful β]

/-- Closing asks to append the tail and for nothing else, fails if that does, and
closes the journal; the base is left with the stream, or with what it had. -/
structure Closes (j : Live σ) (stream : Bytes) : Prop where
  exchanges_eq : (Journal.live j).exchanges .close = j.flushing
  error_iff : (∃ failure, (Journal.live j).close.result = .error failure) ↔
    ∃ exchange ∈ j.flushing, exchange.Fails
  isClosed_eq : (Journal.live j).close.after.isClosed = true
  contents_of_ok : (Journal.live j).close.result = .ok () →
    contents (Screened.base (Journal.live j).close.after.medium) = stream
  contents_of_error {failure : Failure} : (Journal.live j).close.result = .error failure →
    contents (Screened.base (Journal.live j).close.after.medium) = stream.take j.boundary

/-- Dropping asks for nothing if nothing is exposed, and otherwise to append the
tail and to sync, the latter only if the former does not fail.  The base is
left with the stream, all of it covered if the sync does not fail either; or,
if the append fails, as it was. -/
structure Drops (j : Live σ) (stream : Bytes) : Prop where
  exchanges_eq : (Journal.live j).exchangesOnDrop =
    if j.unsynced + j.held.length = 0 then [] else j.syncing
  contents_eq : (∀ exchange ∈ j.flushing, ¬ exchange.Fails) →
    contents (Screened.base (Journal.live j).drop.1) = stream
  covered_eq : j.unsynced + j.held.length ≠ 0 → (∀ exchange ∈ j.syncing, ¬ exchange.Fails) →
    ∀ covered : β → Nat, Gauge covered →
      covered (Screened.base (Journal.live j).drop.1) = stream.length
  base_eq : (∃ exchange ∈ j.flushing, exchange.Fails) →
    Screened.base (Journal.live j).drop.1 = Screened.base j.medium ∧
      contents (Screened.base (Journal.live j).drop.1) = stream.take j.boundary

variable {j : Live σ} {stream : Bytes}

theorem flush_error_iff (j : Live σ) :
    (∃ failure, j.flush.result = .error failure) ↔ ∃ exchange ∈ j.flushing, exchange.Fails := by
  have hiff := j.flush_ok_iff
  cases hflush : j.flush.result with
  | ok value =>
      rw [hflush] at hiff
      constructor
      · rintro ⟨failure, hfailed⟩
        cases hfailed
      · rintro ⟨exchange, hmem, hfails⟩
        exact (hiff.mp rfl exchange hmem hfails).elim
  | error failure =>
      refine ⟨fun _ => ?_, fun _ => ⟨failure, rfl⟩⟩
      apply Classical.byContradiction
      intro hnone
      have hok := hiff.mpr fun exchange hmem hfails => hnone ⟨exchange, hmem, hfails⟩
      cases hflush.symm.trans hok

theorem Carries.closes (h : j.bare.Carries stream) : j.Closes stream where
  exchanges_eq := Journal.exchanges_close j
  error_iff := by
    show (∃ failure, j.lastFlush.result = .error failure) ↔ _
    rw [lastFlush_result]
    exact j.flush_error_iff
  isClosed_eq := rfl
  contents_of_ok hok := by
    have hflush : j.flush.result = .ok () := (lastFlush_result j).symm.trans hok
    show contents (Screened.base j.lastFlush.after.medium) = stream
    rw [lastFlush_after, ← bare_medium, flush_bare_of_ok hflush]
    exact h.flush.contents_of_nil (flush_held _)
  contents_of_error {failure} hfailed := by
    have hflush : j.flush.result = .error failure := (lastFlush_result j).symm.trans hfailed
    show contents (Screened.base j.lastFlush.after.medium) = _
    rw [lastFlush_after, ← bare_medium, flush_bare_of_error hflush]
    exact h.contents_eq

theorem Carries.drops (h : j.bare.Carries stream) : j.Drops stream where
  exchanges_eq := Journal.exchangesOnDrop_live j
  contents_eq hspared := by
    have hflush := j.flush_ok_iff.mpr hspared
    have hflushed : contents j.bare.flush.after.medium = stream :=
      h.flush.contents_of_nil (flush_held _)
    show contents (Screened.base j.drop.1) = stream
    rw [drop_fst]
    split
    · next hexposed =>
        apply h.contents_of_nil
        exact List.length_eq_zero_iff.mp (Nat.add_eq_zero_iff.mp hexposed).2
    · rw [flushAnd, Outcome.andThen_of_ok _ hflush, if_pos rfl, ← bare_medium]
      -- whether the sync comes through makes no difference to the contents
      rcases sync_cases j.flush.after with hsync | hsync
      · have hafter : j.flush.after.sync.after.bare = j.flush.after.bare.sync.after :=
          congrArg Outcome.after hsync
        rw [hafter, flush_bare_of_ok hflush, sync_eq]
        exact (Faithful.contents_sync _).trans hflushed
      · have hafter : j.flush.after.sync.after.bare = j.flush.after.bare :=
          congrArg Outcome.after hsync
        rw [hafter, flush_bare_of_ok hflush]
        exact hflushed
  covered_eq hexposed hspared := by
    have hdrop : (Journal.live j).drop.1 = (j.flushAnd true).after.medium :=
      (drop_fst j).trans (if_neg hexposed)
    have hflushed : contents j.bare.flush.after.medium = stream :=
      h.flush.contents_of_nil (flush_held _)
    intro covered hgauge
    rw [hdrop, ← bare_medium, flushAnd_bare_of_syncing hspared, sync_eq]
    exact (hgauge.sync_eq _).trans (congrArg List.length hflushed)
  base_eq hfails := by
    obtain ⟨failure, hflush⟩ := j.flush_error_iff.mpr hfails
    have hafter : (j.flushAnd true).after = j.flush.after := by
      rw [flushAnd, Outcome.andThen_of_error _ hflush]
    have hbase : Screened.base (Journal.live j).drop.1 = Screened.base j.medium := by
      show Screened.base j.drop.1 = _
      rw [drop_fst, hafter]
      split
      · rfl
      · exact congrArg Live.medium (flush_bare_of_error hflush)
    rw [hbase]
    exact ⟨rfl, h.contents_eq⟩

end Endings

end Live

/-- **Shutting down.**  In every state that a run can reach, whatever the screen
will stop: closing appends the tail and never syncs, fails if the append does,
and leaves a closed journal; what is closed is inert whatever follows; and
dropping a journal that was not closed appends and then syncs, if there is
anything to be made durable. -/
theorem Journal.Reached.shuts_down {σ β : Type} [Medium σ] [Medium β] [Screened σ β] [Faithful β]
    {base : β} (hbase : Undisturbed base) {history : List Report} {j : Live σ}
    (h : Reached base history (live j)) :
    j.Closes (contents base ++ accepted history) ∧
      (∀ (later : List Report) (k : Journal σ), Follows (live j).close.after later k → k.Inert) ∧
      j.Drops (contents base ++ accepted history) := by
  have hcarries : j.bare.Carries (contents base ++ accepted history) := h.carries hbase
  refine ⟨hcarries.closes, ?_, hcarries.drops⟩
  intro later k hlater
  obtain ⟨medium, rfl⟩ := hlater.closed
  exact inert_of_closed _ medium

/-- A journal behind a panel, with three bytes in its tail. -/
def pending (panel : Rig.Panel) : Live (Rigged InMemory) :=
  { settings := { capacity := 4 }
    medium := ⟨[panel], .holding [9]⟩
    buffer := .ok ⟨4, [1, 2, 3]⟩
    boundary := 1
    tally := { writes := 1, bytesWritten := 3 } }

/-- Where nothing is armed dropping makes the three bytes durable; where their
append will be stopped, closing and dropping lose them. -/
theorem pending_shuts_down :
    ((Journal.live (pending {})).exchangesOnDrop =
        [⟨.append [1, 2, 3], .accepted (.ok ())⟩, ⟨.sync, .accepted (.ok ())⟩] ∧
      (Journal.live (pending {})).drop.1.base.bytes = [9, 1, 2, 3] ∧
      (Journal.live (pending {})).drop.1.base.synced = 4) ∧
    (Journal.live (pending { writeAppend := some .once })).exchanges .close =
        [⟨.append [1, 2, 3], .accepted (.error (.injected .writeAppend))⟩] ∧
      (Journal.live (pending { writeAppend := some .once })).close.after.Inert ∧
      (Journal.live (pending { writeAppend := some .once })).drop.1.base = .holding [9] := by
  have hstart : Journal.start (Rigged.behind 1 (InMemory.holding [9])) { capacity := 4 } .heap =
      (.ok _, _) := rfl
  have hopened : Journal.Reached (InMemory.holding [9]) _ _ :=
    .opened rfl Supply.heap_honest hstart
  have hreached : Journal.Reached _ _ (.live (pending {})) := hopened.called (.write [1, 2, 3])
  have harmed : Journal.Reached _ _ (.live (pending { writeAppend := some .once })) :=
    hreached.switched 0 (.arm .writeAppend .once)
  obtain ⟨-, -, hdrops⟩ := hreached.shuts_down trivial
  obtain ⟨hcloses, hinert, hloses⟩ := harmed.shuts_down trivial
  have hspared : ∀ exchange ∈ (pending {}).syncing, ¬ exchange.Fails := by
    rw [show (pending {}).syncing =
      [⟨.append [1, 2, 3], .accepted (.ok ())⟩, ⟨.sync, .accepted (.ok ())⟩] from rfl]
    simp [Exchange.Fails]
  refine ⟨⟨hdrops.exchanges_eq, ?_, ?_⟩, hcloses.exchanges_eq, hinert [] _ .here, ?_⟩
  · apply hdrops.contents_eq
    intro exchange hmem
    exact hspared exchange (List.mem_append_left _ hmem)
  · exact hdrops.covered_eq (by decide) hspared _ InMemory.gauge_synced
  · exact (hloses.base_eq ⟨_, List.mem_singleton_self _, _, rfl⟩).1

end WriteBack
