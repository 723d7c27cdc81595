/-
# Draining — the laws of flushing and of forced writes

Two calls drain the tail on demand: a flush, which may sync afterwards, and a
forced write, which always does and says how far the stream reaches.  They have
two stages, and may fail at either.  If the append fails nothing has happened.  If
the sync fails everything has happened but the sync; what is left is a journal
whose tail was flushed and no more.  In neither case can clients tell the
difference, and in both what remains to be done is just what the same call does
when it is made again.

For that reason the two compose as one would wish.  Flushing once more after a
flush changes nothing, and a flush before any other one is lost in it; a forced
write is a flush that syncs, but for what it returns.
-/
import WriteBack.Proofs.Asking
import WriteBack.Proofs.Atomicity

namespace WriteBack

open Faithful (contents Undisturbed)

namespace Live

/-! ## Over any medium -/

section Any

variable {σ : Type} [Medium σ] {j : Live σ}

theorem flush_boundary_of_ok (hok : j.flush.result = .ok ()) :
    j.flush.after.boundary = j.logicalEnd := by
  by_cases hheld : j.held = []
  · simp [flush_of_nil hheld, Outcome.done, logicalEnd, hheld]
  · cases happend : (Medium.append j.medium j.held).1 with
    | ok value =>
        rw [flush_of_append hheld happend]
        rfl
    | error error =>
        rw [flush_of_refused hheld happend] at hok
        cases hok

theorem sync_ok_iff (j : Live σ) :
    j.sync.result = .ok () ↔ ¬ (Medium.urged j.medium).Fails := by
  cases hsync : (Medium.sync j.medium).1 with
  | ok value => simp [sync_of_sync hsync, Medium.urged, hsync, Exchange.Fails, Outcome.done]
  | error error => simp [sync_of_refused hsync, Medium.urged, hsync, Exchange.Fails, Outcome.fail]

theorem flushAnd_true_cases (j : Live σ) :
    (j.flush.result = .ok () ∧
        (j.flushAnd true).result = j.flush.after.sync.result ∧
        (j.flushAnd true).after = j.flush.after.sync.after ∧
        j.syncing = j.flushing ++ [Medium.urged j.flush.after.medium]) ∨
      ∃ failure, j.flush.result = .error failure ∧
        (j.flushAnd true).result = .error failure ∧
        (j.flushAnd true).after = j.flush.after ∧ j.syncing = j.flushing := by
  cases hflush : j.flush.result with
  | ok value =>
      left
      rw [flushAnd, Outcome.andThen_of_ok _ hflush, syncing, hflush]
      exact ⟨rfl, rfl, rfl, rfl⟩
  | error failure =>
      right
      rw [flushAnd, Outcome.andThen_of_error _ hflush, syncing, hflush]
      exact ⟨failure, rfl, rfl, rfl, rfl⟩

/-- What a flush on demand asks of the medium. -/
def draining (j : Live σ) (syncing : Bool) : List Exchange :=
  if syncing then j.syncing else j.flushing

theorem flushAnd_ok_iff (j : Live σ) (syncing : Bool) :
    (j.flushAnd syncing).result = .ok () ↔ ∀ exchange ∈ j.draining syncing, ¬ exchange.Fails := by
  cases syncing with
  | false =>
      rw [flushAnd_false]
      exact j.flush_ok_iff
  | true =>
      have hiff := j.flush_ok_iff
      show _ ↔ ∀ exchange ∈ j.syncing, _
      rcases j.flushAnd_true_cases with
        ⟨hflush, hresult, -, hasked⟩ | ⟨_, hflush, hresult, -, hasked⟩
      · rw [hresult, hasked, List.forall_mem_append, List.forall_mem_singleton, sync_ok_iff]
        exact (and_iff_right (hiff.mp hflush)).symm
      · rw [hresult, hasked, ← hiff, hflush]

theorem flushAnd_of_ok {syncing : Bool} (hok : (j.flushAnd syncing).result = .ok ()) :
    (j.flushAnd syncing).after.held = [] ∧
      (j.flushAnd syncing).after.boundary = j.logicalEnd := by
  cases syncing with
  | false =>
      rw [flushAnd_false] at hok ⊢
      exact ⟨held_of_flush hok, flush_boundary_of_ok hok⟩
  | true =>
      rcases j.flushAnd_true_cases with ⟨hflush, -, hafter, -⟩ | ⟨_, -, hresult, -, -⟩
      · obtain ⟨hboundary, hheld⟩ := sync_stays j.flush.after
        rw [hafter, hboundary, hheld]
        exact ⟨held_of_flush hflush, flush_boundary_of_ok hflush⟩
      · rw [hresult] at hok
        cases hok

/-- A flush is lost in the one that follows. -/
theorem flush_flushAnd (j : Live σ) (syncing : Bool) :
    (j.flush.andThen fun _ flushed => flushed.flushAnd syncing) = j.flushAnd syncing := by
  cases hflush : j.flush.result with
  | error failure =>
      rw [Outcome.andThen_of_error _ hflush, flushAnd, Outcome.andThen_of_error _ hflush]
  | ok value =>
      have hagain : j.flush.after.flush = .done () j.flush.after :=
        flush_of_nil (held_of_flush hflush)
      have hrest : j.flush.after.flushAnd syncing =
          if syncing then j.flush.after.sync else .done () j.flush.after := by
        rw [flushAnd, hagain]
        rfl
      rw [Outcome.andThen_of_ok _ hflush, hrest]
      conv => rhs; rw [flushAnd, Outcome.andThen_of_ok _ hflush]

theorem forceWrite_eq_map (j : Live σ) :
    j.forceWrite = (j.flushAnd true).map fun _ => j.logicalEnd := by
  rw [forceWrite_eq]
  cases hresult : (j.flushAnd true).result with
  | ok value => rw [(flushAnd_of_ok hresult).2]
  | error failure => rw [Outcome.map, Outcome.map, hresult]; rfl

end Any

end Live

namespace Journal

/-! ## The calls that drain -/

/-- The calls that drain the tail on demand, and whether they sync afterwards. -/
inductive Request.Drains : Request → Bool → Prop
  | flush (syncing : Bool) : Drains (.flush syncing) syncing
  | forceWrite : Drains .forceWrite true

theorem andThen_lift {σ α γ : Type} (first : Outcome (Live σ) α)
    (next : α → Live σ → Outcome (Live σ) γ) :
    ((first.lift live).andThen fun value j =>
        match j with
        | live state => (next value state).lift live
        | closed _ _ => .fail .closed j) =
      (first.andThen next).lift live := by
  obtain ⟨result, after, events⟩ := first
  cases result with
  | ok value => rfl
  | error failure => rfl

section Any

variable {σ : Type} [Medium σ]

def Request.yield (j : Live σ) : Request → Reply
  | .forceWrite => .durable j.logicalEnd
  | _ => .nothing

variable {request : Request} {syncing : Bool}

theorem Request.Drains.perform (h : request.Drains syncing) (j : Live σ) :
    ((live j).perform request).1.result =
        (j.flushAnd syncing).result.map (fun _ => request.yield j) ∧
      ((live j).perform request).1.after = live (j.flushAnd syncing).after ∧
      (live j).exchanges request = j.draining syncing := by
  cases h with
  | flush => exact ⟨rfl, rfl, exchanges_flush j _⟩
  | forceWrite =>
      refine ⟨?_, ?_, exchanges_forceWrite j⟩
      · show j.forceWrite.result.map Reply.durable = _
        rw [Live.forceWrite_eq_map]
        show ((j.flushAnd true).result.map _).map Reply.durable = _
        cases (j.flushAnd true).result with
        | ok value => rfl
        | error failure => rfl
      · show live j.forceWrite.after = _
        rw [Live.forceWrite_eq_map]
        rfl

theorem Request.Drains.error_iff (h : request.Drains syncing) {j : Live σ} {failure : Failure} :
    ((live j).perform request).1.result = .error failure ↔
      (j.flushAnd syncing).result = .error failure := by
  rw [(h.perform j).1]
  cases (j.flushAnd syncing).result with
  | ok value => simp [Except.map]
  | error failure' => simp [Except.map]

theorem Request.Drains.ok_iff (h : request.Drains syncing) {j : Live σ} {reply : Reply} :
    ((live j).perform request).1.result = .ok reply ↔
      (j.flushAnd syncing).result = .ok () ∧ reply = request.yield j := by
  rw [(h.perform j).1]
  cases (j.flushAnd syncing).result with
  | ok value => simp [Except.map, eq_comm]
  | error failure => simp [Except.map]

theorem flush_flush (j : Live σ) (syncing : Bool) :
    (((live j).flush false).andThen fun _ flushed => flushed.flush syncing) =
      (live j).flush syncing := by
  have hsame := congrArg (Outcome.lift live) (j.flush_flushAnd syncing)
  rw [← Live.flushAnd_false] at hsame
  rw [← andThen_lift] at hsame
  exact hsame

theorem forceWrite_eq_flush (j : Live σ) :
    (live j).forceWrite = ((live j).flush true).map fun _ => j.logicalEnd :=
  congrArg (Outcome.lift live) j.forceWrite_eq_map

end Any

/-! ## What draining leaves -/

section Screen

variable {σ β : Type} [Medium σ] [Medium β] [Screened σ β]

/-- What is left of a journal whose tail could not be drained.  Clients cannot
tell the difference; beneath the screen it is as it was if the append was stopped,
and if the sync was, as a flush without a sync would have left it. -/
structure Stalled [Faithful β] (j : Live σ) (syncing : Bool) (failure : Failure) (k : Live σ) :
    Prop where
  alike : j.bare.Alike k.bare
  position_eq : (live k).position = (live j).position
  bare_cases : failure = .stopped .writeAppend ∧ k.bare = j.bare ∨
    syncing = true ∧ failure = .stopped .sync ∧ k.bare = (j.bare.flushAnd false).after

/-- What is left of a journal whose tail was drained: what a drain of the bare
journal leaves.  The stream ends where it did, and all of it has been flushed; to
flush it once more asks nothing and changes nothing, whatever is armed by then. -/
structure Drained (j : Live σ) (syncing : Bool) (k : Live σ) : Prop where
  bare_eq : k.bare = (j.bare.flushAnd syncing).after
  heldCount_eq : (live k).heldCount = .ok 0
  position_eq : (live k).position = (live j).position
  flushedPosition_eq : (live k).flushedPosition = (live k).position
  idle {k' : Live σ} : k'.bare = k.bare →
    (live k').flush false = .done () (live k') ∧ (live k').exchanges (.flush false) = []

theorem idle_of_held {j : Live σ} (hheld : j.held = []) :
    (live j).flush false = .done () (live j) ∧ (live j).exchanges (.flush false) = [] := by
  constructor
  · show (j.flushAnd false).lift live = _
    rw [Live.flushAnd_false, Live.flush_of_nil hheld]
    rfl
  · rw [exchanges_flush]
    exact Live.flushing_of_nil hheld

/-- `Redrained request j j'`: attempts to make the call on `j`, each of which has
failed, have led to `j'`.  Between the attempts the screen may have become any
other before the same base. -/
inductive Redrained (request : Request) : Live σ → Live σ → Prop
  | start (j : Live σ) : Redrained request j j
  | rearmed {j j₁ j₂ : Live σ} : Redrained request j j₁ → j₂.bare = j₁.bare →
      Redrained request j j₂
  | attempt {j j₁ j₂ : Live σ} {failure : Failure} : Redrained request j j₁ →
      ((live j₁).perform request).1.result = .error failure →
      ((live j₁).perform request).1.after = live j₂ → Redrained request j j₂

variable [Steady β] {request : Request} {syncing : Bool} {j k : Live σ}

theorem flushAnd_of_error {failure : Failure}
    (hfailed : (j.flushAnd syncing).result = .error failure) :
    failure = .stopped .writeAppend ∧ (j.flushAnd syncing).after.bare = j.bare ∨
      syncing = true ∧ failure = .stopped .sync ∧
        (j.flushAnd syncing).after.bare = j.bare.flush.after := by
  have hends := Live.flushAnd_ends j syncing
  generalize houtcome : (j.flushAnd syncing).lift Live.bare = outcome at hends
  have hresult : outcome.result = .error failure :=
    (congrArg Outcome.result houtcome).symm.trans hfailed
  have hafter : (j.flushAnd syncing).after.bare = outcome.after := congrArg Outcome.after houtcome
  rw [hafter]
  cases hends with
  | through => cases (Live.flushAnd_result j.bare syncing).symm.trans hresult
  | untouched hheld =>
      left
      exact ⟨(Except.error.inj hresult).symm, rfl⟩
  | undurable hsyncing =>
      right
      exact ⟨hsyncing, (Except.error.inj hresult).symm, rfl⟩

theorem flushAnd_bare_of_ok (hok : (j.flushAnd syncing).result = .ok ()) :
    (j.flushAnd syncing).after.bare = (j.bare.flushAnd syncing).after :=
  congrArg Outcome.after ((Live.flushAnd_ends j syncing).of_ok hok)

/-- However often it is tried, the journal is as it was or has its tail
flushed. -/
theorem Redrained.bare_cases (hdrains : request.Drains syncing) (h : Redrained request j k) :
    k.bare = j.bare ∨ k.bare = j.bare.flush.after := by
  induction h with
  | start => exact .inl rfl
  | rearmed _ hbare ih =>
      rw [hbare]
      exact ih
  | @attempt k₁ k₂ failure _ hfailed hafter ih =>
      rw [(hdrains.perform k₁).2.1] at hafter
      obtain rfl := live.inj hafter
      rcases flushAnd_of_error (hdrains.error_iff.mp hfailed) with ⟨-, hsame⟩ | ⟨-, -, hflushed⟩
      · rw [hsame]
        exact ih
      · right
        rw [hflushed]
        rcases ih with hbare | hbare
        · rw [hbare]
        · rw [hbare, Live.flush_of_nil (Live.flush_held j.bare)]
          rfl

theorem Redrained.flushAnd_eq (hdrains : request.Drains syncing) (h : Redrained request j k) :
    (k.bare.flushAnd syncing).after = (j.bare.flushAnd syncing).after ∧
      k.logicalEnd = j.logicalEnd := by
  rcases h.bare_cases hdrains with hbare | hbare
  · refine ⟨by rw [hbare], ?_⟩
    rw [← Live.bare_logicalEnd k, hbare, Live.bare_logicalEnd]
  · have hlost := congrArg Outcome.after (j.bare.flush_flushAnd syncing)
    rw [Outcome.andThen_of_ok _ (Live.flush_result j.bare)] at hlost
    refine ⟨?_, ?_⟩
    · rw [hbare]
      exact hlost
    · rw [← Live.bare_logicalEnd k, hbare, Live.flush_logicalEnd, Live.bare_logicalEnd]

/-- What a drain that succeeds leaves, whatever attempts there were before it. -/
theorem drained_of_ok (hdrains : request.Drains syncing) (h : Redrained request j k)
    (hok : (k.flushAnd syncing).result = .ok ()) :
    Drained j syncing (k.flushAnd syncing).after := by
  obtain ⟨hheld, hboundary⟩ := Live.flushAnd_of_ok hok
  obtain ⟨hsame, hend⟩ := h.flushAnd_eq hdrains
  have hboundary' : (k.flushAnd syncing).after.boundary =
      (k.flushAnd syncing).after.logicalEnd := by
    rw [Live.logicalEnd, hheld]
    rfl
  refine ⟨(flushAnd_bare_of_ok hok).trans hsame, ?_, ?_, ?_, ?_⟩
  · show Except.ok (k.flushAnd syncing).after.held.length = _
    rw [hheld]
    rfl
  · show Except.ok (k.flushAnd syncing).after.logicalEnd = Except.ok j.logicalEnd
    rw [← hboundary', hboundary, hend]
  · exact congrArg Except.ok hboundary'
  · intro k' hbare
    have hheld' : k'.held = [] := by
      rw [← Live.bare_held k', hbare, Live.bare_held, hheld]
    exact idle_of_held hheld'

end Screen

section Reached

variable {σ β : Type} [Medium σ] [Medium β] [Screened σ β] [Faithful β]

/-- What a drain that fails leaves. -/
theorem stalled_of_error {j : Live σ} {stream : Bytes} (hcarries : j.bare.Carries stream)
    {syncing : Bool} {failure : Failure}
    (hfailed : (j.flushAnd syncing).result = .error failure) :
    Stalled j syncing failure (j.flushAnd syncing).after := by
  have hposition : ∀ k : Live σ, j.bare.Alike k.bare → (live k).position = (live j).position := by
    intro k halike
    exact congrArg Except.ok halike.logicalEnd_eq
  rcases flushAnd_of_error hfailed with ⟨hstopped, hsame⟩ | ⟨hsyncing, hstopped, hflushed⟩
  · have halike : j.bare.Alike (j.flushAnd syncing).after.bare := by
      rw [hsame]
      exact .refl _
    exact ⟨halike, hposition _ halike, .inl ⟨hstopped, hsame⟩⟩
  · have halike : j.bare.Alike (j.flushAnd syncing).after.bare := by
      rw [hflushed]
      exact hcarries.alike_flush
    rw [← Live.flushAnd_false] at hflushed
    exact ⟨halike, hposition _ halike, .inr ⟨hsyncing, hstopped, hflushed⟩⟩

/-- **The laws of flushing and of forced writes.**  In every state that a run can
reach, whatever the screen will stop: a call that drains the tail and fails leaves
the journal as clients know it, and beneath the screen either as it was or with
its tail flushed.  One that succeeds drains it.  However often it has failed, and
whatever was armed meanwhile, if nothing is stopped any more the call succeeds,
returns what it would have returned, and leaves what it would have left.  A flush
is lost in the one that follows it, and a forced write is a flush that syncs. -/
theorem Reached.draining_lawful {base : β} (hbase : Undisturbed base) {history : List Report}
    {j : Live σ} (h : Reached base history (live j)) :
    (∀ (request : Request) (syncing : Bool), request.Drains syncing →
      (∀ failure, ((live j).perform request).1.result = .error failure →
        ∃ k, ((live j).perform request).1.after = live k ∧ Stalled j syncing failure k) ∧
      (∀ reply, ((live j).perform request).1.result = .ok reply →
        reply = request.yield j ∧
          ∃ k, ((live j).perform request).1.after = live k ∧ Drained j syncing k) ∧
      ∀ k : Live σ, Redrained request j k →
        (∀ exchange ∈ (live k).exchanges request, ¬ exchange.Fails) →
          ((live k).perform request).1.result = .ok (request.yield j) ∧
            ∃ k', ((live k).perform request).1.after = live k' ∧ Drained j syncing k') ∧
    (∀ syncing : Bool,
      (((live j).flush false).andThen fun _ flushed => flushed.flush syncing) =
        (live j).flush syncing) ∧
    ((live j).forceWrite = ((live j).flush true).map fun _ => j.logicalEnd) ∧
    (live j).exchanges .forceWrite = (live j).exchanges (.flush true) := by
  have hcarries : j.bare.Carries (contents base ++ accepted history) := h.carries hbase
  refine ⟨?_, flush_flush j, forceWrite_eq_flush j, ?_⟩
  · intro request syncing hdrains
    refine ⟨?_, ?_, ?_⟩
    · intro failure hfailed
      exact ⟨_, (hdrains.perform j).2.1, stalled_of_error hcarries (hdrains.error_iff.mp hfailed)⟩
    · intro reply hok
      obtain ⟨hflushed, hreply⟩ := hdrains.ok_iff.mp hok
      exact ⟨hreply, _, (hdrains.perform j).2.1, drained_of_ok hdrains (.start j) hflushed⟩
    · intro k hredrained hspared
      obtain ⟨-, hafter, hasked⟩ := hdrains.perform k
      rw [hasked] at hspared
      have hok := (k.flushAnd_ok_iff syncing).mpr hspared
      have hyield : request.yield j = request.yield k := by
        cases hdrains with
        | flush => rfl
        | forceWrite => exact congrArg Reply.durable (hredrained.flushAnd_eq .forceWrite).2.symm
      exact ⟨hdrains.ok_iff.mpr ⟨hok, hyield⟩, _, hafter, drained_of_ok hdrains hredrained hok⟩
  · rw [exchanges_forceWrite, exchanges_flush, if_pos rfl]

/-- A forced write is stopped at its append, and at its sync when it is repeated;
the third one leaves what the first would have left. -/
theorem draining_lawful_after_stops :
    ∃ (history : List Report) (k k' : Live (Rigged InMemory)),
      Reached (InMemory.holding [9]) history
          (live (pending { writeAppend := some .once, sync := some .once })) ∧
        Redrained .forceWrite (pending { writeAppend := some .once, sync := some .once }) k ∧
        k.medium.base = ⟨[9, 1, 2, 3], 1⟩ ∧
        ((live k).perform .forceWrite).1.result = .ok (.durable 4) ∧
        ((live k).perform .forceWrite).1.after = live k' ∧
        k'.bare = ((pending {}).bare.flushAnd true).after ∧
        (live k').flush false = .done () (live k') := by
  have hstart : start (Rigged.behind 1 (InMemory.holding [9])) { capacity := 4 } .heap =
      (.ok _, _) := rfl
  have hopened : Reached (InMemory.holding [9]) _ _ := .opened rfl Supply.heap_honest hstart
  have hwritten : Reached _ _ (live (pending {})) := hopened.called (.write [1, 2, 3])
  have hreached : Reached _ _
      (live (pending { writeAppend := some .once, sync := some .once })) :=
    (hwritten.switched 0 (.arm .writeAppend .once)).switched 0 (.arm .sync .once)
  have honce : Redrained .forceWrite _ _ := (Redrained.start
    (pending { writeAppend := some .once, sync := some .once })).attempt rfl rfl
  have htwice := honce.attempt rfl rfl
  obtain ⟨hdraining, -, -, -⟩ := hreached.draining_lawful trivial
  obtain ⟨-, -, hretry⟩ := hdraining .forceWrite true .forceWrite
  obtain ⟨hresult, k', hafter, hdrained⟩ := hretry _ htwice (by
    rw [exchanges_forceWrite]
    intro exchange hmem
    rintro ⟨error, hfailed⟩
    rw [List.mem_singleton.mp hmem] at hfailed
    cases hfailed)
  exact ⟨_, _, k', hreached, htwice, rfl, hresult, hafter, hdrained.bare_eq, (hdrained.idle rfl).1⟩

end Reached

end Journal

end WriteBack
