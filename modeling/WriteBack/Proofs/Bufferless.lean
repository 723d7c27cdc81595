/-
# Bufferless — a journal without a buffer only reads

A journal for which no buffer was to be had opens all the same, and then only
reads.  That no write gets through is one test in the code; that nothing else
does either is not tested anywhere, but follows, since whatever could append goes
by the tail, and there is none.  So the base is what it was, all of it flushed and
nothing of it unsynced, for as long as the journal lives and when it is given up;
syncs are passed on, for what they are worth; and reads are served from the base,
which is the whole stream.
-/
import WriteBack.Proofs.Continuity
import WriteBack.Proofs.Draining

namespace WriteBack

open Faithful (contents Undisturbed)

namespace Live

/-! ## Objections, told from the stream -/

section Served

variable {σ : Type} {j : Live σ} {below stream : Bytes}

theorem Spans.serve_eq_read (h : j.Spans below stream) (dest : Bytes)
    (position length : Int64) :
    stream.serve dest position length =
      (((j.atop (⟨below, []⟩ : Scripted)).read dest position length).1.result,
        ((j.atop (⟨below, []⟩ : Scripted)).read dest position length).2) :=
  ((h.atop (⟨below, []⟩ : Scripted)).read_served (Scripted.serves below)
    ⟨rfl, List.forall_mem_nil _⟩ dest position length).symm

theorem Spans.serve_of_objection (h : j.Spans below stream) {dest : Bytes}
    {position length : Int64} {failure : Failure}
    (hobjection : j.objection? dest.length position length = some failure) :
    stream.serve dest position length = (.error failure, dest) := by
  have hobjection' : (j.atop (⟨below, []⟩ : Scripted)).objection? dest.length position length =
      some failure := hobjection
  rw [h.serve_eq_read, read, hobjection']
  rfl

theorem Spans.serve_of_none (h : j.Spans below stream) {dest : Bytes}
    {position length : Int64} (hthrough : j.objection? dest.length position length = none) :
    stream.serve dest position length =
      (.ok length.toInt.toNat,
        stream.slice position.toInt.toNat length.toInt.toNat ++ dest.drop length.toInt.toNat) := by
  have hthrough' : (j.atop (⟨below, []⟩ : Scripted)).objection? dest.length position length =
      none := hthrough
  have hend : 0 < length.toInt.toNat →
      position.toInt.toNat + length.toInt.toNat ≤ stream.length := by
    obtain ⟨-, -, hrange⟩ := (j.objection?_eq_none_iff _ _ _).mp hthrough
    rw [h.logicalEnd_eq] at hrange
    omega
  obtain ⟨hresult, hdest⟩ :=
    (h.atop (⟨below, []⟩ : Scripted)).copyOut_eq (Scripted.serves below)
      ⟨rfl, List.forall_mem_nil _⟩ dest hend
  rw [h.serve_eq_read, read, hthrough']
  exact Prod.ext hresult hdest

end Served

section Reads

variable {σ β : Type} [Medium σ] [Medium β] [Screened σ β] [Faithful β] [Candid β]

/-- Whatever is stopped, a read comes to what is told from the stream, or it is
let through and the medium denies it. -/
theorem Carries.read_eq_serve_or {j : Live σ} {stream : Bytes} (h : j.bare.Carries stream)
    (dest : Bytes) (position length : Int64) :
    ((j.read dest position length).1.result, (j.read dest position length).2) =
        stream.serve dest position length ∨
      j.objection? dest.length position length = none ∧
        ∃ failure, (j.read dest position length).1.result = .error failure ∧
          j.Denied position.toInt.toNat length.toInt.toNat failure := by
  cases hobjection : j.objection? dest.length position length with
  | some failure =>
      left
      rw [h.spans.serve_of_objection hobjection, read, hobjection]
      rfl
  | none =>
      have hserve := h.spans.serve_of_none hobjection
      rcases h.read_cases hobjection with ⟨hresult, hdest⟩ | hdenied
      · left
        have hcount : (stream.slice position.toInt.toNat length.toInt.toNat).length =
            length.toInt.toNat := by
          obtain ⟨-, -, hrange⟩ := (j.objection?_eq_none_iff _ _ _).mp hobjection
          have hend : j.logicalEnd = stream.length := h.logicalEnd_eq
          rw [Bytes.length_slice]
          omega
        rw [hcount] at hresult hdest
        rw [hserve, hresult, hdest]
      · exact .inr ⟨rfl, hdenied⟩

end Reads

/-! ## Journals without a buffer -/

section Barren

variable {σ β : Type} [Medium σ] [Medium β] [Screened σ β] [Faithful β]
  {shortage : Shortage} {bytes : Bytes} {j k : Live σ}

/-- The journal has no buffer, its base is these bytes, and nothing has been done
to them. -/
structure Barren (shortage : Shortage) (bytes : Bytes) (j : Live σ) : Prop where
  buffer_eq : j.buffer = .error shortage
  unsynced_eq : j.unsynced = 0
  carries : j.bare.Carries bytes

theorem held_of_shortage {σ : Type} {j : Live σ} (hbuffer : j.buffer = .error shortage) :
    j.held = [] := by
  rw [held, hbuffer]

theorem Barren.held_eq (h : j.Barren shortage bytes) : j.held = [] :=
  held_of_shortage h.buffer_eq

theorem Barren.of_bare (h : j.Barren shortage bytes) (hbare : k.bare = j.bare) :
    k.Barren shortage bytes where
  buffer_eq := by rw [← bare_buffer k, hbare, bare_buffer, h.buffer_eq]
  unsynced_eq := by rw [← bare_unsynced k, hbare, bare_unsynced, h.unsynced_eq]
  carries := by
    rw [hbare]
    exact h.carries

theorem Barren.contents_eq (h : j.Barren shortage bytes) :
    contents (Screened.base j.medium) = bytes :=
  h.carries.contents_of_nil h.held_eq

theorem Barren.flush_eq (h : j.Barren shortage bytes) : j.flush = .done () j :=
  flush_of_nil h.held_eq

theorem Barren.flushAnd_true (h : j.Barren shortage bytes) : j.flushAnd true = j.sync := by
  rw [flushAnd, h.flush_eq]
  rfl

theorem Barren.sync (h : j.Barren shortage bytes) : j.sync.after.Barren shortage bytes := by
  rcases sync_cases j with hsync | hstopped
  · have hbare : j.sync.after.bare = j.bare.sync.after := congrArg Outcome.after hsync
    have hcarries := h.carries.sync
    rw [← hbare] at hcarries
    rw [sync_eq j.bare] at hbare
    refine ⟨?_, ?_, hcarries⟩
    · rw [← bare_buffer j.sync.after, hbare]
      exact h.buffer_eq
    · rw [← bare_unsynced j.sync.after, hbare]
      rfl
  · have hbare : j.sync.after.bare = j.bare := congrArg Outcome.after hstopped
    exact h.of_bare hbare

theorem Barren.flushAnd (h : j.Barren shortage bytes) (syncing : Bool) :
    (j.flushAnd syncing).after.Barren shortage bytes := by
  cases syncing with
  | false =>
      rw [flushAnd_false, h.flush_eq]
      exact h
  | true =>
      rw [h.flushAnd_true]
      exact h.sync

theorem Barren.draining_eq (h : j.Barren shortage bytes) (syncing : Bool) :
    j.draining syncing = if syncing then [Medium.urged j.medium] else [] := by
  have hnothing : j.flushing = [] := flushing_of_nil h.held_eq
  cases syncing with
  | false => exact hnothing
  | true =>
      show j.syncing = _
      rw [syncing, h.flush_eq, hnothing]
      rfl

end Barren

end Live

namespace Journal

section Barren

variable {σ β : Type} [Medium σ] [Medium β] [Screened σ β] [Faithful β]
  {shortage : Shortage} {bytes : Bytes}

/-- A live journal has no buffer and has done nothing; a closed one has left the
base as it was. -/
def Barren (shortage : Shortage) (bytes : Bytes) : Journal σ → Prop
  | live j => j.Barren shortage bytes
  | closed _ medium => contents (Screened.base medium) = bytes

theorem Barren.perform {j : Journal σ} (h : j.Barren shortage bytes) (request : Request) :
    (j.perform request).1.after.Barren shortage bytes := by
  cases j with
  | closed settings medium =>
      rw [perform_closed]
      exact h
  | live state =>
      have hstate : state.Barren shortage bytes := h
      cases request with
      | write data =>
          show (state.write data).after.Barren shortage bytes
          rw [Live.write_of_shortage hstate.buffer_eq]
          exact hstate
      | flush syncing => exact hstate.flushAnd syncing
      | forceWrite =>
          rw [(Request.Drains.forceWrite.perform state).2.1]
          exact hstate.flushAnd true
      | read dest position length => exact hstate.of_bare (state.read_bare dest position length)
      | close =>
          show contents (Screened.base state.lastFlush.after.medium) = bytes
          rw [Live.lastFlush_after, hstate.flush_eq]
          exact hstate.contents_eq

theorem Barren.meddled {j : Journal σ} (h : j.Barren shortage bytes) {medium : σ}
    (hmeddled : Screened.Meddled j.medium medium) :
    (j.mapMedium fun _ => medium).Barren shortage bytes := by
  have hbase := Screened.base_of_meddled hmeddled
  cases j with
  | live state =>
      have hstate : state.Barren shortage bytes := h
      exact hstate.of_bare (Live.bare_of_base_eq state hbase)
  | closed settings old =>
      show contents (Screened.base medium) = bytes
      rw [hbase]
      exact h

theorem Barren.traces {j j' : Journal σ} (h : j.Barren shortage bytes) {steps : List Step}
    (hrun : Traces j steps j') : j'.Barren shortage bytes := by
  induction hrun with
  | here => exact h
  | called request _ ih => exact ih.perform request
  | asked query _ ih => exact ih
  | meddled _ hmeddled ih => exact ih.meddled hmeddled

theorem ofAppend_of_barren {j : Live σ} (h : j.Barren shortage bytes) (request : Request) :
    ∀ exchange ∈ (live j).exchanges request, exchange.ofAppend = false := by
  have hdraining : ∀ (syncing : Bool), ∀ exchange ∈ j.draining syncing,
      exchange.ofAppend = false := by
    intro syncing exchange hmem
    rw [h.draining_eq] at hmem
    split at hmem
    · rw [List.mem_singleton.mp hmem]
      rfl
    · cases hmem
  cases request with
  | write data =>
      rw [exchanges_write_of_shortage h.buffer_eq]
      exact List.forall_mem_nil _
  | flush syncing =>
      rw [exchanges_flush]
      exact hdraining syncing
  | forceWrite =>
      rw [exchanges_forceWrite]
      exact hdraining true
  | read dest position length =>
      rw [exchanges_read]
      intro exchange hmem
      obtain ⟨offset, missing, hcall, -⟩ :=
        (j.sparing_reading dest.length position length).below exchange hmem
      rw [Exchange.ofAppend, hcall]
      rfl
  | close =>
      rw [exchanges_close]
      exact hdraining false

theorem drop_of_barren {j : Live σ} (h : j.Barren shortage bytes) :
    (live j).drop = (j.medium, []) ∧ (live j).exchangesOnDrop = [] := by
  have hexposed : j.exposed = 0 := by
    rw [Live.exposed, h.unsynced_eq, h.held_eq]
    rfl
  constructor
  · show j.drop = _
    rw [Live.drop, if_pos hexposed]
  · rw [exchangesOnDrop_live, if_pos hexposed]

theorem Barren.drop {j : Journal σ} (h : j.Barren shortage bytes) :
    j.exchangesOnDrop = [] ∧ contents (Screened.base j.drop.1) = bytes := by
  cases j with
  | live state =>
      have hstate : state.Barren shortage bytes := h
      obtain ⟨hdrop, hnothing⟩ := drop_of_barren hstate
      rw [hdrop]
      exact ⟨hnothing, hstate.contents_eq⟩
  | closed settings medium => exact ⟨(inert_of_closed settings medium).exchangesOnDrop_eq, h⟩

end Barren

/-! ## Reading, and nothing else -/

section ReadsOnly

variable {σ β : Type} [Medium σ] [Medium β] [Screened σ β] [Faithful β] [Candid β]

/-- The journal only reads, and these bytes are all that it has.  It refuses every
write; there is nothing to be flushed, when it is closed or dropped neither; a call
that syncs asks for the sync and for nothing else, and succeeds if the sync does;
and a read comes to what is told from the bytes, unless the medium denies it. -/
structure ReadsOnly (shortage : Shortage) (bytes : Bytes) (j : Live σ) : Prop where
  position_eq : (live j).position = .ok bytes.length
  flushedPosition_eq : (live j).flushedPosition = .ok bytes.length
  unsynced_eq : (live j).unsynced = .ok 0
  heldCount_eq : (live j).heldCount = .ok 0
  write_eq (data : Bytes) : (live j).write data = .fail (.bufferUnavailable shortage) (live j)
  exchanges_write (data : Bytes) : (live j).exchanges (.write data) = []
  flush_eq : (live j).flush false = .done () (live j) ∧ (live j).exchanges (.flush false) = []
  close_eq : (live j).close.result = .ok () ∧
    (live j).close.after = closed j.settings j.medium ∧ (live j).exchanges .close = []
  drop_eq : (live j).drop = (j.medium, []) ∧ (live j).exchangesOnDrop = []
  syncs {request : Request} : request.Drains true →
    ((live j).perform request).1.result =
        ((Medium.sync j.medium).1.mapError Failure.io).map (fun _ => request.yield j) ∧
      (live j).exchanges request = [Medium.urged j.medium]
  read_cases (dest : Bytes) (position length : Int64) :
    (((live j).read dest position length).1.result, ((live j).read dest position length).2) =
        bytes.serve dest position length ∨
      j.objection? dest.length position length = none ∧
        ∃ failure, ((live j).read dest position length).1.result = .error failure ∧
          j.Denied position.toInt.toNat length.toInt.toNat failure
  read_served {Ready : σ → Prop} : Medium.Serves bytes Ready → Ready j.medium →
    ∀ (dest : Bytes) (position length : Int64),
      (((live j).read dest position length).1.result, ((live j).read dest position length).2) =
        bytes.serve dest position length

theorem readsOnly_of_barren {shortage : Shortage} {bytes : Bytes} {j : Live σ}
    (h : j.Barren shortage bytes) : ReadsOnly shortage bytes j where
  position_eq := congrArg Except.ok h.carries.logicalEnd_eq
  flushedPosition_eq := by
    have hboundary : j.boundary = (contents (Screened.base j.medium)).length :=
      h.carries.boundary_eq
    rw [h.contents_eq] at hboundary
    exact congrArg Except.ok hboundary
  unsynced_eq := congrArg Except.ok h.unsynced_eq
  heldCount_eq := congrArg (fun held : Bytes => Except.ok held.length) h.held_eq
  write_eq data := congrArg (Outcome.lift live) (Live.write_of_shortage h.buffer_eq data)
  exchanges_write data := exchanges_write_of_shortage h.buffer_eq data
  flush_eq := idle_of_held h.held_eq
  close_eq := by
    refine ⟨?_, ?_, ?_⟩
    · show j.lastFlush.result = .ok ()
      rw [Live.lastFlush_result, h.flush_eq]
      rfl
    · show closed j.lastFlush.after.settings j.lastFlush.after.medium = _
      rw [Live.lastFlush_after, h.flush_eq]
      rfl
    · rw [exchanges_close]
      exact Live.flushing_of_nil h.held_eq
  drop_eq := drop_of_barren h
  syncs := by
    intro request hdrains
    obtain ⟨hresult, -, hasked⟩ := hdrains.perform j
    have hsync : j.sync.result = (Medium.sync j.medium).1.mapError Failure.io := by
      cases hanswer : (Medium.sync j.medium).1 with
      | ok value =>
          rw [Live.sync_of_sync hanswer]
          rfl
      | error error =>
          rw [Live.sync_of_refused hanswer]
          rfl
    rw [hresult, hasked, h.flushAnd_true, hsync, h.draining_eq]
    exact ⟨rfl, rfl⟩
  read_cases dest position length := h.carries.read_eq_serve_or dest position length
  read_served := by
    intro Ready hserves hready
    have hserves' : Medium.Serves (contents j.bare.medium) Ready := by
      rw [Live.bare_medium, h.contents_eq]
      exact hserves
    exact h.carries.read_served hserves' hready

/-- **A journal without a buffer is read-only.**  Open a journal with valid
settings where no buffer is to be had, and follow it through any run, whatever the
screen stops.  It opens; nothing is ever appended, not when it is closed or dropped
either, and the base holds what it held; and as long as the journal lives it only
reads. -/
theorem bufferless_reads_only {medium : σ} (hbase : Undisturbed (Screened.base medium))
    {settings : Settings} (hvalid : settings.validate = .ok ()) {supply : Supply}
    {shortage : Shortage} (hshortage : supply settings.room = .error shortage) :
    ∃ (opened : Journal σ) (events : List Event),
      start medium settings supply = (.ok opened, events) ∧
        ∀ (steps : List Step) (j : Journal σ), Traces opened steps j →
          (∀ exchange ∈ record steps ++ j.exchangesOnDrop, exchange.ofAppend = false) ∧
            contents (Screened.base j.medium) = contents (Screened.base medium) ∧
            contents (Screened.base j.drop.1) = contents (Screened.base medium) ∧
            ∀ state : Live σ, j = live state →
              ReadsOnly shortage (contents (Screened.base medium)) state := by
  obtain ⟨events, hstart⟩ := start_of_valid medium hvalid supply
  have hfresh : (Live.fresh medium settings supply).Barren shortage
      (contents (Screened.base medium)) := by
    refine ⟨hshortage, rfl, hbase, ?_, ?_⟩
    · exact (Screened.position_eq medium).trans (Faithful.position_eq hbase)
    · have hheld : (Live.fresh medium settings supply).held = [] :=
        Live.held_of_shortage hshortage
      rw [Live.bare_held, hheld, List.append_nil]
      rfl
  have hopened : (live (Live.fresh medium settings supply)).Barren shortage
      (contents (Screened.base medium)) := hfresh
  refine ⟨_, events, hstart, ?_⟩
  intro steps j hrun
  have hbarren := hopened.traces hrun
  obtain ⟨hnothing, hdropped⟩ := hbarren.drop
  refine ⟨?_, ?_, hdropped, ?_⟩
  · rw [hnothing, List.append_nil]
    apply hrun.forall_record (P := fun exchange => exchange.ofAppend = false)
    intro before state request hbefore
    exact ofAppend_of_barren (hopened.traces hbefore) request
  · cases j with
    | live state => exact Live.Barren.contents_eq hbarren
    | closed settings medium => exact hbarren
  · intro state hstate
    subst hstate
    exact readsOnly_of_barren hbarren

/-- A write is refused and a forced write fails, as its sync is stopped; what is
left still only reads. -/
theorem bufferless_reads_only_after_stop :
    ∃ (opened : Journal (Rigged InMemory)) (events : List Event) (steps : List Step)
      (j : Live (Rigged InMemory)),
      start (Rigged.behind 1 (InMemory.holding [9, 8])) { capacity := 4 } .exhausted =
          (.ok opened, events) ∧
        Traces opened steps (live j) ∧
        record steps = [⟨.sync, .accepted (.error (.injected .sync))⟩] ∧
        j.medium.base.bytes = [9, 8] ∧
        (live j).write [] = .fail (.bufferUnavailable ⟨4, .noBuffers⟩) (live j) ∧
        (live j).exchanges .forceWrite = [⟨.sync, .accepted (.ok ())⟩] ∧
        (live j).drop = (j.medium, []) ∧
        (((live j).read [0, 0] 1 1).1.result, ((live j).read [0, 0] 1 1).2) = (.ok 1, [8, 0]) := by
  have hexhausted : Supply.exhausted (Settings.room { capacity := 4 }) = .error ⟨4, .noBuffers⟩ :=
    rfl
  have hbase : Undisturbed (Screened.base (Rigged.behind 1 (InMemory.holding [9, 8]))) := trivial
  obtain ⟨opened, events, hstart, hruns⟩ := bufferless_reads_only hbase rfl hexhausted
  obtain rfl := eq_fresh_of_start hstart
  have hopened : Traces (live (Live.fresh (Rigged.behind 1 (InMemory.holding [9, 8]))
      { capacity := 4 } .exhausted)) [] _ := .here
  have hrefused := hopened.called (.write [1])
  have harmed := hrefused.meddled ⟨0, .arm .sync .once, rfl⟩
  have hstopped := harmed.called .forceWrite
  obtain ⟨-, hcontents, -, hlive⟩ := hruns _ _ hstopped
  have hreads := hlive _ rfl
  have hserved := hreads.read_served (Rigged.serves trivial) ⟨rfl, by decide⟩ [0, 0] 1 1
  exact ⟨_, _, _, _, hstart, hstopped, rfl, hcontents, hreads.write_eq [],
    (hreads.syncs .forceWrite).2, hreads.drop_eq.1, hserved⟩

end ReadsOnly

end Journal

end WriteBack
