/-
# Durability — what a sync has covered stays covered

Memory knows how much of it the last sync covered, and a journal over it
keeps books on its own: it counts the bytes that went to the medium since.
The two agree in every state that a run can reach, whatever is stopped on the
way, provided that all of the memory was covered when the journal was opened.

A forced write that succeeds promises that everything below the offset it
returns is durable.  The promise is kept ever after: no journal takes back
what a sync has covered, neither this one nor any that is opened over the
same memory once this one is closed or dropped.
-/
import WriteBack.Proofs.Sessions

namespace WriteBack

namespace Live

/-! ## The books agree

The books begin with the session.  Bytes that the memory already had then, and
that no sync had covered, are not in them; they are behind until the first
sync of the session covers them too. -/

/-- What is left of a lag: all of it until the journal syncs, and then
nothing. -/
def stillBehind (j : Live InMemory) (lag : Nat) : Nat := if j.tally.syncs = 0 then lag else 0

/-- The journal's books agree with the memory but for the lag: what is covered,
what is booked as not covered and what is still behind make up all that the
memory holds. -/
structure Lagging (lag : Nat) (j : Live InMemory) : Prop where
  synced_add : j.medium.synced + j.unsynced + j.stillBehind lag = j.boundary
  boundary_eq : j.boundary = j.medium.bytes.length

theorem Lagging.append {lag : Nat} {j j' : Live InMemory} (h : j.Lagging lag) {data : Bytes}
    (hmedium : j'.medium = j.medium.append data)
    (hboundary : j'.boundary = j.boundary + data.length)
    (hunsynced : j'.unsynced = j.unsynced + data.length)
    (hsyncs : j'.tally.syncs = j.tally.syncs) : j'.Lagging lag := by
  obtain ⟨hsynced, hlength⟩ := h
  refine ⟨?_, ?_⟩
  · rw [hmedium, hboundary, hunsynced, stillBehind, hsyncs]
    show j.medium.synced + _ + j.stillBehind lag = _
    omega
  · rw [hmedium, hboundary]
    show _ = (j.medium.bytes ++ data).length
    rw [List.length_append, hlength]

theorem hereditary_lagging (lag : Nat) : Hereditary (Lagging lag) where
  flush {j} h := by
    by_cases hheld : j.held = []
    · rwa [flush_of_nil hheld]
    · rw [flush_of_ne_nil hheld]
      exact h.append rfl rfl rfl rfl
  sync h := by
    rw [sync_eq]
    exact ⟨h.boundary_eq.symm, h.boundary_eq⟩
  writeThrough _ _ h := by
    rw [writeThrough_eq]
    exact h.append rfl rfl rfl rfl
  withHeld _ _ h := ⟨h.synced_add, h.boundary_eq⟩
  counted _ h := ⟨h.synced_add, h.boundary_eq⟩

theorem fresh_lagging {base : InMemory} {lag : Nat} (hbase : base.synced + lag = base.bytes.length)
    (settings : Settings) (supply : Supply) : (fresh base settings supply).Lagging lag :=
  ⟨hbase, rfl⟩

/-- The journal's books agree with the memory: what is covered and what is
booked as not covered make up all that the memory holds. -/
structure Accounted (j : Live InMemory) : Prop where
  synced_add : j.medium.synced + j.unsynced = j.boundary
  boundary_eq : j.boundary = j.medium.bytes.length

theorem accounted_iff {j : Live InMemory} : j.Accounted ↔ j.Lagging 0 := by
  have hnone : j.stillBehind 0 = 0 := ite_self 0
  constructor
  · intro h
    exact ⟨by rw [hnone]; exact h.synced_add, h.boundary_eq⟩
  · intro h
    have hsynced := h.synced_add
    rw [hnone] at hsynced
    exact ⟨hsynced, h.boundary_eq⟩

theorem hereditary_accounted : Hereditary Accounted := by
  have hsame : Accounted = Lagging 0 := funext fun _ => propext accounted_iff
  rw [hsame]
  exact hereditary_lagging 0

theorem fresh_accounted {base : InMemory} (hbase : base.synced = base.bytes.length)
    (settings : Settings) (supply : Supply) : (fresh base settings supply).Accounted :=
  ⟨hbase, rfl⟩

/-! ## What a forced write promises -/

section Forced

variable {σ β : Type} [Medium σ] [Medium β] [Screened σ β] [Steady β]

theorem forceWrite_of_ok {j : Live σ} {offset : Nat} (h : j.forceWrite.result = .ok offset) :
    j.forceWrite.after.bare = j.bare.flush.after.sync.after ∧
      j.forceWrite.after.boundary = offset := by
  rw [forceWrite_eq] at h ⊢
  cases hresult : (j.flushAnd true).result with
  | error failure =>
      rw [Outcome.map, hresult] at h
      cases h
  | ok value =>
      rw [Outcome.map, hresult] at h
      have hthrough := ((flushAnd_ends j true).of_ok hresult).trans (flushAnd_true j.bare)
      exact ⟨congrArg Outcome.after hthrough, Except.ok.inj h⟩

end Forced

/-- All that the journal took is on the memory and covered, up to the
offset. -/
structure Covered (j : Live InMemory) (offset : Nat) : Prop where
  logicalEnd_eq : j.logicalEnd = offset
  unsynced_eq : j.unsynced = 0
  synced_eq : j.medium.synced = offset
  length_eq : j.medium.bytes.length = offset

theorem Accounted.covered {j : Live InMemory} (h : j.Accounted) (hheld : j.held = [])
    (hunsynced : j.unsynced = 0) : j.Covered j.boundary where
  logicalEnd_eq := by
    rw [logicalEnd, hheld]
    rfl
  unsynced_eq := hunsynced
  synced_eq := by
    have hsynced := h.synced_add
    rwa [hunsynced] at hsynced
  length_eq := h.boundary_eq.symm

theorem Accounted.covered_of_forceWrite {σ : Type} [Medium σ] [Screened σ InMemory] {j : Live σ}
    (h : j.bare.Accounted) {offset : Nat} (hforced : j.forceWrite.result = .ok offset) :
    j.forceWrite.after.bare.Covered offset := by
  obtain ⟨hafter, hboundary⟩ := forceWrite_of_ok hforced
  have hflushed : j.bare.flush.after.Accounted := hereditary_accounted.flush h
  rw [← hboundary, ← bare_boundary, hafter]
  apply (hereditary_accounted.sync hflushed).covered
  · rw [sync_held, flush_held]
  · exact sync_unsynced _

end Live

/-! ## What is covered stays -/

/-- Memory on which the bytes stand at the front and are covered by a sync. -/
structure Covers (front : Bytes) (m : InMemory) : Prop where
  prefix_bytes : front <+: m.bytes
  length_le : front.length ≤ m.synced

theorem Covers.append {front : Bytes} {m : InMemory} (h : Covers front m) (data : Bytes) :
    Covers front (m.append data) :=
  ⟨h.prefix_bytes.trans (List.prefix_append _ _), h.length_le⟩

theorem Covers.sync {front : Bytes} {m : InMemory} (h : Covers front m) : Covers front m.sync :=
  ⟨h.prefix_bytes, h.prefix_bytes.length_le⟩

def Stage.memory {σ : Type} [Medium σ] [Screened σ InMemory] : Stage InMemory σ → InMemory
  | resting m => m
  | running j => Screened.base j.medium

section Durable

open Journal (Report)

variable {σ : Type} [Medium σ] [Screened σ InMemory]

/-- What a sync has covered is covered ever after. -/
theorem Leads.covers {front : Bytes} {first last : Stage InMemory σ} {history : List Report}
    (h : Leads first history last) (hfirst : first.Keeps (Covers front) (Covers front)) :
    Covers front last.memory := by
  have hlast : last.Keeps (Covers front) (Covers front) := by
    refine h.keeps ?_ ?_ ?_ ?_ hfirst
    · rintro place mode _ hplace ⟨rfl⟩
      exact hplace
    · exact fun base hbase => hbase
    · exact fun m data hm => hm.append data
    · exact fun m hm => hm.sync
  cases last with
  | resting m => exact hlast
  | running j => exact Journal.Keeps.medium hlast

/-- **Durability is accounted for exactly.**  Over memory that was covered
when the journal was opened, what is covered is in every state the boundary
less what is booked as unsynced.  And where a forced write succeeds, the
offset that it returns is the end of the stream and of what is covered, and
whatever happens later, in this session or any other, so much of the memory
stays covered and stays as it is. -/
theorem Journal.Reached.synced_eq {base : InMemory} (hbase : base.synced = base.bytes.length)
    {history : List Report} {j : Live σ} (h : Reached base history (live j)) :
    (j.unsynced ≤ j.boundary ∧ (Screened.base j.medium).synced = j.boundary - j.unsynced) ∧
      ((Screened.base j.medium).synced ≤ j.logicalEnd ∧
        j.logicalEnd - (Screened.base j.medium).synced = j.unsynced + j.held.length) ∧
      ∀ offset : Nat, (live j).forceWrite.result = .ok offset →
        ∃ j' : Live σ, (live j).forceWrite.after = live j' ∧
          (live j').position = .ok offset ∧ (Screened.base j'.medium).synced = offset ∧
          (live j').unsynced = .ok 0 ∧ (Screened.base j'.medium).bytes.length = offset ∧
          ∀ (later : List Report) (stage : Stage InMemory σ),
            Leads (.running (live j')) later stage →
              offset ≤ stage.memory.synced ∧
                stage.memory.bytes.take offset = (Screened.base j'.medium).bytes := by
  have haccounted : j.bare.Accounted :=
    h.keeps Live.hereditary_accounted fun settings supply _ =>
      Live.fresh_accounted hbase settings supply
  have hsynced : (Screened.base j.medium).synced + j.unsynced = j.boundary :=
    haccounted.synced_add
  have hend : j.logicalEnd = j.boundary + j.held.length := rfl
  refine ⟨⟨by omega, by omega⟩, ⟨by omega, by omega⟩, ?_⟩
  intro offset hforced
  have hcovered := haccounted.covered_of_forceWrite hforced
  refine ⟨j.forceWrite.after, rfl, congrArg Except.ok hcovered.logicalEnd_eq,
    hcovered.synced_eq, congrArg Except.ok hcovered.unsynced_eq, hcovered.length_eq, ?_⟩
  intro later stage hlater
  -- these bytes are a covered front from here on, in this session and in all others
  have hfirst : Covers j.forceWrite.after.bare.medium.bytes j.forceWrite.after.bare.medium :=
    ⟨List.prefix_rfl, Nat.le_of_eq (hcovered.length_eq.trans hcovered.synced_eq.symm)⟩
  obtain ⟨hfront, hlength⟩ := hlater.covers hfirst
  rw [hcovered.length_eq] at hlength
  rw [List.prefix_iff_eq_take, hcovered.length_eq] at hfront
  exact ⟨hlength, hfront.symm⟩

/-- A journal with three bytes on the memory whose sync was stopped. -/
def lapsed : Live (Rigged InMemory) :=
  { settings := {}
    medium := ⟨[{ appends := 1, syncs := 1 }], ⟨[9, 1, 2, 3], 1⟩⟩
    buffer := .ok ⟨65536, []⟩
    boundary := 4
    unsynced := 3
    tally := { writes := 1, bytesWritten := 3, appends := 1, bytesFlushed := 3 } }

/-- A forced write makes up for the stopped sync.  Then the journal is closed
on a byte that no sync covers, and another is opened, written to and
dropped. -/
theorem synced_eq_across_sessions :
    ∃ (history later : List Report) (stage : Stage InMemory (Rigged InMemory)),
      Journal.Reached (InMemory.holding [9]) history (.live lapsed) ∧
        lapsed.medium.base.synced = lapsed.boundary - lapsed.unsynced ∧
        lapsed.forceWrite.result = .ok 4 ∧
        Leads (.running (.live lapsed.forceWrite.after)) later stage ∧
        stage.memory.bytes = [9, 1, 2, 3, 4, 5] ∧
        4 ≤ stage.memory.synced ∧ stage.memory.bytes.take 4 = [9, 1, 2, 3] := by
  have hstart : Journal.start (Rigged.behind 1 (InMemory.holding [9])) {} .heap = (.ok _, _) := rfl
  have hopened : Journal.Reached (InMemory.holding [9]) _ _ :=
    .opened rfl Supply.heap_honest hstart
  have hreached : Journal.Reached (InMemory.holding [9]) _ (.live lapsed) :=
    ((hopened.called (.write [1, 2, 3])).switched 0 (.arm .sync .once)).called (.flush true)
  obtain ⟨⟨-, hsynced⟩, -, hforced⟩ := hreached.synced_eq rfl
  obtain ⟨j', hafter, -, -, -, -, hcovered⟩ := hforced 4 rfl
  cases hafter
  have hhere : Leads (.running (.live lapsed.forceWrite.after) : Stage InMemory _) [] _ := .here
  have hclosed : Leads _ _ (.resting (InMemory.mk [9, 1, 2, 3, 4] 4)) :=
    ((hhere.called (.write [4])).called .close).dropped
  have hfetch : Depot.fetch (InMemory.mk [9, 1, 2, 3, 4] 4) () =
      .ok (Screened.base (Rigged.behind 2 (InMemory.mk [9, 1, 2, 3, 4] 4))) := rfl
  have hrestart : Journal.start (Rigged.behind 2 (InMemory.mk [9, 1, 2, 3, 4] 4))
      { capacity := 0 } .heap = (.ok _, _) := rfl
  have hlater :=
    ((hclosed.opened hfetch Supply.heap_honest hrestart).called (.write [5])).dropped
  obtain ⟨hkept, hbytes⟩ := hcovered _ _ hlater
  exact ⟨_, _, _, hreached, hsynced, rfl, hlater, rfl, hkept, hbytes.trans rfl⟩

end Durable

end WriteBack
