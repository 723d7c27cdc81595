/-
# Continuity — one stream through all sessions

A store that is opened again and again, without faults and without anybody
else at it, carries one stream from session to session.  Each session begins
where the last one ended, adds what it writes with success, and leaves it all
in the depot, whether it ends by closing or by dropping, and whether or not it
had a buffer.

What is said of a stage is said of the stream so far (`Continues`): a place
keeps it and lets the next session start at its end, a live journal reports
its length and serves every read from it, and a closed journal has put all of
it on its medium.
-/
import WriteBack.Proofs.FaultFree
import WriteBack.Proofs.Filing

namespace WriteBack

open Faithful (contents Undisturbed Addressable)
open Journal (Report written)

/-! ## Starting a session -/

theorem Journal.start_of_valid {σ : Type} [Medium σ] (medium : σ) {settings : Settings}
    (hvalid : settings.validate = .ok ()) (supply : Supply) :
    ∃ events, start medium settings supply =
      (.ok (live (.fresh medium settings supply)), events) := by
  unfold start
  rw [hvalid]
  exact ⟨_, rfl⟩

section Continuity

variable {ρ β : Type} [Medium β] [Faithful β] [Depot ρ β]

/-! ## Holding the stream from session to session -/

/-- The place keeps the stream, or the journal holds it. -/
def Stage.Holds (stream : Bytes) : Stage ρ β → Prop
  | resting place => Depot.kept place = stream
  | running j => j.Holds stream

theorem Leads.sound {first last : Stage ρ β} {history : List Report}
    (h : Leads first history last) (hfirst : first.Keeps (fun _ => True) (Depot.Sound ρ)) :
    last.Keeps (fun _ => True) (Depot.Sound ρ) := by
  refine h.keeps ?_ (fun _ _ => trivial) Depot.sound_append Depot.sound_sync hfirst
  intro place mode base _ hfetch
  exact Depot.sound_of_fetch hfetch

theorem Journal.Holds.leave {j : Journal β} {stream : Bytes} (h : j.Holds stream)
    (hsound : j.Keeps fun last => Depot.Sound ρ last.medium) :
    Depot.kept (Depot.leave j.drop.1 : ρ) = stream := by
  obtain ⟨last, hlast, hmedium⟩ := hsound.drop (Live.hereditary_medium Depot.sound_append
    Depot.sound_sync)
  have hbase : last.medium = j.drop.1 := hmedium
  rw [hbase] at hlast
  rw [Depot.kept_leave hlast, h.drop]

/-- Every step holds the stream, longer by what it wrote with success. -/
theorem Leads.holds {first last : Stage ρ β} {history : List Report}
    (h : Leads first history last) (hsound : first.Keeps (fun _ => True) (Depot.Sound ρ))
    {stream : Bytes} (hfirst : first.Holds stream) : last.Holds (stream ++ written history) := by
  induction h with
  | here =>
      rw [show written [] = [] from rfl, List.append_nil]
      exact hfirst
  | @opened history place mode medium settings supply j events _ hfetch hsupply hstart ih =>
      have hcarries := Journal.start_carries (Depot.undisturbed_of_fetch hfetch) hsupply hstart
      rw [Depot.contents_of_fetch hfetch] at hcarries
      rw [Journal.eq_fresh_of_start hstart] at hcarries ⊢
      have hkept : Depot.kept place = stream ++ written history := ih
      rw [Journal.written_concat, ← List.append_assoc, ← hkept]
      exact hcarries.append_nil
  | called request _ ih =>
      rw [Journal.written_concat, ← List.append_assoc]
      exact Journal.Holds.perform ih request
  | asked query _ ih =>
      rw [Journal.written_concat, ← List.append_assoc]
      exact (List.append_nil _).symm ▸ ih
  | @meddled history j medium _ hmeddled ih =>
      cases hmeddled
      cases j with
      | live state => exact ih
      | closed settings medium => exact ih
  | @dropped history j hlead ih => exact Journal.Holds.leave ih (hlead.sound hsound)

/-! ## What a session finds and what it leaves -/

def Depot.Opens (place : ρ) : Prop :=
  ∀ mode : Depot.Mode ρ, ∃ base : β, Depot.fetch place mode = .ok base

/-- Every session can be opened here, and begins at the end of the stream. -/
def Depot.Begins (place : ρ) (stream : Bytes) : Prop :=
  ∀ (mode : Depot.Mode ρ) (settings : Settings) (supply : Supply),
    settings.validate = .ok () → supply.Honest →
      ∃ (base : β) (j : Journal β) (events : List Event),
        Depot.fetch place mode = .ok base ∧
          Journal.start base settings supply = (.ok j, events) ∧
          j.position = .ok stream.length ∧ j.flushedPosition = .ok stream.length

/-- A client finds the stream in the journal, from its first byte to its last,
and can add to it if there is a buffer. -/
structure Live.Serves (j : Live β) (stream : Bytes) : Prop where
  position_eq : (Journal.live j).position = .ok stream.length
  read_eq : Addressable j.medium → ∀ (dest : Bytes) (position length : Int64),
    (((Journal.live j).read dest position length).1.result,
        ((Journal.live j).read dest position length).2) =
      stream.serve dest position length
  write_eq {buffer : Buffer} : j.buffer = .ok buffer → ∀ data : Bytes,
    ((Journal.live j).write data).result = .ok ()

/-- The stage continues the stream: a place keeps it and lets sessions begin at
its end, a live journal serves it, and a closed one has it on its medium. -/
def Stage.Continues (stream : Bytes) : Stage ρ β → Prop
  | resting place => Depot.kept place = stream ∧ Depot.Begins place stream
  | running (.live j) => j.Serves stream
  | running (.closed _ medium) => contents medium = stream

theorem Depot.begins_of_opens {place : ρ} (hopens : Depot.Opens place) :
    Depot.Begins place (Depot.kept place) := by
  intro mode settings supply hvalid hsupply
  obtain ⟨base, hfetch⟩ := hopens mode
  obtain ⟨events, hstart⟩ := Journal.start_of_valid base hvalid supply
  have hcarries : (Live.fresh base settings supply).Carries (contents base) :=
    Journal.start_carries (Depot.undisturbed_of_fetch hfetch) hsupply hstart
  rw [← Depot.contents_of_fetch hfetch]
  exact ⟨base, _, events, hfetch, hstart, congrArg Except.ok hcarries.logicalEnd_eq,
    congrArg Except.ok hcarries.boundary_eq⟩

theorem Leads.opens {place₀ : ρ} {history : List Report} {stage : Stage ρ β}
    (h : Leads (.resting place₀) history stage) (hopens : Depot.Opens place₀) :
    stage.Keeps Depot.Opens (Depot.Sound ρ) := by
  refine h.keeps ?_ ?_ Depot.sound_append Depot.sound_sync hopens
  · intro place mode base _ hfetch
    exact Depot.sound_of_fetch hfetch
  · intro base hsound mode
    exact Depot.fetch_leave mode hsound

/-- **Sessions compose.**  From a place that can be opened, any number of
sessions continue one stream: what the place kept at first, followed by the
data of all writes of all sessions that succeeded, in their order. -/
theorem Leads.continues {place₀ : ρ} (hopens : Depot.Opens place₀) {history : List Report}
    {stage : Stage ρ β} (h : Leads (.resting place₀) history stage) :
    stage.Continues (Depot.kept place₀ ++ written history) := by
  have hfirst : (Stage.resting place₀ : Stage ρ β).Holds (Depot.kept place₀) := rfl
  have hholds := h.holds trivial hfirst
  cases stage with
  | resting place =>
      have hkept : Depot.kept place = Depot.kept place₀ ++ written history := hholds
      refine ⟨hkept, ?_⟩
      rw [← hkept]
      exact Depot.begins_of_opens (h.opens hopens)
  | running j =>
      cases j with
      | live state =>
          have hcarries : state.Carries (Depot.kept place₀ ++ written history) := hholds
          exact ⟨congrArg Except.ok hcarries.logicalEnd_eq, Journal.read_of_carries hcarries,
            Live.write_ok⟩
      | closed settings medium => exact hholds

end Continuity

def ledger : Located := ⟨⟨.file "ledger" [9] .empty⟩, ⟨["ledger"]⟩⟩

/-- A file is written to through a buffer and closed, opened without a buffer,
which refuses the next write, and opened again without room and dropped. -/
theorem ledger_continues :
    ∃ (history : List Report) (place : Located),
      Leads (.resting ledger : Stage Located OpenFile) history (.resting place) ∧
        written history = [1, 2, 3] ∧ Depot.kept place = [9, 1, 2, 3] ∧
        Depot.Begins place [9, 1, 2, 3] := by
  have hfile : ledger.disk.file? ledger.path = some [9] := by decide
  have hopens : Depot.Opens ledger := by
    intro policy
    exact ⟨_, congrArg Prod.fst (OpenFile.opening_of_file hfile policy)⟩
  have hbegin : Leads (.resting ledger : Stage Located OpenFile) [] (.resting ledger) := .here
  obtain ⟨-, hbegins₁⟩ := hbegin.continues hopens
  obtain ⟨base₁, j₁, _, hfetch₁, hstart₁, -⟩ :=
    hbegins₁ .dataOnly {} .heap rfl Supply.heap_honest
  have hopened₁ := hbegin.opened hfetch₁ Supply.heap_honest hstart₁
  rw [Journal.eq_fresh_of_start hstart₁] at hopened₁
  have hclosed := ((hopened₁.called (.write [1])).called .close).dropped
  obtain ⟨-, hbegins₂⟩ := hclosed.continues hopens
  obtain ⟨base₂, j₂, _, hfetch₂, hstart₂, -⟩ :=
    hbegins₂ .dataAndMetadata {} .exhausted rfl Supply.exhausted_honest
  have hopened₂ := hclosed.opened hfetch₂ Supply.exhausted_honest hstart₂
  rw [Journal.eq_fresh_of_start hstart₂] at hopened₂
  have hrefused := (hopened₂.called (.write [7])).dropped
  obtain ⟨-, hbegins₃⟩ := hrefused.continues hopens
  obtain ⟨base₃, j₃, _, hfetch₃, hstart₃, -⟩ :=
    hbegins₃ .dataOnly { capacity := 0 } .heap rfl Supply.heap_honest
  have hopened₃ := hrefused.opened hfetch₃ Supply.heap_honest hstart₃
  rw [Journal.eq_fresh_of_start hstart₃] at hopened₃
  have hdropped := (hopened₃.called (.write [2, 3])).dropped
  have hcontinues := hdropped.continues hopens
  have hkept : Depot.kept ledger = [9] := congrArg (Option.getD · []) hfile
  rw [hkept] at hcontinues
  exact ⟨_, _, hdropped, rfl, hcontinues⟩

end WriteBack
