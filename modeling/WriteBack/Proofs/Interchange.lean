/-
# Interchange — a file is as good as memory

A client that opens a journal, calls it, asks it, drops it and opens it again
cannot tell from what comes back whether the bytes lie in a file or in memory.
Nor can somebody who calls the two media themselves.

The two find the place for an append in different ways: memory adds to the end
of what it holds, a file writes at a cursor that it was given when it was
opened.  What keeps them together is that the cursor is where the file ends.

Of the file system it is assumed that it does not fail; a run in which it does
is left out of account.  It can only fail reads, because the file is there to
be opened.
-/
import WriteBack.Proofs.Bound
import WriteBack.Proofs.Continuity
import WriteBack.Proofs.Mirror

namespace WriteBack

open Faithful (contents)
open Journal (Query Report Request)

/-! ## A client and its store -/

/-- What a client does with a store.  How a file is to be synced is said when
it is opened. -/
inductive Act where
  | start (policy : SyncPolicy) (settings : Settings) (supply : Supply)
  | call (request : Request)
  | ask (query : Query)
  | drop

/-- What comes back to the client: a report, a refusal to start, what is told
while a journal is dropped, or nothing at all, where there is no journal. -/
inductive Echo where
  | reported (report : Report)
  | refused (failure : Failure) (events : List Event)
  | dropped (events : List Event)
  | idle
deriving Repr

def Echo.failure? : Echo → Option Failure
  | reported report => report.failure?
  | refused failure _ => some failure
  | _ => none

namespace Stage

variable {ρ β : Type} [Medium β] [Faithful β] [Depot ρ β]

/-- Where the store lies once nobody has a journal over it any more. -/
def place : Stage ρ β → ρ
  | resting place => place
  | running j => Depot.leave j.drop.1

/-- What comes back from an act, and the stage afterwards; `choose` is how the
store is fetched.  Whoever starts anew drops the journal that there was. -/
def act (choose : SyncPolicy → Depot.Mode ρ) : Stage ρ β → Act → Echo × Stage ρ β
  | stage, .start policy settings supply =>
    match Depot.fetch stage.place (choose policy) with
    | .error error => (.refused (.io error) [], resting stage.place)
    | .ok base =>
      match Journal.start base settings supply with
      | (.error failure, events) => (.refused failure events, resting (Depot.leave base))
      | (.ok j, events) => (.reported (.opened settings events), running j)
  | running j, .call request => (.reported (j.report request), running (j.perform request).1.after)
  | running j, .ask query => (.reported (.asked query (j.answer query)), running j)
  | running j, .drop => (.dropped j.drop.2, resting (Depot.leave j.drop.1))
  | resting place, _ => (.idle, resting place)

def acts (choose : SyncPolicy → Depot.Mode ρ) (stage : Stage ρ β) :
    List Act → List Echo × Stage ρ β
  | [] => ([], stage)
  | first :: others =>
    let (echo, stage) := stage.act choose first
    let (echoes, stage) := stage.acts choose others
    (echo :: echoes, stage)

theorem acts_cons (choose : SyncPolicy → Depot.Mode ρ) (stage : Stage ρ β) (first : Act)
    (others : List Act) :
    stage.acts choose (first :: others) =
      ((stage.act choose first).1 :: ((stage.act choose first).2.acts choose others).1,
        ((stage.act choose first).2.acts choose others).2) := rfl

def bytes : Stage ρ β → Bytes
  | resting place => Depot.kept place
  | running j => contents j.medium

end Stage

/-! ## A file and its image in memory -/

/-- The file stands, its cursor is at its end, and memory holds its bytes. -/
structure OpenFile.Images (f : OpenFile) (m : InMemory) : Prop where
  stands : f.Stands
  cursor_eq : f.cursor = f.bytes.length
  bytes_eq : f.bytes = m.bytes

theorem OpenFile.Images.file?_eq {f : OpenFile} {m : InMemory} (h : f.Images m) :
    f.disk.file? f.path = some m.bytes :=
  h.bytes_eq ▸ h.stands.file?_eq

def MediumError.Systemic (error : MediumError) : Prop := ∃ errno, error = .system errno

/-- A file and its image answer alike until the file system fails a read. -/
theorem OpenFile.images_mirrors : Medium.Mirrors OpenFile.Images MediumError.Systemic where
  position_eq h := h.cursor_eq.trans (congrArg List.length h.bytes_eq)
  size_eq h := congrArg List.length h.bytes_eq
  append {f m} data h := by
    have hplace : f.place ≠ [] := h.stands.place_eq ▸ h.stands.regular.names_ne_nil
    have hbytes : (f.append data).bytes = f.bytes ++ data :=
      f.bytes_append data hplace h.cursor_eq
    refine ⟨rfl, h.stands.append data, ?_, ?_⟩
    · show f.cursor + data.length = (f.append data).bytes.length
      rw [hbytes, h.cursor_eq, List.length_append]
    · show (f.append data).bytes = m.bytes ++ data
      rw [hbytes, h.bytes_eq]
  sync h := ⟨rfl, h.stands, h.cursor_eq, h.bytes_eq⟩
  readAt {f m} offset wanted h := by
    show (∃ error, error.Systemic ∧ f.readAt offset wanted = .failed error) ∨
      f.readAt offset wanted = .bytes (m.bytes.slice offset wanted) ∧ f.Images m
    rw [OpenFile.readAt, h.bytes_eq]
    split
    · exact .inl ⟨_, ⟨_, rfl⟩, rfl⟩
    · exact .inr ⟨rfl, h⟩

theorem Located.fetch_of_file {located : Located} {m : InMemory}
    (h : located.disk.file? located.path = some m.bytes) (policy : SyncPolicy) :
    ∃ f : OpenFile, Depot.fetch located policy = .ok f ∧ f.Images m := by
  have hfetch : Depot.fetch located policy = Except.ok _ :=
    congrArg Prod.fst (OpenFile.opening_of_file h policy)
  have hkept : Depot.kept located = m.bytes := congrArg (Option.getD · []) h
  refine ⟨_, hfetch, Depot.sound_of_fetch hfetch, (Depot.undisturbed_of_fetch hfetch).2, ?_⟩
  exact (Depot.contents_of_fetch hfetch).trans hkept

def Located.choose (policy : SyncPolicy) : Depot.Mode Located := policy

def InMemory.choose (_ : SyncPolicy) : Depot.Mode InMemory := ()

namespace Stage

/-- The path leads to a file with the bytes that memory holds, or the journals
are the same but for their media. -/
inductive Matches : Stage Located OpenFile → Stage InMemory InMemory → Prop
  | resting {located : Located} {m : InMemory} :
      located.disk.file? located.path = some m.bytes → Matches (resting located) (resting m)
  | running {j : Journal OpenFile} {k : Journal InMemory} :
      j.Mirrored OpenFile.Images k → Matches (running j) (running k)

variable {stage : Stage Located OpenFile} {stage' : Stage InMemory InMemory}

theorem Matches.bytes_eq (h : stage.Matches stage') : stage.bytes = stage'.bytes := by
  cases h with
  | resting hfile => exact congrArg (Option.getD · []) hfile
  | running hsame =>
      obtain ⟨m, himages, rfl⟩ := hsame
      rw [bytes, bytes, Journal.atop_medium]
      exact himages.bytes_eq

theorem Matches.cursor_eq {j : Journal OpenFile} (h : (Stage.running j).Matches stage') :
    j.medium.cursor = j.medium.bytes.length := by
  cases h with
  | running hsame =>
      obtain ⟨m, himages, -⟩ := hsame
      exact himages.cursor_eq

theorem Matches.place (h : stage.Matches stage') :
    stage.place.disk.file? stage.place.path = some stage'.place.bytes := by
  cases h with
  | resting hfile => exact hfile
  | running hsame => exact (hsame.drop OpenFile.images_mirrors).1.file?_eq

theorem Matches.start (h : stage.Matches stage') (policy : SyncPolicy) (settings : Settings)
    (supply : Supply) :
    Alike Matches (stage.act Located.choose (.start policy settings supply))
      (stage'.act InMemory.choose (.start policy settings supply)) := by
  obtain ⟨f, hfetch, himages⟩ := Located.fetch_of_file h.place policy
  have hfetch' : Depot.fetch stage'.place (InMemory.choose policy) = .ok stage'.place := rfl
  have hstart' := Journal.start_atop OpenFile.images_mirrors himages settings supply
  rw [Stage.act, Stage.act, Located.choose, hfetch, hfetch']
  dsimp only
  rw [hstart']
  cases hstart : Journal.start f settings supply with
  | mk result events =>
      cases result with
      | ok j =>
          have hmedium : j.medium = f := by
            rw [Journal.eq_fresh_of_start hstart]
            rfl
          exact ⟨rfl, .running ⟨stage'.place, hmedium ▸ himages, rfl⟩⟩
      | error failure => exact ⟨rfl, .resting himages.file?_eq⟩

/-- One act comes to the same, unless the file system fails in it. -/
theorem Matches.act (h : stage.Matches stage') (act : Act)
    (hcalm : ∀ error : MediumError, error.Systemic →
      (stage.act Located.choose act).1.failure? ≠ some (.io error)) :
    Alike Matches (stage.act Located.choose act) (stage'.act InMemory.choose act) := by
  cases act with
  | start policy settings supply => exact h.start policy settings supply
  | call request =>
      cases h with
      | resting hfile => exact ⟨rfl, .resting hfile⟩
      | running hsame =>
          rcases hsame.perform OpenFile.images_mirrors request with
            ⟨error, hsystemic, hfailed⟩ | ⟨hcall, hdest⟩
          · exact absurd (Journal.report_failure? hfailed) (hcalm error hsystemic)
          · exact ⟨congrArg Echo.reported (Journal.report_eq hcall hdest), .running hcall.after⟩
  | ask query =>
      cases h with
      | resting hfile => exact ⟨rfl, .resting hfile⟩
      | running hsame =>
          refine ⟨?_, .running hsame⟩
          exact congrArg (fun answer => Echo.reported (.asked query answer))
            (hsame.answer_eq query)
  | drop =>
      cases h with
      | resting hfile => exact ⟨rfl, .resting hfile⟩
      | running hsame =>
          obtain ⟨himages, htold⟩ := hsame.drop OpenFile.images_mirrors
          exact ⟨congrArg Echo.dropped htold, .resting himages.file?_eq⟩

theorem Matches.acts (h : stage.Matches stage') (acts : List Act)
    (hcalm : ∀ echo ∈ (stage.acts Located.choose acts).1, ∀ error : MediumError,
      error.Systemic → echo.failure? ≠ some (.io error)) :
    Alike Matches (stage.acts Located.choose acts) (stage'.acts InMemory.choose acts) := by
  induction acts generalizing stage stage' with
  | nil => exact ⟨rfl, h⟩
  | cons act acts ih =>
      rw [acts_cons] at hcalm
      obtain ⟨hfirst, hothers⟩ := List.forall_mem_cons.mp hcalm
      obtain ⟨hecho, hnext⟩ := h.act act hfirst
      obtain ⟨hechoes, hlast⟩ := ih hnext hothers
      rw [acts_cons, acts_cons, hecho, hechoes]
      exact ⟨rfl, hlast⟩

end Stage

/-- **Nobody can tell a file from memory.**  Take a path that leads to a file, and
memory that holds the bytes of that file.  Whatever a client does, in as many
sessions as it likes, comes to the same over both as long as the file system
does not fail, and leaves the same bytes; and so does whatever is called on
the two media.  The cursor of the file stays at its end. -/
theorem Located.interchangeable {located : Located} {bytes : Bytes}
    (hfile : located.disk.file? located.path = some bytes) :
    (∀ acts : List Act,
      let filed := Stage.acts Located.choose (.resting located) acts
      let remembered := Stage.acts InMemory.choose (.resting (.holding bytes)) acts
      (∀ echo ∈ filed.1, ∀ error : MediumError, error.Systemic →
          echo.failure? ≠ some (.io error)) →
        filed.1 = remembered.1 ∧ filed.2.bytes = remembered.2.bytes ∧
          ∀ j : Journal OpenFile, filed.2 = .running j →
            j.medium.cursor = j.medium.bytes.length) ∧
    ∀ policy : SyncPolicy, ∃ f : OpenFile,
      Depot.fetch located (Located.choose policy) = .ok f ∧ ∀ calls : List Medium.Call,
        let filed := Medium.answers f calls
        let remembered := Medium.answers (InMemory.holding bytes) calls
        (∀ error : MediumError, error.Systemic → .delivered (.failed error) ∉ filed.1) →
          filed.1 = remembered.1 ∧ filed.2.bytes = remembered.2.bytes ∧
            filed.2.cursor = filed.2.bytes.length := by
  have hmatches : (Stage.resting located).Matches (.resting (.holding bytes)) := .resting hfile
  refine ⟨?_, ?_⟩
  · intro acts filed remembered hcalm
    obtain ⟨hechoes, hlast⟩ := hmatches.acts acts hcalm
    refine ⟨hechoes, hlast.bytes_eq, ?_⟩
    intro j hj
    have hrunning : (Stage.running j).Matches remembered.2 := hj ▸ hlast
    exact hrunning.cursor_eq
  · intro policy
    have hbytes : located.disk.file? located.path = some (InMemory.holding bytes).bytes := hfile
    obtain ⟨f, hfetch, himages⟩ := Located.fetch_of_file hbytes policy
    refine ⟨f, hfetch, ?_⟩
    intro calls filed remembered hcalm
    obtain ⟨hanswers, hlast⟩ := OpenFile.images_mirrors.answers himages calls hcalm
    exact ⟨hanswers, hlast.bytes_eq, hlast.cursor_eq⟩

/-- Two sessions, of which the first is closed and the second dropped with a
byte in its tail. -/
def twoSessions : List Act :=
  [.start .dataOnly { capacity := 4, bound := 3 } .heap, .call (.write [1, 2]),
    .call (.write [3, 4]), .ask .tally, .call .close, .drop,
    .start .dataAndMetadata {} .heap, .call (.write [5]), .ask .position, .drop]

def ledgerFile : OpenFile :=
  { disk := ledger.disk, path := ledger.path, place := ["ledger"], cursor := 1 }

/-- Calls on the medium itself, with reads at its end and past it. -/
def direct : List Medium.Call :=
  [.append [1], .readAt 0 5, .readAt 7 1, .sync, .position]

/-- The file system fails in neither. -/
theorem ledger_interchangeable :
    let filed := Stage.acts Located.choose (.resting ledger) twoSessions
    let remembered := Stage.acts InMemory.choose (.resting (.holding [9])) twoSessions
    (filed.1 = remembered.1 ∧ filed.2.bytes = [9, 1, 2, 3, 4, 5]) ∧
      (Medium.answers ledgerFile direct).1 = (Medium.answers (InMemory.holding [9]) direct).1 ∧
        (Medium.answers ledgerFile direct).2.cursor = 2 := by
  intro filed remembered
  have hfile : ledger.disk.file? ledger.path = some [9] := by decide
  have hechoed : ∀ echo ∈ filed.1, echo.failure? = none := by decide +kernel
  have hspared : ∀ echo ∈ filed.1, ∀ error : MediumError, error.Systemic →
      echo.failure? ≠ some (.io error) := by
    intro echo hmem error _ hfailed
    cases (hechoed echo hmem).symm.trans hfailed
  have hanswered : (Medium.answers ledgerFile direct).1 =
      [.accepted (.ok ()), .delivered (.bytes [9, 1]), .delivered (.bytes []),
        .accepted (.ok ()), .count 2] := rfl
  have hspared' : ∀ error : MediumError, error.Systemic →
      .delivered (.failed error) ∉ (Medium.answers ledgerFile direct).1 := by
    intro error _
    rw [hanswered]
    simp
  obtain ⟨hacts, hcalls⟩ := Located.interchangeable hfile
  obtain ⟨hechoes, hbytes, -⟩ := hacts twoSessions hspared
  obtain ⟨f, hfetch, hdirect⟩ := hcalls .dataOnly
  have hopening : Depot.fetch ledger (Located.choose .dataOnly) = .ok ledgerFile :=
    congrArg Prod.fst (OpenFile.opening_of_file hfile .dataOnly)
  obtain rfl : ledgerFile = f := Except.ok.inj (hopening.symm.trans hfetch)
  obtain ⟨hsame, -, hcursor⟩ := hdirect direct hspared'
  exact ⟨⟨hechoes, hbytes⟩, hsame, hcursor⟩

end WriteBack
