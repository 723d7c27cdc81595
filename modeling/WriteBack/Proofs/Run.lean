/-
# Runs — every state that a journal can be in

A run begins when a journal is opened over a screened medium.  From then on
clients call and ask, in any order, and between two steps somebody may meddle
with the screen.  `Reached base history j` says that some run over that base
has led to `j`; the history reports what every step came to.

Nobody else touches the base in a run: what meddling means is the screen's
affair, and it never reaches the base.  Neither the settings nor the supply
of buffers is restricted, except that a supply must keep its promise and hand
out buffers that are empty.
-/
import WriteBack.Journal
import WriteBack.Proofs.Screen

namespace WriteBack

/-- A supply that keeps its promise: the buffers it has are empty. -/
def Supply.Honest (supply : Supply) : Prop :=
  ∀ (room : Nat) (buffer : Buffer), supply room = .ok buffer → buffer.held = []

theorem Supply.heap_honest : Supply.heap.Honest := by
  intro room buffer h
  unfold heap at h
  split at h
  · exact nomatch h
  split at h
  · exact nomatch h
  · cases h
    rfl

theorem Supply.exhausted_honest : Supply.exhausted.Honest :=
  fun _ _ h => nomatch h

/-! ## A journal that has just been opened -/

section Fresh

variable {σ : Type} [Medium σ]

/-- The live journal that opening one makes. -/
def Live.fresh (medium : σ) (settings : Settings) (supply : Supply) : Live σ :=
  { settings, medium, buffer := supply settings.room, boundary := Medium.position medium }

theorem Live.fresh_held {supply : Supply} (hsupply : supply.Honest) (medium : σ)
    (settings : Settings) : (fresh medium settings supply).held = [] := by
  unfold held
  split
  · next hbuffer => exact hsupply _ _ hbuffer
  · rfl

theorem Journal.eq_fresh_of_start {medium : σ} {settings : Settings} {supply : Supply}
    {j : Journal σ} {events : List Event}
    (h : start medium settings supply = (.ok j, events)) :
    j = live (.fresh medium settings supply) := by
  unfold start at h
  split at h
  · exact nomatch h
  · cases h
    rfl

end Fresh

namespace Journal

/-! ## Asking -/

/-- What can be asked of a journal without changing it. -/
inductive Query where
  | position
  | size
  | flushedPosition
  | unsynced
  | heldCount
  | tally
  | isClosed
  | writeCapacity
  | settings
deriving DecidableEq, Repr

/-- What a question is answered with. -/
inductive Answer where
  | count (count : Nat)
  | tally (tally : Tally)
  | flag (flag : Bool)
  | settings (settings : Settings)
deriving DecidableEq, Repr

variable {σ : Type}

def answer (j : Journal σ) : Query → Except Failure Answer
  | .position => j.position.map .count
  | .size => j.size.map .count
  | .flushedPosition => j.flushedPosition.map .count
  | .unsynced => j.unsynced.map .count
  | .heldCount => j.heldCount.map .count
  | .tally => j.tally.map .tally
  | .isClosed => .ok (.flag j.isClosed)
  | .writeCapacity => .ok (.count j.writeCapacity)
  | .settings => .ok (.settings j.settings)

/-! ## What a step came to -/

/-- What one step of a run came to. -/
inductive Report where
  | opened (settings : Settings) (events : List Event)
  | called (request : Request) (result : Except Failure Reply) (dest : Bytes)
      (events : List Event)
  | asked (query : Query) (answer : Except Failure Answer)
deriving Repr

def report [Medium σ] (j : Journal σ) (request : Request) : Report :=
  let (outcome, dest) := j.perform request
  .called request outcome.result dest outcome.events

/-- What a write adds to the stream: its data if it succeeds or if only its
forced sync fails, and nothing if it fails in any other way. -/
def taken {α : Type} (data : Bytes) : Except Failure α → Bytes
  | .ok _ => data
  | .error failure => if failure = .io (.injected .sync) then data else []

@[simp] theorem taken_map {α γ : Type} (data : Bytes) (f : α → γ)
    (result : Except Failure α) : taken data (result.map f) = taken data result := by
  cases result with
  | ok value => rfl
  | error failure => rfl

/-- The bytes that a step added to the stream. -/
def Report.accepted : Report → Bytes
  | called (.write data) result _ _ => taken data result
  | _ => []

def accepted (history : List Report) : Bytes := history.flatMap Report.accepted

@[simp] theorem accepted_concat (history : List Report) (last : Report) :
    accepted (history ++ [last]) = accepted history ++ last.accepted := by
  simp [accepted]

/-! ## Reaching a state -/

variable {β : Type} [Medium σ] [Medium β] [Screened σ β]

/-- A journal over `base` that some run has led to, with the reports of its
steps, oldest first. -/
inductive Reached (base : β) : List Report → Journal σ → Prop
  | opened {medium : σ} {settings : Settings} {supply : Supply} {j : Journal σ}
      {events : List Event} : Screened.base medium = base → supply.Honest →
      start medium settings supply = (.ok j, events) →
      Reached base [.opened settings events] j
  | called {history : List Report} {j : Journal σ} (request : Request) :
      Reached base history j →
      Reached base (history ++ [j.report request]) (j.perform request).1.after
  | asked {history : List Report} {j : Journal σ} (query : Query) :
      Reached base history j →
      Reached base (history ++ [.asked query (j.answer query)]) j
  | meddled {history : List Report} {j : Journal σ} {medium : σ} :
      Reached base history j → Screened.Meddled j.medium medium →
      Reached base history (j.mapMedium fun _ => medium)

/-- Over panels, an operator may arm points and clear panels at any time. -/
theorem Reached.switched {base : β} {history : List Report} {j : Journal (Rigged β)}
    (h : Reached base history j) (layer : Nat) (switch : Rig.Switch) :
    Reached base history
      (j.mapMedium fun _ => j.medium.mapPanel layer switch.turn) :=
  h.meddled ⟨layer, switch, rfl⟩

end Journal

end WriteBack
