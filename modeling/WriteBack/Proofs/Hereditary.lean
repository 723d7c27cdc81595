/-
# Hereditary properties — what every journal keeps because its moves do

A journal changes by five moves only: it flushes its tail, syncs, writes data
through, lets data join the tail, and counts a write.  A property of bare
journals that each of these keeps is *hereditary*, and whatever happens to a
journal keeps it: every call, whether it succeeds or is stopped somewhere,
closing and dropping, and what is done to the screen.

A closed journal has no state left beside its medium.  What is kept of it is
that the property held when it was closed (`Keeps`), which is enough for
properties of the medium.
-/
import WriteBack.Proofs.Calls

namespace WriteBack

namespace Live

section Hereditary

variable {β : Type} [Medium β]

/-- A property that every move of a journal keeps.  Data is written through
only past an empty tail, and joins the tail only where it fits. -/
structure Hereditary (I : Live β → Prop) : Prop where
  flush {j : Live β} : I j → I j.flush.after
  sync {j : Live β} : I j → I j.sync.after
  writeThrough {j : Live β} {data : Bytes} : j.held = [] → j.settings.room < data.length →
    I j → I (j.writeThrough data).after
  withHeld {j : Live β} {buffer : Buffer} {data : Bytes} : j.buffer = .ok buffer →
    j.held.length + data.length ≤ j.settings.room → I j → I (j.withHeld (j.held ++ data))
  counted {j : Live β} (count : Nat) : I j → I (j.counted count)

variable {I : Live β → Prop} {j : Live β}

theorem Hereditary.roomy (hI : Hereditary I) (h : I j) (count : Nat) : I (j.roomy count) := by
  rcases roomy_cases j count with ⟨-, -, hroomy⟩ | ⟨-, hroomy⟩
  · rw [hroomy]
    exact hI.flush h
  · rwa [hroomy]

variable [Steady β]

theorem roomy_fits {count : Nat} (hle : count ≤ j.settings.room) :
    (j.roomy count).held.length + count ≤ (j.roomy count).settings.room := by
  rw [roomy_settings]
  rcases roomy_cases j count with ⟨-, -, hroomy⟩ | ⟨hheld | hfits, hroomy⟩
  · rw [hroomy, flush_held]
    simpa using hle
  · rw [hroomy, hheld]
    simpa using hle
  · rwa [hroomy]

variable {buffer : Buffer} {data : Bytes}

theorem Hereditary.placed (hI : Hereditary I) (h : I j) (hbuffer : j.buffer = .ok buffer)
    (data : Bytes) : I (j.placed data) := by
  have hroomy := hI.roomy h data.length
  by_cases hlt : j.settings.room < data.length
  · rw [placed_of_lt hlt]
    exact hI.writeThrough (roomy_held_of_lt hlt) (by rwa [roomy_settings]) hroomy
  · have hle := Nat.le_of_not_lt hlt
    obtain ⟨left, hleft⟩ := roomy_buffer hbuffer data.length
    rw [placed_of_le hle]
    exact hI.withHeld hleft (roomy_fits hle) hroomy

theorem Hereditary.storing (hI : Hereditary I) (h : I j) (hbuffer : j.buffer = .ok buffer)
    (data : Bytes) : I (j.storing data).after := by
  rw [storing_eq]
  exact hI.counted _ (hI.flush (hI.placed h hbuffer data))

theorem Hereditary.landing (hI : Hereditary I) (h : I j) (hbuffer : j.buffer = .ok buffer)
    (hdata : data ≠ []) {outcome : Outcome (Live β) Unit} (hland : Landing j data outcome) :
    I outcome.after := by
  cases hland with
  | through =>
      rw [write_after hbuffer hdata]
      split
      · exact hI.sync (hI.storing h hbuffer data)
      · exact hI.counted _ (hI.placed h hbuffer data)
  | untouched => exact h
  | afterFlush => exact hI.flush h
  | undurable => exact hI.storing h hbuffer data

theorem Hereditary.flushing (hI : Hereditary I) (h : I j) {syncing : Bool}
    {outcome : Outcome (Live β) Unit} (hflush : Flushing j syncing outcome) :
    I outcome.after := by
  cases hflush with
  | through =>
      cases syncing with
      | false =>
          rw [flushAnd_false]
          exact hI.flush h
      | true =>
          rw [flushAnd_true]
          exact hI.sync (hI.flush h)
  | untouched => exact h
  | undurable => exact hI.flush h

/-- Whatever a call comes to, it keeps the property. -/
theorem Hereditary.turned (hI : Hereditary I) (h : I j) {request : Journal.Request}
    {outcome : Outcome (Live β) Journal.Reply} (hturned : Turned j request outcome) :
    I outcome.after := by
  cases hturned with
  | refused => exact h
  | idle => exact h
  | landed hbuffer hdata hland => exact hI.landing h hbuffer hdata hland
  | flushed hflush => exact hI.flushing h hflush
  | forced hflush => exact hI.flushing h hflush
  | served => exact h

end Hereditary

/-! ## Properties that are hereditary -/

section Instances

variable {β : Type} [Medium β] [Steady β]

theorem hereditary_settings (settings : Settings) :
    Hereditary fun j : Live β => j.settings = settings where
  flush h := (flush_settings _).trans h
  sync h := by rwa [sync_eq]
  writeThrough _ _ h := by rwa [writeThrough_eq]
  withHeld _ _ h := h
  counted _ h := h

theorem hereditary_shortage (shortage : Shortage) :
    Hereditary fun j : Live β => j.buffer = .error shortage where
  flush {j} h := by
    by_cases hheld : j.held = []
    · rwa [flush_of_nil hheld]
    · rw [flush_of_ne_nil hheld]
      exact congrArg (Except.map _) h
  sync h := by rwa [sync_eq]
  writeThrough _ _ h := by rwa [writeThrough_eq]
  withHeld hbuffer _ h := nomatch hbuffer.symm.trans h
  counted _ h := h

theorem Turned.buffer_before {j : Live β} {request : Journal.Request}
    {outcome : Outcome (Live β) Journal.Reply} (hturned : Turned j request outcome)
    {buffer : Buffer} (hbuffer : outcome.after.buffer = .ok buffer) :
    ∃ kept, j.buffer = .ok kept := by
  cases hkept : j.buffer with
  | ok kept => exact ⟨kept, rfl⟩
  | error shortage =>
      have hlost := (hereditary_shortage shortage).turned hkept hturned
      exact nomatch hbuffer.symm.trans hlost

theorem hereditary_medium {P : β → Prop}
    (happend : ∀ (m : β) (data : Bytes), P m → P (Medium.append m data).2)
    (hsync : ∀ m : β, P m → P (Medium.sync m).2) :
    Hereditary fun j : Live β => P j.medium where
  flush {j} h := by
    by_cases hheld : j.held = []
    · rwa [flush_of_nil hheld]
    · rw [flush_of_ne_nil hheld]
      exact happend _ _ h
  sync h := by
    rw [sync_eq]
    exact hsync _ h
  writeThrough _ _ h := by
    rw [writeThrough_eq]
    exact happend _ _ h
  withHeld _ _ h := h
  counted _ h := h

end Instances

end Live

namespace Journal

open Live (Hereditary)

variable {σ β : Type} [Medium σ] [Medium β] [Screened σ β]

/-! ## Keeping a property through a run -/

/-- Beneath the screen the journal has the property, or had it when it was
closed. -/
def Keeps (I : Live β → Prop) : Journal σ → Prop
  | live j => I j.bare
  | closed _ medium => ∃ last : Live β, I last ∧ last.medium = Screened.base medium

variable {I : Live β → Prop} {j : Journal σ}

theorem Keeps.medium {P : β → Prop} (h : j.Keeps fun last => P last.medium) :
    P (Screened.base j.medium) := by
  cases j with
  | live state => exact h
  | closed settings medium =>
      obtain ⟨last, hlast, hmedium⟩ := h
      exact hmedium ▸ hlast

theorem Keeps.meddled (h : j.Keeps I) {medium : σ}
    (hmeddled : Screened.Meddled j.medium medium) : (j.mapMedium fun _ => medium).Keeps I := by
  have hbase := Screened.base_of_meddled hmeddled
  cases j with
  | live state =>
      show I ({ state with medium } : Live σ).bare
      rw [Live.bare_of_base_eq state hbase]
      exact h
  | closed settings old =>
      obtain ⟨last, hlast, hmedium⟩ := h
      exact ⟨last, hlast, hmedium.trans hbase.symm⟩

theorem keeps_of_start {medium : σ} {settings : Settings} {supply : Supply}
    {events : List Event} (hI : I (.fresh (Screened.base medium) settings supply))
    (h : start medium settings supply = (.ok j, events)) : j.Keeps I := by
  rw [eq_fresh_of_start h]
  show I ⟨_, _, _, Medium.position medium, _, _⟩
  rw [Screened.position_eq medium]
  exact hI

variable [Steady β]

theorem Keeps.perform (hI : Hereditary I) (h : j.Keeps I) (request : Request) :
    (j.perform request).1.after.Keeps I := by
  cases j with
  | closed settings medium =>
      rw [perform_closed]
      exact h
  | live state =>
      by_cases hrequest : request = .close
      · subst hrequest
        have hlast : I state.lastFlush.after.bare := by
          rw [Live.lastFlush_after, ← Live.flushAnd_false]
          exact hI.flushing h (Live.flushAnd_ends state false)
        exact ⟨_, hlast, rfl⟩
      · obtain ⟨outcome, hperform, hturned⟩ := perform_turned state hrequest
        rw [hperform]
        exact hI.turned h hturned

theorem Keeps.drop (hI : Hereditary I) (h : j.Keeps I) :
    ∃ last : Live β, I last ∧ last.medium = Screened.base j.drop.1 := by
  cases j with
  | closed settings medium => exact h
  | live state =>
      show ∃ last, I last ∧ last.medium = Screened.base state.drop.1
      rw [Live.drop_fst]
      split
      · exact ⟨_, h, rfl⟩
      · exact ⟨_, hI.flushing h (Live.flushAnd_ends state true), rfl⟩

/-- What the moves keep and a fresh journal has, every journal has. -/
theorem Reached.keeps (hI : Hereditary I) {base : β}
    (hfresh : ∀ (settings : Settings) (supply : Supply), supply.Honest →
      I (.fresh base settings supply))
    {history : List Report} (h : Reached base history j) : j.Keeps I := by
  induction h with
  | opened hmedium hsupply hstart =>
      subst hmedium
      exact keeps_of_start (hfresh _ _ hsupply) hstart
  | called request _ ih => exact ih.perform hI request
  | asked query _ ih => exact ih
  | meddled _ hmeddled ih => exact ih.meddled hmeddled

end Journal

end WriteBack
