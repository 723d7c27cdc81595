/-
# Fault-free use — journals on a medium alone

On a steady medium with no screen before it nothing is ever stopped.  A write
then succeeds whenever the journal has a buffer, and a failed write, which can
only be one without a buffer or after closing, adds nothing.  So what a run
accepts is what it *wrote*: the data of the writes that succeeded.  With a
buffer this is everything that was *offered*.

A journal *holds* a stream if it carries it or, once it is closed, its medium
has all of it.  Shutting a journal down, by closing or by dropping it, leaves
a medium that has the whole stream and nothing else.
-/
import WriteBack.Proofs.Hereditary
import WriteBack.Proofs.Reading

namespace WriteBack

open Faithful (contents Undisturbed Addressable)

theorem Live.write_ok {β : Type} [Medium β] [Steady β] {j : Live β} {buffer : Buffer}
    (hbuffer : j.buffer = .ok buffer) (data : Bytes) : (j.write data).result = .ok () := by
  by_cases hdata : data = []
  · rw [hdata, write_nil hbuffer]
    rfl
  · exact write_result hbuffer hdata

namespace Journal

/-! ## What was offered, and what was written -/

/-- The data that a step offered, whatever came of it. -/
def Report.offered : Report → List Bytes
  | called (.write data) _ _ _ => [data]
  | _ => []

def offered (history : List Report) : List Bytes := history.flatMap Report.offered

@[simp] theorem offered_concat (history : List Report) (last : Report) :
    offered (history ++ [last]) = offered history ++ last.offered := by
  simp [offered]

/-- The bytes that a step wrote with success. -/
def Report.written : Report → Bytes
  | called (.write data) (.ok _) _ _ => data
  | _ => []

def written (history : List Report) : Bytes := history.flatMap Report.written

@[simp] theorem written_concat (history : List Report) (last : Report) :
    written (history ++ [last]) = written history ++ last.written := by
  simp [written]

/-! ## Nothing is stopped -/

section Steady

variable {β : Type} [Medium β] [Steady β]

/-- What a call adds to the stream is what it wrote with success. -/
theorem report_accepted (j : Journal β) (request : Request) :
    (j.report request).accepted = (j.report request).written := by
  cases request with
  | write data =>
      cases j with
      | closed settings medium => rfl
      | live state =>
          show (Report.called (.write data) ((state.write data).result.map _) _ _).accepted =
            (Report.called (.write data) ((state.write data).result.map _) _ _).written
          cases hbuffer : state.buffer with
          | error shortage =>
              rw [Live.write_of_shortage hbuffer]
              rfl
          | ok buffer =>
              rw [Live.write_ok hbuffer]
              rfl
  | flush syncing => rfl
  | forceWrite => rfl
  | read dest position length => rfl
  | close => rfl

theorem Reached.accepted_eq_written {base : β} {history : List Report} {j : Journal β}
    (h : Reached base history j) : accepted history = written history := by
  induction h with
  | opened => rfl
  | called request _ ih => rw [accepted_concat, written_concat, ih, report_accepted]
  | asked query _ ih => rw [accepted_concat, written_concat, ih]; rfl
  | meddled _ _ ih => exact ih

theorem report_written {j : Live β} {buffer : Buffer} (hbuffer : j.buffer = .ok buffer)
    (request : Request) :
    ((live j).report request).written = ((live j).report request).offered.flatten := by
  cases request with
  | write data =>
      show (Report.called (.write data) ((j.write data).result.map _) _ _).written = [data].flatten
      rw [Live.write_ok hbuffer, List.flatten_singleton]
      rfl
  | flush syncing => rfl
  | forceWrite => rfl
  | read dest position length => rfl
  | close => rfl

theorem Reached.written_eq_offered {base : β} {history : List Report} {j : Journal β}
    (h : Reached base history j) :
    ∀ (state : Live β) (buffer : Buffer), j = live state → state.buffer = .ok buffer →
      written history = (offered history).flatten := by
  induction h with
  | opened =>
      intro _ _ _ _
      rfl
  | called request _ ih =>
      intro state buffer hstate hbuffer
      obtain ⟨before, outcome, rfl, rfl, hturned⟩ := live_of_perform hstate
      obtain ⟨kept, hkept : before.buffer = .ok kept⟩ := hturned.buffer_before hbuffer
      rw [written_concat, offered_concat, List.flatten_append, ih before kept rfl hkept,
        report_written hkept]
  | asked query _ ih =>
      intro state buffer hstate hbuffer
      rw [written_concat, offered_concat, List.flatten_append, ih state buffer hstate hbuffer]
      rfl
  | @meddled history j medium _ hmeddled ih =>
      intro state buffer hstate hbuffer
      cases hmeddled
      cases j with
      | closed settings old => exact nomatch hstate
      | live before =>
          cases hstate
          exact ih before buffer rfl hbuffer

end Steady

end Journal

/-! ## Holding a stream until the end -/

section Holds

variable {β : Type} [Medium β] [Faithful β] {stream : Bytes}

theorem Live.Carries.lastFlush_contents {j : Live β} (h : j.Carries stream) :
    contents j.lastFlush.after.medium = stream := by
  rw [Live.lastFlush_after]
  exact h.flush.contents_of_nil (Live.flush_held j)

theorem Live.Carries.drop_contents {j : Live β} (h : j.Carries stream) :
    contents j.drop.1 = stream := by
  rw [Live.drop_fst]
  split
  · next hexposed =>
      apply h.contents_of_nil
      exact List.length_eq_zero_iff.mp (Nat.add_eq_zero_iff.mp hexposed).2
  · rw [Live.flushAnd_true]
    apply h.flush.sync.contents_of_nil
    rw [Live.sync_held, Live.flush_held]

namespace Journal

/-- A live journal that carries the stream, or a closed one whose medium has
all of it. -/
def Holds (stream : Bytes) : Journal β → Prop
  | live j => j.Carries stream
  | closed _ medium => contents medium = stream

/-- One call holds the stream, longer by what the call wrote. -/
theorem Holds.perform {j : Journal β} (h : j.Holds stream) (request : Request) :
    (j.perform request).1.after.Holds (stream ++ (j.report request).written) := by
  cases j with
  | closed settings medium =>
      have hwritten : ((closed settings medium).report request).written = [] := by
        cases request <;> rfl
      rw [perform_closed, hwritten, List.append_nil]
      exact h
  | live state =>
      by_cases hrequest : request = .close
      · subst hrequest
        exact h.lastFlush_contents.trans (List.append_nil _).symm
      · obtain ⟨outcome, hperform, -⟩ := perform_turned state hrequest
        have hcarries := Carries.perform_after (j := live state) h request
        rw [report_accepted, hperform] at hcarries
        rw [hperform]
        exact hcarries

theorem Holds.drop {j : Journal β} (h : j.Holds stream) : contents j.drop.1 = stream := by
  cases j with
  | live state => exact h.drop_contents
  | closed settings medium => exact h

theorem read_of_carries {j : Live β} (h : j.Carries stream)
    (hfits : Addressable j.medium) (dest : Bytes) (position length : Int64) :
    (((live j).read dest position length).1.result, ((live j).read dest position length).2) =
      stream.serve dest position length :=
  Live.Carries.read_served (j := j) h (Faithful.serves hfits) rfl dest position length

inductive Ending where
  | close
  | drop
deriving DecidableEq, Repr

/-- The medium that is left when a journal has been shut down so. -/
def endedBy (j : Journal β) : Ending → β
  | .close => j.close.after.drop.1
  | .drop => j.drop.1

theorem Holds.endedBy {j : Journal β} (h : j.Holds stream) (ending : Ending) :
    contents (j.endedBy ending) = stream := by
  cases ending with
  | close => exact (h.perform .close).drop.trans (List.append_nil _)
  | drop => exact h.drop

end Journal

end Holds

end WriteBack
