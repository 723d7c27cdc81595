/-
# Events — what a journal tells its operator

Opening, flushing, forcing a sync and closing are told as events, in the
order in which they happen.  An event is a value; its level, its message and
its named fields are read off it, so that the whole log can be replayed.
-/
import WriteBack.Failure

namespace WriteBack

/-- Something worth telling about a journal. -/
inductive Event where
  | openedFile (path : String) (cursor : Nat)
  | noBuffer (shortage : Shortage)
  | openedJournal (position capacity : Nat) (bound : Int64)
  | flushed (bytes boundary : Nat)
  | wroteThrough (bytes boundary : Nat)
  | forcedSync (unsynced : Nat) (bound : Int64)
  | closed (position : Nat)
  | lostOnClose (failure : Failure) (lost : Nat)
  | failedOnDrop (failure : Failure)
deriving DecidableEq, Repr

namespace Event

/-- How much an event matters. -/
inductive Level where
  | trace
  | debug
  | info
  | warn
deriving DecidableEq, Repr

/-- The value of an event's field. -/
inductive Field where
  | number (value : Int)
  | text (value : String)
deriving DecidableEq, Repr

/-- How much the event matters: what went wrong warns, what happens once in
the life of a journal informs, the rest is for debugging. -/
def level : Event → Level
  | openedFile _ _ | openedJournal _ _ _ | closed _ => .info
  | noBuffer _ | lostOnClose _ _ | failedOnDrop _ => .warn
  | wroteThrough _ _ | forcedSync _ _ => .debug
  | flushed _ _ => .trace

def message : Event → String
  | openedFile _ _ => "Opened journal file"
  | noBuffer _ => "Write buffer allocation failed"
  | openedJournal _ _ _ => "Opened buffered channel"
  | flushed _ _ => "Flushed write buffer"
  | wroteThrough _ _ => "Wrote straight through"
  | forcedSync _ _ => "Forced sync after write"
  | closed _ => "Closed buffered channel"
  | lostOnClose _ _ => "Flush on close failed"
  | failedOnDrop _ => "Flush on drop failed"

def fields : Event → List (String × Field)
  | openedFile path cursor => [("path", .text path), ("cursor", .number cursor)]
  | noBuffer shortage => [("error", .text shortage.message)]
  | openedJournal position capacity bound =>
    [("position", .number position), ("write_capacity", .number capacity),
      ("unpersisted_bytes_bound", .number bound.toInt)]
  | flushed bytes boundary | wroteThrough bytes boundary =>
    [("bytes", .number bytes), ("flushed", .number boundary)]
  | forcedSync unsynced bound =>
    [("unsynced", .number unsynced), ("bound", .number bound.toInt)]
  | closed position => [("position", .number position)]
  | lostOnClose failure lost => [("error", .text failure.message), ("lost", .number lost)]
  | failedOnDrop failure => [("error", .text failure.message)]

end Event

end WriteBack
