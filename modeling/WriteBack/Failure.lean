/-
# Failures — why a call on a journal did not succeed

Every failure is a cause, and each cause has one wording.  Callers who only
want to know what kind of trouble they are in ask for the `kind`: an argument
that no journal would take, bytes that are not there, a fault of the medium,
a missing write buffer, or a journal that is closed.
-/
import WriteBack.Buffer
import WriteBack.Medium
import WriteBack.Settings

namespace WriteBack

/-- An argument that no journal would take. -/
inductive BadArgument where
  | negativePosition (position : Int64)
  | negativeLength (length : Int64)
  | beyondEnd (position logicalEnd : Nat)
  | settings (error : SettingsError)
  | described (text : String)
deriving DecidableEq, Repr

def BadArgument.message : BadArgument → String
  | negativePosition position => "negative read position " ++ toString position
  | negativeLength length => "negative read length " ++ toString length
  | beyondEnd position logicalEnd =>
    "read position " ++ toString position ++ " is beyond logical end " ++ toString logicalEnd
  | settings error => error.message
  | described text => text

/-- Why a call on a journal failed. -/
inductive Failure where
  | invalidArgument (why : BadArgument)
  | destinationTooSmall (required available : Nat)
  | underflow (position length logicalEnd : Nat)
  | shortRead (offset wanted got : Nat)
  | bufferUnavailable (shortage : Shortage)
  | io (error : MediumError)
  | closed
deriving DecidableEq, Repr

/-- The coarse kind of a failure. -/
inductive Failure.Kind where
  | invalidArgument
  | range
  | io
  | unavailable
  | closed
deriving DecidableEq, Repr

namespace Failure

/-- The kind of a failure: bytes that are not there are a matter of range,
wherever they are missing. -/
def kind : Failure → Kind
  | invalidArgument _ | destinationTooSmall _ _ => .invalidArgument
  | underflow _ _ _ | shortRead _ _ _ => .range
  | bufferUnavailable _ => .unavailable
  | io _ => .io
  | closed => .closed

def message : Failure → String
  | invalidArgument why => "Invalid argument: " ++ why.message
  | destinationTooSmall required available =>
    "Destination too small: need " ++ toString required ++ " bytes, have " ++ toString available
  | underflow position length logicalEnd =>
    "Read past end: [" ++ toString position ++ ", " ++ toString position ++ "+" ++
      toString length ++ ") exceeds logical end " ++ toString logicalEnd
  | shortRead offset wanted got =>
    "Short read at offset " ++ toString offset ++ ": wanted " ++ toString wanted ++
      " bytes, got " ++ toString got
  | bufferUnavailable shortage => "Write buffer unavailable: " ++ shortage.message
  | io error => "I/O error: " ++ error.message
  | closed => "Channel closed"

/-- The text of the failure underneath, for the failures that pass one on. -/
def source : Failure → Option String
  | bufferUnavailable shortage => some shortage.message
  | io error => some error.message
  | _ => none

end Failure

end WriteBack
