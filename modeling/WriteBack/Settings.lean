/-
# Settings — how much a journal may hold back

Two numbers govern a journal: the capacity of its write buffer, and the
bound on the bytes that no sync has covered yet.  Both are signed words, as
they are written in configuration files: a negative capacity is refused when
a journal is opened, a bound that is not positive switches forced syncs off.
-/
namespace WriteBack

/-- The settings of a journal, in bytes. -/
structure Settings where
  capacity : Int64 := 65536
  bound : Int64 := 0
deriving DecidableEq, Repr

/-- Why settings are refused. -/
inductive SettingsError where
  | negativeCapacity (capacity : Int64)
  | capacityTooLarge (capacity : Int64)
deriving DecidableEq, Repr

def SettingsError.message : SettingsError → String
  | negativeCapacity capacity =>
    "Write capacity must be non-negative, got " ++ toString capacity
  | capacityTooLarge capacity =>
    "Write capacity " ++ toString capacity ++ " exceeds addressable memory"

namespace Settings

/-- Settings with a buffer small enough that tests cross its edge. -/
def forTesting : Settings := { capacity := 64 }

/-- Whether the settings can be used.  A capacity is a signed word of 64
bits, so that one which is not negative can always be addressed, and
`SettingsError.capacityTooLarge` does not arise here. -/
def validate (settings : Settings) : Except SettingsError Unit :=
  if settings.capacity < 0 then .error (.negativeCapacity settings.capacity) else .ok ()

/-- Whether writes can force a sync. -/
def syncsForced (settings : Settings) : Bool :=
  0 < settings.bound

/-- The capacity as a count of bytes; zero for settings that `validate`
refuses. -/
def room (settings : Settings) : Nat :=
  settings.capacity.toInt.toNat

/-- The compact written form: both fields, in this order, no blanks. -/
def written (settings : Settings) : String :=
  "\x7b\"write_capacity\":" ++ toString settings.capacity ++
    ",\"unpersisted_bytes_bound\":" ++ toString settings.bound ++ "\x7d"

end Settings

end WriteBack
