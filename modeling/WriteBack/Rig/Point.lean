/-
# Fault points — the calls on a medium that can be made to fail

A rigged medium fails chosen calls on demand.  What can be chosen is one of
four points: a positioned read may fail outright or deliver nothing, an
append may fail before writing, a sync may fail.
-/
namespace WriteBack.Rig

/-- A call on a medium that can be made to fail. -/
inductive Point where
  | readAt
  | shortRead
  | writeAppend
  | sync
deriving DecidableEq, Repr

namespace Point

/-- Every fault point, in the order in which they are listed to users. -/
def all : List Point := [readAt, shortRead, writeAppend, sync]

def description : Point → String
  | readAt => "positioned read fails"
  | shortRead => "positioned read returns no bytes"
  | writeAppend => "append fails before writing"
  | sync => "durable sync fails"

theorem mem_all (point : Point) : point ∈ all := by
  cases point <;> decide

end Point

end WriteBack.Rig
