/-
# Buffers — room for bytes that have not reached the medium yet

A buffer has a fixed room and holds some bytes in it.  Buffers come from a
supply, which may have none to give: a supply is the function that answers a
request for so many bytes of room.
-/
import WriteBack.Bytes

namespace WriteBack

/-- Why no buffer was to be had. -/
inductive Shortage.Reason where
  | outOfMemory
  | beyondAddressing
  | noBuffers
  | described (text : String)
deriving DecidableEq, Repr

def Shortage.Reason.message : Shortage.Reason → String
  | outOfMemory => "memory allocation failed because the memory allocator returned an error"
  | beyondAddressing =>
    "memory allocation failed because the computed capacity exceeded the collection's maximum"
  | noBuffers => "allocator has no buffers"
  | described text => text

/-- A buffer of `requested` bytes that was not to be had. -/
structure Shortage where
  requested : Nat
  reason : Shortage.Reason
deriving DecidableEq, Repr

def Shortage.message (shortage : Shortage) : String :=
  "failed to allocate " ++ toString shortage.requested ++ " byte buffer: " ++
    shortage.reason.message

/-- Room for bytes, and the bytes in it. -/
structure Buffer where
  room : Nat
  held : Bytes := []
deriving DecidableEq, Repr

/-- Where buffers come from: asked for room, a supply answers with an empty
buffer or with the reason why it has none. -/
abbrev Supply := Nat → Except Shortage Buffer

namespace Supply

/-- The largest size of a single object, in bytes. -/
def largestObject : Nat := Nat.pow 2 63 - 1

/-- The bytes that a process can address. -/
def addressable : Nat := Nat.pow 2 47

/-- Buffers on the heap: whatever can be addressed is there. -/
def heap : Supply := fun room =>
  if largestObject < room then .error ⟨room, .beyondAddressing⟩
  else if addressable ≤ room then .error ⟨room, .outOfMemory⟩
  else .ok ⟨room, []⟩

/-- A supply that never has a buffer. -/
def exhausted : Supply := fun room => .error ⟨room, .noBuffers⟩

end Supply

end WriteBack
