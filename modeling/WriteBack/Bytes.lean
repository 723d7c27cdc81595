/-
# Bytes — finite strings of octets, and writing one over another

Everything a journal keeps is a finite string of bytes.  Besides the list
operations three are needed: cutting a stretch out, laying bytes over the
front of a destination, and overwriting a stretch in the middle of a file.
None of them loses a byte outside the stretch it names.
-/
namespace WriteBack

/-- A finite string of bytes. -/
abbrev Bytes := List UInt8

namespace Bytes

/-- At most `count` bytes from `offset` on; fewer, or none, where the
string ends. -/
def slice (bytes : Bytes) (offset count : Nat) : Bytes :=
  (bytes.drop offset).take count

/-- `dest` with its first bytes replaced by `front`. -/
def overlay (dest front : Bytes) : Bytes :=
  front ++ dest.drop front.length

def zeros (count : Nat) : Bytes :=
  List.replicate count 0

/-- `old` with `data` written over it from `offset` on.  A gap between the
end of `old` and `offset` fills with zeros; writing nothing changes nothing,
wherever it is written. -/
def overwriteAt (old : Bytes) (offset : Nat) (data : Bytes) : Bytes :=
  if data.isEmpty then old
  else
    old.take offset ++ zeros (offset - old.length) ++ data ++
      old.drop (offset + data.length)

/-- `bytes` cut or zero-extended to length `size`. -/
def resize (bytes : Bytes) (size : Nat) : Bytes :=
  bytes.take size ++ zeros (size - bytes.length)

/-! ## Each operation keeps what it does not name -/

theorem length_slice_le (bytes : Bytes) (offset count : Nat) :
    (bytes.slice offset count).length ≤ count :=
  List.length_take_le _ _

@[simp] theorem overlay_nil (dest : Bytes) : dest.overlay [] = dest := rfl

@[simp] theorem overwriteAt_nil (old : Bytes) (offset : Nat) :
    old.overwriteAt offset [] = old := rfl

@[simp] theorem length_resize (bytes : Bytes) (size : Nat) :
    (bytes.resize size).length = size := by
  simp only [resize, zeros, List.length_append, List.length_take, List.length_replicate]
  omega

theorem overwriteAt_length (old data : Bytes) :
    old.overwriteAt old.length data = old ++ data := by
  cases data with
  | nil => simp
  | cons b bs => simp [overwriteAt, zeros]

end Bytes

end WriteBack
