/-
# Paths — names of places on a disk, as they are written

A path is what stands between the slashes of its text.  Empty segments and
single dots name nothing by themselves, but they matter for what a path
demands: `a/` and `a/.` name the place `a` and insist that it is a
directory.  Paths here are relative and do not step upward.

The ancestors of a path are read off its text: cut segments off the end
until the next segment that names something, and again.  A dot that begins
the path counts as a place of its own.
-/
namespace WriteBack

/-- A path, as the segments between the slashes of its text. -/
structure Path where
  segments : List String
deriving DecidableEq, Repr

namespace Path

/-- The stretches of a text between its slashes; there is always one. -/
def split : List Char → List (List Char)
  | [] => [[]]
  | '/' :: rest => [] :: split rest
  | c :: rest =>
    match split rest with
    | [] => [[c]]
    | segment :: segments => (c :: segment) :: segments

/-- Reads a path from its text. -/
def ofString (text : String) : Path :=
  ⟨(split text.toList).map String.ofList⟩

def text (path : Path) : String :=
  "/".intercalate path.segments

/-- Whether a segment names nothing by itself. -/
def idle (segment : String) : Bool :=
  segment == "" || segment == "."

/-- The names along the path, from the root of the disk. -/
def names (path : Path) : List String :=
  path.segments.filter fun segment => !idle segment

/-- The path and its ancestors, longest first, from its segments in reverse
order. -/
def lineage : List String → List Path
  | [] => []
  | segment :: above =>
    if segment == "" || segment == "." && !above.isEmpty then lineage above
    else ⟨(segment :: above).reverse⟩ :: lineage above

/-- The directories that a path lies in, nearest first. -/
def ancestors (path : Path) : List Path :=
  (lineage path.segments.reverse).tail

/-! ## The place that a path ends in -/

/-- How a path ends: the segments that lead to its last one, the last one,
and whether slashes follow it. -/
structure Ending where
  leading : List String
  last : String
  slash : Bool
deriving DecidableEq, Repr

def ending (path : Path) : Ending :=
  let backward := path.segments.reverse
  match backward.dropWhile (· == "") with
  | [] => ⟨[], "", true⟩
  | last :: leading => ⟨leading.reverse, last, backward.head? == some ""⟩

end Path

end WriteBack
