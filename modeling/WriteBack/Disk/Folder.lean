/-
# Folders — what a directory holds

A folder is a list of names, each with a file or with a directory that holds
a folder of its own.  A name stands in it once: whoever looks it up finds the
first entry under it, and an entry that is put there takes the place of that
one.

A place is the list of names that lead to it from a folder down.  Following
it takes one step for each name, however much lies beside the way.
-/
import WriteBack.Bytes

namespace WriteBack

/-- What a directory holds: files and directories by name, and in every
directory a folder again. -/
inductive Folder where
  | empty
  | file (name : String) (bytes : Bytes) (others : Folder)
  | directory (name : String) (inside others : Folder)
deriving DecidableEq, Repr

/-- What there is under a name, or at a place. -/
inductive Entry where
  | file (bytes : Bytes)
  | directory (inside : Folder)
deriving DecidableEq, Repr

/-- A place in a folder: the names that lead to it. -/
abbrev Place := List String

namespace Folder

/-! ## Names -/

def get? : Folder → String → Option Entry
  | empty, _ => none
  | file known bytes others, name =>
    if known = name then some (.file bytes) else others.get? name
  | directory known inside others, name =>
    if known = name then some (.directory inside) else others.get? name

def cons (name : String) : Entry → Folder → Folder
  | .file bytes, others => file name bytes others
  | .directory inside, others => directory name inside others

/-- The folder with an entry under a name, in place of what was there. -/
def insert (name : String) (entry : Entry) : Folder → Folder
  | empty => cons name entry empty
  | file known bytes others =>
    if known = name then cons name entry others
    else file known bytes (others.insert name entry)
  | directory known inside others =>
    if known = name then cons name entry others
    else directory known inside (others.insert name entry)

theorem get?_cons (name : String) (entry : Entry) (others : Folder) (other : String) :
    (cons name entry others).get? other =
      if name = other then some entry else others.get? other := by
  cases entry <;> rfl

theorem get?_insert (name : String) (entry : Entry) (folder : Folder) (other : String) :
    (folder.insert name entry).get? other =
      if name = other then some entry else folder.get? other := by
  induction folder with
  | empty => rw [insert, get?_cons]
  | file known bytes others ih =>
    by_cases h : known = name
    · simp only [insert, h, if_true, get?_cons, get?]
      split <;> rfl
    · simp only [insert, h, if_false, get?, ih]
      grind
  | directory known inside others _ ih =>
    by_cases h : known = name
    · simp only [insert, h, if_true, get?_cons, get?]
      split <;> rfl
    · simp only [insert, h, if_false, get?, ih]
      grind

/-! ## Places -/

/-- What lies in the directory under a name; nothing where there is none. -/
def inside (folder : Folder) (name : String) : Folder :=
  match folder.get? name with
  | some (.directory inside) => inside
  | _ => empty

/-- What there is at a place.  The place without names is the folder itself. -/
def entry? : Folder → Place → Option Entry
  | folder, [] => some (.directory folder)
  | folder, name :: place =>
    match folder.get? name with
    | some (.directory inside) => inside.entry? place
    | some (.file bytes) => if place = [] then some (.file bytes) else none
    | none => none

theorem entry?_nil (folder : Folder) : folder.entry? [] = some (.directory folder) := rfl

theorem entry?_cons (folder : Folder) (name : String) (place : Place) :
    folder.entry? (name :: place) =
      match folder.get? name with
      | some (.directory inside) => inside.entry? place
      | some (.file bytes) => if place = [] then some (.file bytes) else none
      | none => none := rfl

/-- Puts an entry at a place, in place of what was there.  The directories on
the way become part of the folder if they are not. -/
def put : Folder → Place → Entry → Folder
  | folder, [], _ => folder
  | folder, [name], entry => folder.insert name entry
  | folder, name :: next :: place, entry =>
    folder.insert name (.directory ((folder.inside name).put (next :: place) entry))

end Folder

end WriteBack
