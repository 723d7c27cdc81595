/-
# Media that keep their word — memory and files, seen as strings of bytes

A journal relies on a medium for two things: that nothing given to it is
refused, and that what was given can be read back.  The media that do both by
themselves are the bases on which everything else is stacked.

A *steady* medium refuses no append and no sync, and reading leaves it as it
was.  A *faithful* one is moreover a string of bytes: as long as nobody else
disturbs it its position is the end of the string, an append adds to that
end, and whatever lies before the end is delivered in one go.

Memory is faithful without conditions.  A file is faithful while its cursor
stands at its end, which is how it is opened (`undisturbed_of_opening`); and
it can be read in full while it is shorter than the offsets that the file
system can express.
-/
import WriteBack.Disk.OpenFile
import WriteBack.Medium.InMemory

namespace WriteBack

/-- A medium that refuses no append and no sync, and that reading leaves as
it was. -/
class Steady (β : Type) [Medium β] : Prop where
  append_fst (m : β) (data : Bytes) : (Medium.append m data).1 = .ok ()
  sync_fst (m : β) : (Medium.sync m).1 = .ok ()
  readAt_snd (m : β) (offset wanted : Nat) : (Medium.readAt m offset wanted).2 = m

attribute [simp] Steady.append_fst Steady.sync_fst Steady.readAt_snd

/-- A steady medium that is a string of bytes.  `Undisturbed` says that
nobody else has moved its end, `Addressable` that every byte of it can be
asked for, as it always can in memory and in files of a size that file
systems know. -/
class Faithful (β : Type) [Medium β] extends Steady β where
  contents : β → Bytes
  Undisturbed : β → Prop
  Addressable : β → Prop
  position_eq {m : β} : Undisturbed m → Medium.position m = (contents m).length
  contents_append {m : β} (data : Bytes) : Undisturbed m →
    contents (Medium.append m data).2 = contents m ++ data
  undisturbed_append {m : β} (data : Bytes) : Undisturbed m →
    Undisturbed (Medium.append m data).2
  contents_sync (m : β) : contents (Medium.sync m).2 = contents m
  undisturbed_sync {m : β} : Undisturbed m → Undisturbed (Medium.sync m).2
  readAt_fst {m : β} {offset wanted : Nat} : Addressable m →
    offset + wanted ≤ (contents m).length →
      (Medium.readAt m offset wanted).1 = .bytes ((contents m).slice offset wanted)

open Faithful (contents Undisturbed Addressable)

/-! ## Memory -/

instance : Faithful InMemory where
  append_fst _ _ := rfl
  sync_fst _ := rfl
  readAt_snd _ _ _ := rfl
  contents m := m.bytes
  Undisturbed _ := True
  Addressable _ := True
  position_eq _ := rfl
  contents_append _ _ := rfl
  undisturbed_append _ _ := trivial
  contents_sync _ := rfl
  undisturbed_sync _ := trivial
  readAt_fst _ _ := rfl

/-! ## Files

What is put at a place is found there again, so that the bytes of a file
after an append are the old ones written over from the cursor on.  With the
cursor at the end this is appending. -/

theorem Folder.entry?_put_self (folder : Folder) (place : Place) (entry : Entry)
    (hplace : place ≠ []) : Folder.entry? (folder.put place entry) place = some entry := by
  fun_induction folder.put place entry with
  | case1 => exact absurd rfl hplace
  | case2 folder name entry =>
      rw [Folder.entry?_cons, get?_insert, if_pos rfl]
      cases entry with
      | file bytes => rfl
      | directory inside => rfl
  | case3 folder name next place entry ih =>
      rw [Folder.entry?_cons, get?_insert, if_pos rfl]
      exact ih (List.cons_ne_nil _ _)

namespace OpenFile

theorem bytes_withBytes (f : OpenFile) (bytes : Bytes) (hplace : f.place ≠ []) :
    (f.withBytes bytes).bytes = bytes := by
  show (f.disk.put f.place (.file bytes)).bytesAt f.place = bytes
  simp only [Disk.bytesAt, Disk.entry?, Disk.put]
  rw [Folder.entry?_put_self _ _ _ hplace]

theorem bytes_append (f : OpenFile) (data : Bytes) (hplace : f.place ≠ [])
    (hcursor : f.cursor = f.bytes.length) : (f.append data).bytes = f.bytes ++ data := by
  have h : (f.append data).bytes = f.bytes.overwriteAt f.cursor data :=
    bytes_withBytes f _ hplace
  rw [h, hcursor, Bytes.overwriteAt_length]

instance : Faithful OpenFile where
  append_fst _ _ := rfl
  sync_fst _ := rfl
  readAt_snd _ _ _ := rfl
  contents f := f.bytes
  Undisturbed f := f.place ≠ [] ∧ f.cursor = f.bytes.length
  Addressable f := f.bytes.length < offsetLimit
  position_eq h := h.2
  contents_append {f} data h := bytes_append f data h.1 h.2
  undisturbed_append {f} data h := by
    refine ⟨h.1, ?_⟩
    show f.cursor + data.length = (f.append data).bytes.length
    rw [bytes_append f data h.1 h.2, List.length_append, h.2]
  contents_sync _ := rfl
  undisturbed_sync h := h
  readAt_fst {f offset wanted} hfits hend := by
    show f.readAt offset wanted = _
    rw [readAt, if_neg]
    omega

end OpenFile

/-! ## A file is opened undisturbed -/

theorem Path.ending_last_mem {path : Path} (h : path.ending.slash = false) :
    path.ending.last ∈ path.segments := by
  unfold ending at h ⊢
  dsimp only at h ⊢
  split at h
  · exact nomatch h
  · next last leading heq =>
      have hmem : last ∈ path.segments.reverse.dropWhile (· == "") := by
        rw [heq]
        exact List.mem_cons_self
      exact List.mem_reverse.mp ((List.dropWhile_sublist _).mem hmem)

theorem Path.names_ne_nil {path : Path}
    (h : (path.ending.slash || Path.idle path.ending.last) = false) : path.names ≠ [] := by
  obtain ⟨hslash, hidle⟩ := Bool.or_eq_false_iff.mp h
  have hmem : path.ending.last ∈ path.names :=
    List.mem_filter.mpr ⟨ending_last_mem hslash, by simp [hidle]⟩
  exact List.ne_nil_of_mem hmem

theorem Disk.place_of_openOrCreate {disk disk' : Disk} {path : Path} {place : Place}
    (h : disk.openOrCreate path = .ok (place, disk')) : place ≠ [] := by
  simp only [openOrCreate, bind, Except.bind, pure, Except.pure, throw, throwThe,
    MonadExceptOf.throw] at h
  split at h
  · exact nomatch h
  split at h
  · exact nomatch h
  cases hends : path.ending.slash || Path.idle path.ending.last with
  | true =>
      simp only [hends, if_true] at h
      exact nomatch h
  | false =>
      have hnames := Path.names_ne_nil hends
      simp only [hends, Bool.false_eq_true, if_false] at h
      split at h
      · exact nomatch h
      split at h
      · exact nomatch h
      · cases h
        exact hnames
      · cases h
        exact hnames

/-- However a file came to be opened, nobody has disturbed it yet. -/
theorem OpenFile.undisturbed_of_opening {disk disk' : Disk} {path : Path} {policy : SyncPolicy}
    {file : OpenFile} {events : List Event}
    (h : OpenFile.opening disk path policy = (.ok file, disk', events)) :
    Undisturbed file := by
  unfold opening at h
  split at h
  · exact nomatch h
  split at h
  · exact nomatch h
  · next hopen =>
      cases h
      exact ⟨Disk.place_of_openOrCreate hopen, rfl⟩

end WriteBack
