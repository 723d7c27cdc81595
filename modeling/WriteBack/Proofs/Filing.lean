/-
# Filing — what becomes of a file between two openings

Opening a file makes the directories that it lies in.  Directories are only
made where nothing is, so that no file is harmed and none appears: the file
that is opened has the bytes that the path led to before, or none if it led to
no file.  From then on the file *stands*: it lies at the place that its path
names, and following the path leads there.  Appending keeps it standing.

Opening a path that leads to a file changes nothing on the disk, because the
directories are there.  Therefore a path on a disk is a depot for open files.
-/
import WriteBack.Proofs.Paths
import WriteBack.Proofs.Sessions

namespace WriteBack

open Faithful (contents Undisturbed)

/-! ## Putting a directory where nothing is -/

namespace Folder

theorem put_cons (folder : Folder) (name : String) {place : Place} (hplace : place ≠ [])
    (entry : Entry) :
    folder.put (name :: place) entry =
      folder.insert name (.directory ((folder.inside name).put place entry)) := by
  cases place with
  | nil => exact absurd rfl hplace
  | cons next place => rfl

theorem get?_insert_of_ne {name other : String} (h : ¬ name = other) (entry : Entry)
    (folder : Folder) : (folder.insert name entry).get? other = folder.get? other := by
  rw [get?_insert, if_neg h]

theorem entry?_congr {folder folder' : Folder} {name : String}
    (h : folder.get? name = folder'.get? name) (place : Place) :
    folder.entry? (name :: place) = folder'.entry? (name :: place) := by
  rw [entry?_cons, entry?_cons, h]

theorem entry?_insert_iff {folder : Folder} {name : String} {entry : Entry}
    (hname : ∀ (place : Place) (bytes : Bytes),
      Folder.entry? (folder.insert name entry) (name :: place) = some (.file bytes) ↔
        folder.entry? (name :: place) = some (.file bytes))
    (place : Place) (bytes : Bytes) :
    Folder.entry? (folder.insert name entry) place = some (.file bytes) ↔
      folder.entry? place = some (.file bytes) := by
  cases place with
  | nil => exact ⟨nofun, nofun⟩
  | cons other place =>
      by_cases hother : name = other
      · subst hother
        exact hname place bytes
      · rw [entry?_congr (get?_insert_of_ne hother _ _)]

theorem entry?_put_directory {folder inside : Folder} {front : Place} {name : String}
    (hfront : folder.entry? front = some (.directory inside)) (hname : inside.get? name = none)
    (place : Place) (bytes : Bytes) :
    Folder.entry? (folder.put (front ++ [name]) (.directory .empty)) place = some (.file bytes) ↔
      folder.entry? place = some (.file bytes) := by
  induction front generalizing folder place bytes with
  | nil =>
      cases hfront
      apply entry?_insert_iff
      intro place bytes
      rw [entry?_cons, entry?_cons, get?_insert, if_pos rfl, hname]
      cases place with
      | nil => exact ⟨nofun, nofun⟩
      | cons next place => exact ⟨nofun, nofun⟩
  | cons first front ih =>
      rcases entry?_cons_eq_some hfront with ⟨next, hget, hnext⟩ | ⟨-, bytes, hfile⟩
      case inr => cases hfile
      have hinside : folder.inside first = next := by rw [Folder.inside, hget]
      rw [List.cons_append, put_cons _ _ (by simp), hinside]
      apply entry?_insert_iff
      intro place bytes
      rw [entry?_cons, entry?_cons, get?_insert, if_pos rfl, hget]
      exact ih hnext place bytes

end Folder

/-! ## Making directories -/

namespace Disk

/-- The same files lie on the disk as on the other one. -/
def SameFiles (disk disk' : Disk) : Prop :=
  ∀ (place : Place) (bytes : Bytes),
    disk'.entry? place = some (.file bytes) ↔ disk.entry? place = some (.file bytes)

theorem SameFiles.rfl {disk : Disk} : disk.SameFiles disk := fun _ _ => Iff.rfl

theorem SameFiles.trans {disk₁ disk₂ disk₃ : Disk} (h : disk₁.SameFiles disk₂)
    (h' : disk₂.SameFiles disk₃) : disk₁.SameFiles disk₃ :=
  fun place bytes => (h' place bytes).trans (h place bytes)

theorem SameFiles.file?_eq {disk disk' : Disk} (h : disk.SameFiles disk') (path : Path) :
    disk'.file? path = disk.file? path := by
  apply Option.ext
  intro bytes
  rw [file?_eq_some_iff, file?_eq_some_iff, h path.names bytes]

theorem makeDirectory_eq_ok {disk disk' : Disk} {path : Path}
    (h : disk.makeDirectory path = .ok disk') :
    ∃ (front : Place) (name : String) (inside : Folder), path.names = front ++ [name] ∧
      disk.entry? front = some (.directory inside) ∧ inside.get? name = none ∧
        disk' = disk.put (front ++ [name]) (.directory .empty) := by
  simp only [makeDirectory, bind, Except.bind, pure, Except.pure, throw, throwThe,
    MonadExceptOf.throw] at h
  split at h
  · exact nomatch h
  split at h
  · exact nomatch h
  next inside henter =>
  cases hlast : Path.idle path.ending.last with
  | true =>
      simp only [hlast, if_true] at h
      exact nomatch h
  | false =>
      simp only [hlast, Bool.false_eq_true, if_false] at h
      split at h
      · exact nomatch h
      next found hlook =>
      cases found with
      | some entry => exact nomatch h
      | none =>
          cases h
          refine ⟨_, _, inside, Path.names_eq hlast, (enter_eq_ok_iff.mp henter).2,
            (lookUp_eq_ok hlook).2, ?_⟩
          rw [Path.names_eq hlast]

theorem makeDirectory_sameFiles {disk disk' : Disk} {path : Path}
    (h : disk.makeDirectory path = .ok disk') : disk.SameFiles disk' := by
  obtain ⟨front, name, inside, -, hfront, hname, rfl⟩ := makeDirectory_eq_ok h
  exact Folder.entry?_put_directory hfront hname

theorem settleFor_sameFiles (disk : Disk) (path : Path) :
    disk.SameFiles (makeDirectories.settleFor disk path).2 := by
  unfold makeDirectories.settleFor
  split
  · next hmade => exact makeDirectory_sameFiles hmade
  · split
    · exact .rfl
    · exact .rfl

theorem makeDirectories_sameFiles (disk : Disk) (lineage : List Path) :
    disk.SameFiles (disk.makeDirectories lineage).2 := by
  induction lineage with
  | nil => exact .rfl
  | cons path above ih =>
      unfold makeDirectories
      split
      · next hmade => exact makeDirectory_sameFiles hmade
      split
      · split
        · next habove =>
            rw [habove] at ih
            exact ih
        · next habove =>
            rw [habove] at ih
            exact ih.trans (settleFor_sameFiles _ path)
      · exact settleFor_sameFiles disk path

/-! ## Directories that are there -/

theorem enter_leading {folder inside : Folder} {path : Path}
    (h : enter folder path.segments = .ok inside) :
    ∃ above, enter folder path.ending.leading = .ok above ∧
      (Path.idle path.ending.last = true ∨
        ∃ next, lookUp above path.ending.last = .ok (some (.directory next))) := by
  rcases Path.ending_cases path with hnothing | ⟨slashes, -, hsegments, -⟩
  · rw [hnothing]
    exact ⟨folder, rfl, .inl rfl⟩
  · rw [hsegments] at h
    obtain ⟨above, habove⟩ := enter_of_append h
    rw [enter_append, habove] at h
    refine ⟨above, habove, ?_⟩
    cases hlast : Path.idle path.ending.last with
    | true => exact .inl rfl
    | false =>
        have hnext : enter above (path.ending.last :: slashes) = .ok inside := h
        rw [enter, if_neg (by simp [hlast])] at hnext
        split at hnext
        · cases hnext
        · cases hnext
        · cases hnext
        · next next hlook => exact .inr ⟨next, hlook⟩

theorem isDirectory_eq_true_iff {disk : Disk} {path : Path} :
    disk.isDirectory path = true ↔
      checkText path = .ok () ∧ ∃ inside, enter disk.root path.segments = .ok inside := by
  unfold isDirectory
  split
  · next htext henter => exact ⟨fun _ => ⟨htext, _, henter⟩, fun _ => rfl⟩
  · next hfails =>
      refine ⟨nofun, fun h => ?_⟩
      obtain ⟨htext, inside, henter⟩ := h
      exact (hfails inside htext henter).elim

theorem makeDirectory_of_isDirectory {disk : Disk} {path : Path}
    (h : disk.isDirectory path = true) :
    disk.makeDirectory path = .error (.system .alreadyExists) := by
  obtain ⟨htext, inside, henter⟩ := isDirectory_eq_true_iff.mp h
  obtain ⟨above, habove, hlast⟩ := enter_leading henter
  cases hidle : Path.idle path.ending.last with
  | true =>
      simp only [makeDirectory, bind, Except.bind, throw, throwThe, MonadExceptOf.throw, htext,
        habove, hidle, if_true]
  | false =>
      obtain ⟨next, hlook⟩ := hlast.resolve_left (by simp [hidle])
      simp only [makeDirectory, bind, Except.bind, throw, throwThe, MonadExceptOf.throw, htext,
        habove, hidle, Bool.false_eq_true, if_false, hlook]

theorem makeDirectories_of_isDirectory {disk : Disk} {path : Path}
    (h : disk.isDirectory path = true) (above : List Path) :
    disk.makeDirectories (path :: above) = (.ok (), disk) := by
  have hmake := makeDirectory_of_isDirectory h
  simp [makeDirectories, makeDirectories.settleFor, hmake, h]

/-- The directories that a file lies in are there. -/
theorem makeDirectories_of_file {disk : Disk} {path : Path} {bytes : Bytes}
    (h : disk.file? path = some bytes) :
    disk.makeDirectories path.ancestors = (.ok (), disk) := by
  obtain ⟨hregular, hentry⟩ := file?_eq_some_iff.mp h
  obtain ⟨inside, henter, -⟩ := hregular.enter hentry
  rw [Path.ancestors_eq hregular.slash_eq hregular.last_eq]
  cases hlineage : Path.lineage path.ending.leading.reverse with
  | nil => rfl
  | cons nearest others =>
      apply makeDirectories_of_isDirectory
      obtain ⟨rest, hleading, segment, hmem, hsegment⟩ := Path.segments_of_lineage hlineage
      rw [List.reverse_reverse] at hleading
      rw [hleading] at henter
      refine isDirectory_eq_true_iff.mpr ⟨?_, enter_of_append henter⟩
      have htext := hregular.text_ok
      rw [show path = ⟨path.segments⟩ from rfl,
        Path.segments_eq_of_slash hregular.slash_eq hregular.last_eq, hleading,
        List.append_assoc] at htext
      exact checkText_of_append htext hmem hsegment

/-! ## Opening files -/

/-- A file is opened at a regular path, where it lies or where nothing is. -/
theorem openOrCreate_eq_ok {disk disk' : Disk} {path : Path} {place : Place}
    (h : disk.openOrCreate path = .ok (place, disk')) :
    path.Regular ∧ place = path.names ∧
      ((∃ bytes, disk.entry? path.names = some (.file bytes) ∧ disk' = disk) ∨
        disk.entry? path.names = none ∧ disk' = disk.put path.names (.file [])) := by
  simp only [openOrCreate, bind, Except.bind, pure, Except.pure, throw, throwThe,
    MonadExceptOf.throw] at h
  split at h
  · cases h
  next htext =>
  split at h
  · cases h
  next inside henter =>
  cases hends : path.ending.slash || Path.idle path.ending.last with
  | true =>
      simp only [hends, if_true] at h
      cases h
  | false =>
      obtain ⟨hslash, hlast⟩ := Bool.or_eq_false_iff.mp hends
      simp only [hends, Bool.false_eq_true, if_false] at h
      split at h
      · cases h
      next found hlook =>
      obtain ⟨hle, hget⟩ := lookUp_eq_ok hlook
      have hregular : path.Regular := .of_enter htext hslash hlast henter hle
      have hentry : disk.entry? path.names = found := by
        show disk.root.entry? path.names = found
        rw [Path.names_eq hlast, Folder.entry?_concat (enter_eq_ok_iff.mp henter).2, hget]
      split at h
      · cases h
      · cases h
        exact ⟨hregular, rfl, .inl ⟨_, hentry, rfl⟩⟩
      · cases h
        exact ⟨hregular, rfl, .inr ⟨hentry, rfl⟩⟩

theorem entry?_of_openOrCreate {disk disk' : Disk} {path : Path} {place : Place}
    (h : disk.openOrCreate path = .ok (place, disk')) :
    path.Regular ∧ place = path.names ∧
      disk'.entry? path.names = some (.file ((disk.file? path).getD [])) := by
  obtain ⟨hregular, hplace, hfound⟩ := openOrCreate_eq_ok h
  refine ⟨hregular, hplace, ?_⟩
  rcases hfound with ⟨bytes, hentry, rfl⟩ | ⟨hentry, rfl⟩
  · rw [file?_eq_some_iff.mpr ⟨hregular, hentry⟩]
    exact hentry
  · have hnone : disk.file? path = none := by
      cases hfile : disk.file? path with
      | none => rfl
      | some bytes => exact nomatch hentry.symm.trans (file?_eq_some_iff.mp hfile).2
    rw [hnone]
    exact Folder.entry?_put_self _ _ _ hregular.names_ne_nil

theorem openOrCreate_of_file {disk : Disk} {path : Path} {bytes : Bytes}
    (h : disk.file? path = some bytes) : disk.openOrCreate path = .ok (path.names, disk) := by
  obtain ⟨hregular, hentry⟩ := file?_eq_some_iff.mp h
  obtain ⟨inside, henter, hlook⟩ := hregular.enter hentry
  simp only [openOrCreate, bind, Except.bind, pure, Except.pure, hregular.text_ok, henter,
    hregular.slash_eq, hregular.last_eq, Bool.or_false, Bool.false_eq_true, if_false, hlook]

theorem bytesAt_of_entry {disk : Disk} {place : Place} {bytes : Bytes}
    (h : disk.entry? place = some (.file bytes)) : disk.bytesAt place = bytes := by
  rw [bytesAt, h]

end Disk

namespace OpenFile

/-- The file lies where its path leads. -/
structure Stands (f : OpenFile) : Prop where
  regular : f.path.Regular
  place_eq : f.place = f.path.names
  entry_eq : f.disk.entry? f.place = some (.file f.bytes)

theorem Stands.file?_eq {f : OpenFile} (h : f.Stands) : f.disk.file? f.path = some f.bytes :=
  Disk.file?_eq_some_iff.mpr ⟨h.regular, h.place_eq ▸ h.entry_eq⟩

theorem Stands.append {f : OpenFile} (h : f.Stands) (data : Bytes) : (f.append data).Stands := by
  have hplace : f.place ≠ [] := h.place_eq ▸ h.regular.names_ne_nil
  have hbytes : (f.append data).bytes = f.bytes.overwriteAt f.cursor data :=
    bytes_withBytes f _ hplace
  refine ⟨h.regular, h.place_eq, ?_⟩
  rw [hbytes]
  exact Folder.entry?_put_self _ _ _ hplace

theorem stands_of_opening {disk : Disk} {path : Path} {policy : SyncPolicy} {file : OpenFile}
    (h : (opening disk path policy).1 = .ok file) :
    file.Stands ∧ file.bytes = (disk.file? path).getD [] := by
  have hsame := disk.makeDirectories_sameFiles path.ancestors
  unfold opening at h
  split at h
  · exact nomatch h
  next made hmade =>
  rw [hmade] at hsame
  split at h
  · exact nomatch h
  next place disk' hopen =>
  cases h
  obtain ⟨hregular, rfl, hentry⟩ := Disk.entry?_of_openOrCreate hopen
  rw [hsame.file?_eq] at hentry
  have hbytes : disk'.bytesAt path.names = _ := Disk.bytesAt_of_entry hentry
  rw [← hbytes] at hentry
  exact ⟨⟨hregular, rfl, hentry⟩, hbytes⟩

theorem opening_of_file {disk : Disk} {path : Path} {bytes : Bytes}
    (h : disk.file? path = some bytes) (policy : SyncPolicy) :
    opening disk path policy =
      (.ok { disk, path, place := path.names, cursor := bytes.length, policy }, disk,
        [.openedFile path.text bytes.length]) := by
  have hbytes := Disk.bytesAt_of_entry (Disk.file?_eq_some_iff.mp h).2
  simp only [opening, Disk.makeDirectories_of_file h, Disk.openOrCreate_of_file h, hbytes]

end OpenFile

/-! ## A path on a disk is a depot -/

structure Located where
  disk : Disk
  path : Path
deriving DecidableEq, Repr

instance : Depot Located OpenFile where
  Mode := SyncPolicy
  kept place := (place.disk.file? place.path).getD []
  fetch place policy := (OpenFile.opening place.disk place.path policy).1
  leave f := ⟨f.disk, f.path⟩
  Sound := OpenFile.Stands
  contents_of_fetch h := (OpenFile.stands_of_opening h).2
  undisturbed_of_fetch h := OpenFile.undisturbed_of_opening (Prod.ext h rfl)
  sound_of_fetch h := (OpenFile.stands_of_opening h).1
  sound_append _ data h := h.append data
  sound_sync _ h := h
  kept_leave h := by
    dsimp only
    rw [h.file?_eq]
    rfl
  fetch_leave mode h := ⟨_, by rw [OpenFile.opening_of_file h.file?_eq mode]⟩

end WriteBack
