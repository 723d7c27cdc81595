/-
# Paths — what a path demands of a disk

Following a path takes care of its text first, of the lengths of its names
next, and at last of what lies on the disk.  The first two do not depend on
the disk: a path that passes them and insists on no directory is *regular*.
A regular path leads to a file exactly when the file lies at the place that
the path names (`file?_eq_some_iff`), and so all that is to be shown of a file
can be shown at its place.

An ancestor of a path begins as the path does.  Its text passes where the
path's does, and where the path can be followed so can the ancestor.
-/
import WriteBack.Proofs.Media

namespace WriteBack

/-! ## Texts -/

namespace Path

theorem text_cons_cons (first next : String) (rest : List String) :
    (Path.mk (first :: next :: rest)).text = first ++ "/" ++ (Path.mk (next :: rest)).text :=
  String.intercalate_cons_cons

theorem size_text_append (front rest : List String) :
    (Path.mk front).text.utf8ByteSize ≤ (Path.mk (front ++ rest)).text.utf8ByteSize := by
  induction front with
  | nil => exact Nat.zero_le _
  | cons first front ih =>
      cases front with
      | cons next front =>
          rw [List.cons_append, List.cons_append, text_cons_cons, text_cons_cons,
            String.utf8ByteSize_append, String.utf8ByteSize_append (t := (Path.mk _).text)]
          exact Nat.add_le_add_left ih _
      | nil =>
          cases rest with
          | nil => exact Nat.le_refl _
          | cons next rest =>
              have hfirst : (Path.mk [first]).text = first := String.intercalate_singleton
              rw [List.cons_append, List.nil_append, hfirst, text_cons_cons,
                String.append_assoc, String.utf8ByteSize_append]
              exact Nat.le_add_right _ _

theorem size_le_size_text {segments : List String} {segment : String}
    (hmem : segment ∈ segments) :
    segment.utf8ByteSize ≤ (Path.mk segments).text.utf8ByteSize := by
  induction segments with
  | nil => exact nomatch hmem
  | cons first rest ih =>
      cases rest with
      | nil =>
          have htext : segment = (Path.mk [first]).text :=
            (List.mem_singleton.mp hmem).trans String.intercalate_singleton.symm
          exact Nat.le_of_eq (congrArg String.utf8ByteSize htext)
      | cons next rest =>
          rw [text_cons_cons, String.utf8ByteSize_append, String.utf8ByteSize_append]
          rcases List.mem_cons.mp hmem with hfirst | hrest
          · rw [hfirst]
            omega
          · have := ih hrest
            omega

theorem text_ne_empty {segments : List String} {segment : String} (hmem : segment ∈ segments)
    (hsegment : segment ≠ "") : (Path.mk segments).text ≠ "" := by
  intro htext
  have hsize := size_le_size_text hmem
  rw [htext] at hsize
  exact hsegment (String.utf8ByteSize_eq_zero_iff.mp (Nat.le_zero.mp hsize))

end Path

namespace Disk

theorem checkText_eq_ok_iff {path : Path} :
    checkText path = .ok () ↔
      (path.segments.any fun segment => segment.toList.contains '\x00') = false ∧
        path.text.utf8ByteSize ≤ longestPath ∧ path.text ≠ "" := by
  unfold checkText
  split
  · next hnul => exact ⟨nofun, fun h => absurd hnul (Bool.eq_false_iff.mp h.1)⟩
  next hclean =>
  split
  · next hlong => exact ⟨nofun, fun h => absurd h.2.1 (Nat.not_le_of_lt hlong)⟩
  next hshort =>
  split
  · next hempty => exact ⟨nofun, fun h => absurd (beq_iff_eq.mp hempty) h.2.2⟩
  · next hnamed =>
      refine ⟨fun _ => ⟨Bool.not_eq_true _ ▸ hclean, Nat.le_of_not_lt hshort, ?_⟩, fun _ => rfl⟩
      exact fun hempty => hnamed (beq_iff_eq.mpr hempty)

theorem checkText_of_append {front rest : List String}
    (h : checkText ⟨front ++ rest⟩ = .ok ()) {segment : String} (hmem : segment ∈ front)
    (hsegment : segment ≠ "") : checkText ⟨front⟩ = .ok () := by
  obtain ⟨hclean, hlength, -⟩ := checkText_eq_ok_iff.mp h
  refine checkText_eq_ok_iff.mpr ⟨?_, ?_, Path.text_ne_empty hmem hsegment⟩
  · exact (Bool.or_eq_false_iff.mp (List.any_append ▸ hclean)).1
  · exact Nat.le_trans (Path.size_text_append front rest) hlength

end Disk

/-! ## How a path ends -/

namespace Path

/-- A path is what leads to its last segment, that segment, and slashes; or
there is nothing but slashes. -/
theorem ending_cases (path : Path) :
    path.ending = ⟨[], "", true⟩ ∨
      ∃ slashes : List String, (∀ segment ∈ slashes, segment = "") ∧
        path.segments = path.ending.leading ++ path.ending.last :: slashes ∧
        path.ending.slash = !slashes.isEmpty := by
  obtain ⟨backward, hbackward⟩ : ∃ backward, path.segments.reverse = backward := ⟨_, rfl⟩
  have hsegments : path.segments = backward.reverse := by
    rw [← hbackward, List.reverse_reverse]
  have hslashes : ∀ segment ∈ backward.takeWhile (· == ""), segment = "" := by
    intro segment hmem
    exact beq_iff_eq.mp (List.all_eq_true.mp List.all_takeWhile segment hmem)
  have hsplit := List.takeWhile_append_dropWhile (p := (· == "")) (l := backward)
  have hhead := List.head?_dropWhile_not (· == "") backward
  unfold ending
  dsimp only
  rw [hbackward]
  generalize backward.takeWhile (· == "") = slashes at hslashes hsplit
  cases hdrop : backward.dropWhile (· == "") with
  | nil => exact .inl rfl
  | cons last leading =>
      rw [hdrop] at hsplit hhead
      refine .inr ⟨slashes.reverse, ?_, ?_, ?_⟩
      · intro segment hmem
        exact hslashes segment (List.mem_reverse.mp hmem)
      · rw [hsegments, ← hsplit]
        simp
      · rw [← hsplit]
        cases slashes with
        | nil => simpa using hhead
        | cons slash slashes => simp [hslashes slash List.mem_cons_self]

theorem segments_eq {path : Path} (hlast : path.ending.last ≠ "") :
    ∃ slashes : List String, (∀ segment ∈ slashes, segment = "") ∧
      path.segments = path.ending.leading ++ path.ending.last :: slashes ∧
      path.ending.slash = !slashes.isEmpty := by
  rcases ending_cases path with hnothing | hslashes
  · rw [hnothing] at hlast
    exact absurd rfl hlast
  · exact hslashes

theorem last_ne_empty {path : Path} (hlast : idle path.ending.last = false) :
    path.ending.last ≠ "" := by
  intro hempty
  rw [hempty] at hlast
  exact nomatch hlast

theorem names_eq {path : Path} (hlast : idle path.ending.last = false) :
    path.names = (path.ending.leading.filter fun segment => !idle segment) ++
      [path.ending.last] := by
  obtain ⟨slashes, hslashes, hsegments, -⟩ := segments_eq (last_ne_empty hlast)
  have hnothing : (slashes.filter fun segment => !idle segment) = [] := by
    apply List.filter_eq_nil_iff.mpr
    intro segment hmem
    rw [hslashes segment hmem]
    decide
  rw [names, hsegments, List.filter_append, List.filter_cons_of_pos (by simp [hlast]), hnothing]

theorem segments_eq_of_slash {path : Path} (hslash : path.ending.slash = false)
    (hlast : idle path.ending.last = false) :
    path.segments = path.ending.leading ++ [path.ending.last] := by
  obtain ⟨slashes, -, hsegments, hends⟩ := segments_eq (last_ne_empty hlast)
  rw [hslash] at hends
  cases slashes with
  | nil => exact hsegments
  | cons slash slashes => exact nomatch hends

end Path

/-! ## Ancestors -/

namespace Path

/-- The nearest ancestor begins as the path does, and says something. -/
theorem segments_of_lineage {backward : List String} {nearest : Path} {others : List Path}
    (h : lineage backward = nearest :: others) :
    ∃ rest, backward.reverse = nearest.segments ++ rest ∧
      ∃ segment ∈ nearest.segments, segment ≠ "" := by
  fun_induction lineage backward with
  | case1 => exact nomatch h
  | case2 segment above hskip ih =>
      obtain ⟨rest, habove, hnamed⟩ := ih h
      refine ⟨rest ++ [segment], ?_, hnamed⟩
      rw [List.reverse_cons, habove, List.append_assoc]
  | case3 segment above hkept ih =>
      cases h
      refine ⟨[], (List.append_nil _).symm, segment, by simp, ?_⟩
      intro hempty
      simp [hempty] at hkept

theorem ancestors_eq {path : Path} (hslash : path.ending.slash = false)
    (hlast : idle path.ending.last = false) :
    path.ancestors = lineage path.ending.leading.reverse := by
  have hkept : ¬ (path.ending.last == "" ||
      path.ending.last == "." && !path.ending.leading.reverse.isEmpty) = true := by
    obtain ⟨hempty, hdot⟩ := Bool.or_eq_false_iff.mp hlast
    simp [hempty, hdot]
  rw [ancestors, segments_eq_of_slash hslash hlast, List.reverse_append, List.reverse_singleton,
    List.singleton_append, lineage, if_neg hkept, List.tail_cons]

end Path

/-! ## Places -/

namespace Folder

theorem entry?_append {folder inside : Folder} {front : Place}
    (h : folder.entry? front = some (.directory inside)) (rest : Place) :
    folder.entry? (front ++ rest) = inside.entry? rest := by
  fun_induction folder.entry? front with
  | case1 folder =>
      cases h
      rfl
  | case2 folder name front next hget ih =>
      rw [List.cons_append, entry?_cons, hget]
      exact ih h
  | case3 folder name bytes hget => exact nomatch h
  | case4 folder name front bytes hget hfront => exact nomatch h
  | case5 folder name front hget => exact nomatch h

theorem entry?_singleton (folder : Folder) (name : String) :
    folder.entry? [name] = folder.get? name := by
  rw [entry?_cons]
  cases hget : folder.get? name with
  | none => rfl
  | some entry =>
      cases entry with
      | file bytes => rfl
      | directory inside => rfl

theorem entry?_concat {folder inside : Folder} {front : Place}
    (h : folder.entry? front = some (.directory inside)) (name : String) :
    folder.entry? (front ++ [name]) = inside.get? name := by
  rw [entry?_append h, entry?_singleton]

theorem entry?_cons_eq_some {folder : Folder} {name : String} {place : Place} {entry : Entry}
    (h : folder.entry? (name :: place) = some entry) :
    (∃ inside, folder.get? name = some (.directory inside) ∧ inside.entry? place = some entry) ∨
      place = [] ∧ ∃ bytes, entry = .file bytes := by
  rw [entry?_cons] at h
  cases hget : folder.get? name with
  | none =>
      rw [hget] at h
      cases h
  | some found =>
      rw [hget] at h
      cases found with
      | directory inside => exact .inl ⟨inside, rfl, h⟩
      | file bytes =>
          dsimp only at h
          split at h
          · next hplace =>
              cases h
              exact .inr ⟨hplace, bytes, rfl⟩
          · cases h

theorem directory_of_entry?_concat {folder : Folder} {front : Place} {name : String}
    {entry : Entry} (h : folder.entry? (front ++ [name]) = some entry) :
    ∃ inside, folder.entry? front = some (.directory inside) := by
  induction front generalizing folder with
  | nil => exact ⟨folder, rfl⟩
  | cons first front ih =>
      rcases entry?_cons_eq_some h with ⟨next, hget, hnext⟩ | ⟨hplace, -⟩
      · rw [entry?_cons, hget]
        exact ih hnext
      · exact absurd hplace (by simp)

end Folder

/-! ## Following directories -/

namespace Disk

theorem enter_append (folder : Folder) (front rest : List String) :
    enter folder (front ++ rest) = (enter folder front).bind fun inside => enter inside rest := by
  fun_induction enter folder front with
  | case1 folder => rfl
  | case2 folder segment front hidle ih => rw [List.cons_append, enter, if_pos hidle, ih]
  | case3 folder segment front hidle error hlook =>
      rw [List.cons_append, enter, if_neg hidle, hlook]
      rfl
  | case4 folder segment front hidle hlook =>
      rw [List.cons_append, enter, if_neg hidle, hlook]
      rfl
  | case5 folder segment front hidle bytes hlook =>
      rw [List.cons_append, enter, if_neg hidle, hlook]
      rfl
  | case6 folder segment front hidle inside hlook ih =>
      rw [List.cons_append, enter, if_neg hidle, hlook]
      exact ih

theorem enter_of_append {folder last : Folder} {front rest : List String}
    (h : enter folder (front ++ rest) = .ok last) : ∃ inside, enter folder front = .ok inside := by
  rw [enter_append] at h
  cases hfront : enter folder front with
  | ok inside => exact ⟨inside, rfl⟩
  | error error =>
      rw [hfront] at h
      exact nomatch h

theorem lookUp_of_le {folder : Folder} {name : String} (h : name.utf8ByteSize ≤ longestName) :
    lookUp folder name = .ok (folder.get? name) := by
  rw [lookUp, if_neg (Nat.not_lt_of_le h)]

theorem lookUp_eq_ok {folder : Folder} {name : String} {found : Option Entry}
    (h : lookUp folder name = .ok found) :
    name.utf8ByteSize ≤ longestName ∧ folder.get? name = found := by
  unfold lookUp at h
  split at h
  · exact nomatch h
  · next hle => exact ⟨Nat.le_of_not_lt hle, Except.ok.inj h⟩

theorem lookUp_eq_error {folder : Folder} {name : String} {error : MediumError}
    (h : lookUp folder name = .error error) : ¬ name.utf8ByteSize ≤ longestName := by
  intro hle
  rw [lookUp_of_le hle] at h
  exact nomatch h

/-- A directory is entered if no name is too long and it lies at the place that
the segments name. -/
theorem enter_eq_ok_iff {folder inside : Folder} {segments : List String} :
    enter folder segments = .ok inside ↔
      (∀ name ∈ segments.filter fun segment => !Path.idle segment,
        name.utf8ByteSize ≤ longestName) ∧
      folder.entry? (segments.filter fun segment => !Path.idle segment) =
        some (.directory inside) := by
  fun_induction enter folder segments with
  | case1 folder => simp [Folder.entry?_nil]
  | case2 folder segment rest hidle ih =>
      rw [List.filter_cons_of_neg (by simp [hidle])]
      exact ih
  | case3 folder segment rest hidle error hlook =>
      rw [List.filter_cons_of_pos (by simp [hidle])]
      constructor
      · intro h
        cases h
      · intro h
        exact absurd (h.1 segment List.mem_cons_self) (lookUp_eq_error hlook)
  | case4 folder segment rest hidle hlook =>
      rw [List.filter_cons_of_pos (by simp [hidle]), Folder.entry?_cons, (lookUp_eq_ok hlook).2]
      constructor
      · intro h
        cases h
      · intro h
        cases h.2
  | case5 folder segment rest hidle bytes hlook =>
      rw [List.filter_cons_of_pos (by simp [hidle]), Folder.entry?_cons, (lookUp_eq_ok hlook).2]
      constructor
      · intro h
        cases h
      -- the way ends at a file, whatever is left of the names
      · rintro ⟨-, hentry⟩
        dsimp only at hentry
        split at hentry
        · cases hentry
        · cases hentry
  | case6 folder segment rest hidle next hlook ih =>
      obtain ⟨hle, hget⟩ := lookUp_eq_ok hlook
      rw [List.filter_cons_of_pos (by simp [hidle]), Folder.entry?_cons, hget,
        List.forall_mem_cons, ih]
      constructor
      · intro h
        exact ⟨⟨hle, h.1⟩, h.2⟩
      · intro h
        exact ⟨h.1.2, h.2⟩

end Disk

/-! ## Regular paths -/

/-- A path at which a file can lie: its text passes, it insists on no
directory, and none of its names is too long. -/
structure Path.Regular (path : Path) : Prop where
  text_ok : Disk.checkText path = .ok ()
  slash_eq : path.ending.slash = false
  last_eq : idle path.ending.last = false
  names_le : ∀ name ∈ path.names, name.utf8ByteSize ≤ Disk.longestName

namespace Path

variable {path : Path} {folder inside : Folder}

theorem Regular.names_ne_nil (h : path.Regular) : path.names ≠ [] :=
  Path.names_ne_nil (Bool.or_eq_false_iff.mpr ⟨h.slash_eq, h.last_eq⟩)

theorem Regular.of_enter (htext : Disk.checkText path = .ok ())
    (hslash : path.ending.slash = false) (hlast : idle path.ending.last = false)
    (henter : Disk.enter folder path.ending.leading = .ok inside)
    (hle : path.ending.last.utf8ByteSize ≤ Disk.longestName) : path.Regular := by
  refine ⟨htext, hslash, hlast, ?_⟩
  rw [names_eq hlast, List.forall_mem_append, List.forall_mem_singleton]
  exact ⟨(Disk.enter_eq_ok_iff.mp henter).1, hle⟩

theorem Regular.enter {entry : Entry} (h : path.Regular)
    (hentry : folder.entry? path.names = some entry) :
    ∃ inside, Disk.enter folder path.ending.leading = .ok inside ∧
      Disk.lookUp inside path.ending.last = .ok (some entry) := by
  have hnames := h.names_le
  rw [names_eq h.last_eq] at hentry hnames
  rw [List.forall_mem_append, List.forall_mem_singleton] at hnames
  obtain ⟨inside, hinside⟩ := Folder.directory_of_entry?_concat hentry
  rw [Folder.entry?_concat hinside] at hentry
  refine ⟨inside, Disk.enter_eq_ok_iff.mpr ⟨hnames.1, hinside⟩, ?_⟩
  rw [Disk.lookUp_of_le hnames.2, hentry]

end Path

namespace Disk

variable {disk : Disk} {path : Path}

/-- **A path leads to a file** if it is regular and the file lies at the place
that it names. -/
theorem file?_eq_some_iff {bytes : Bytes} :
    disk.file? path = some bytes ↔
      path.Regular ∧ disk.entry? path.names = some (.file bytes) := by
  constructor
  · intro h
    unfold file? at h
    dsimp only at h
    split at h
    · next inside htext henter =>
      split at h
      · exact nomatch h
      next hends =>
      obtain ⟨hslash, hlast⟩ := Bool.or_eq_false_iff.mp (Bool.eq_false_iff.mpr hends)
      split at h
      · next found hlook =>
          cases h
          obtain ⟨hle, hget⟩ := lookUp_eq_ok hlook
          refine ⟨.of_enter htext hslash hlast henter hle, ?_⟩
          show disk.root.entry? path.names = _
          rw [Path.names_eq hlast, Folder.entry?_concat (enter_eq_ok_iff.mp henter).2, hget]
      · exact nomatch h
    · exact nomatch h
  · rintro ⟨hregular, hentry⟩
    obtain ⟨inside, henter, hlook⟩ := hregular.enter hentry
    simp only [file?, hregular.text_ok, henter, hregular.slash_eq, hregular.last_eq, hlook]
    rfl

end Disk

end WriteBack
