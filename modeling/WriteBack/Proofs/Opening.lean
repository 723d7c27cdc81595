/-
# Opening — a file is opened without harm

Opening a file may fail at any step, and what was done before that step stays
done.  It is never much: only directories are made, and each of them at a place that
lies on the way to the file and was empty; and if all goes well the file itself
appears, empty, if it was not there.  Whatever there was on the disk is there
afterwards.

A disk is looked at place by place here.  What is *seen* at a place is a file with
its bytes or a directory; what lies in the directory is seen at its own places
(`Disk.sight?`).  A disk *grows* if nothing that was seen is seen differently
afterwards, and what is new is permitted where it is (`Disk.Grows`).
-/
import WriteBack.Journal.OnDisk
import WriteBack.Proofs.Continuity

namespace WriteBack

/-! ## What is seen at a place -/

/-- What is seen at a place. -/
inductive Sight where
  | file (bytes : Bytes)
  | directory
deriving DecidableEq, Repr

def Entry.sight : Entry → Sight
  | .file bytes => .file bytes
  | .directory _ => .directory

def Sight.entry : Sight → Entry
  | .file bytes => .file bytes
  | .directory => .directory .empty

namespace Folder

/-- What is seen at a place in the folder. -/
def sight? (folder : Folder) (place : Place) : Option Sight :=
  (folder.entry? place).map Entry.sight

theorem sight?_nil (folder : Folder) : folder.sight? [] = some .directory := by
  cases folder <;> rfl

theorem sight?_congr {folder folder' : Folder} {name : String}
    (h : folder.get? name = folder'.get? name) (place : Place) :
    folder.sight? (name :: place) = folder'.sight? (name :: place) :=
  congrArg (Option.map Entry.sight) (entry?_congr h place)

theorem sight?_of_none {folder : Folder} {name : String} (h : folder.get? name = none)
    (place : Place) : folder.sight? (name :: place) = none := by
  rw [sight?, entry?_cons, h]
  rfl

theorem sight?_of_directory {folder inside : Folder} {name : String}
    (h : folder.get? name = some (.directory inside)) (place : Place) :
    folder.sight? (name :: place) = inside.sight? place := by
  rw [sight?, entry?_cons, h]
  rfl

theorem sight?_of_entry {folder : Folder} {name : String} {sight : Sight}
    (h : folder.get? name = some sight.entry) (place : Place) :
    folder.sight? (name :: place) = if place = [] then some sight else none := by
  cases sight with
  | file bytes =>
      rw [sight?, entry?_cons, h]
      by_cases hplace : place = []
      · rw [if_pos hplace]
        exact congrArg (Option.map Entry.sight) (if_pos hplace)
      · rw [if_neg hplace]
        exact congrArg (Option.map Entry.sight) (if_neg hplace)
  | directory =>
      rw [sight?_of_directory h]
      cases place with
      | nil => rfl
      | cons next place => rfl

theorem sight?_insert_of_ne {name other : String} (h : name ≠ other) (folder : Folder)
    (entry : Entry) (place : Place) :
    (folder.insert name entry).sight? (other :: place) = folder.sight? (other :: place) :=
  sight?_congr (get?_insert_of_ne h _ _) place

/-- What is put under a free name is seen there, and nothing is seen differently
anywhere else. -/
theorem sight?_insert {folder : Folder} {name : String} (hname : folder.get? name = none)
    (sight : Sight) (place : Place) :
    (folder.insert name sight.entry).sight? place =
      if place = [name] then some sight else folder.sight? place := by
  cases place with
  | nil => rw [sight?_nil, sight?_nil, if_neg (by simp)]
  | cons other place =>
      by_cases hother : name = other
      · subst hother
        rw [sight?_of_entry (by rw [get?_insert, if_pos rfl]), sight?_of_none hname]
        simp
      · rw [sight?_insert_of_ne hother, if_neg]
        intro heq
        cases heq
        exact hother rfl

theorem sight?_put {folder inside : Folder} {front : Place} {name : String}
    (hfront : folder.entry? front = some (.directory inside)) (hname : inside.get? name = none)
    (sight : Sight) (place : Place) :
    Folder.sight? (folder.put (front ++ [name]) sight.entry) place =
      if place = front ++ [name] then some sight else folder.sight? place := by
  induction front generalizing folder place with
  | nil =>
      cases hfront
      exact sight?_insert hname sight place
  | cons first front ih =>
      rcases entry?_cons_eq_some hfront with ⟨next, hget, hnext⟩ | ⟨-, bytes, hfile⟩
      case inr => cases hfile
      have hinside : folder.inside first = next := by rw [Folder.inside, hget]
      rw [List.cons_append, put_cons _ _ (by simp), hinside]
      cases place with
      | nil => rw [sight?_nil, sight?_nil, if_neg (by simp)]
      | cons other place =>
          by_cases hother : first = other
          · subst hother
            rw [sight?_of_directory (by rw [get?_insert, if_pos rfl]), ih hnext,
              sight?_of_directory hget]
            simp
          · rw [sight?_insert_of_ne hother, if_neg]
            intro heq
            cases heq
            exact hother rfl

end Folder

/-! ## Disks that grow -/

namespace Disk

def sight? (disk : Disk) (place : Place) : Option Sight := disk.root.sight? place

/-- All that was seen on the disk is seen afterwards, and where something new is seen
it is permitted. -/
def Grows (Permitted : Place → Sight → Prop) (disk disk' : Disk) : Prop :=
  ∀ place : Place, disk'.sight? place = disk.sight? place ∨
    disk.sight? place = none ∧
      ∃ sight, disk'.sight? place = some sight ∧ Permitted place sight

variable {Permitted : Place → Sight → Prop} {disk disk' disk'' : Disk}

theorem Grows.refl (disk : Disk) : disk.Grows Permitted disk := fun _ => .inl rfl

theorem Grows.trans (h : disk.Grows Permitted disk') (h' : disk'.Grows Permitted disk'') :
    disk.Grows Permitted disk'' := by
  intro place
  rcases h' place with hsame | ⟨hnone, hnew⟩
  · rw [hsame]
    exact h place
  · rcases h place with hsame' | ⟨hnone', sight, hsight, -⟩
    · exact .inr ⟨hsame'.symm.trans hnone, hnew⟩
    · cases hsight.symm.trans hnone

theorem Grows.sight?_eq (h : disk.Grows Permitted disk') {place : Place} {sight : Sight}
    (hsight : disk.sight? place = some sight) : disk'.sight? place = some sight := by
  rcases h place with hsame | ⟨hnone, -⟩
  · rw [hsame, hsight]
  · cases hnone.symm.trans hsight

theorem grows_put {inside : Folder} {front : Place} {name : String}
    (hfront : disk.entry? front = some (.directory inside)) (hname : inside.get? name = none)
    {sight : Sight} (hpermitted : Permitted (front ++ [name]) sight) :
    disk.Grows Permitted (disk.put (front ++ [name]) sight.entry) := by
  intro place
  have hput : (disk.put (front ++ [name]) sight.entry).sight? place =
      if place = front ++ [name] then some sight else disk.sight? place :=
    Folder.sight?_put hfront hname sight place
  by_cases hplace : place = front ++ [name]
  · subst hplace
    rw [hput, if_pos rfl]
    have hfree : disk.root.entry? (front ++ [name]) = none :=
      (Folder.entry?_concat hfront name).trans hname
    exact .inr ⟨congrArg (Option.map Entry.sight) hfree, sight, rfl, hpermitted⟩
  · rw [hput, if_neg hplace]
    exact .inl rfl

/-! ## Making directories -/

theorem makeDirectory_grows {path : Path} (hpermitted : Permitted path.names .directory)
    (h : disk.makeDirectory path = .ok disk') : disk.Grows Permitted disk' := by
  obtain ⟨front, name, inside, hnames, hfront, hname, rfl⟩ := makeDirectory_eq_ok h
  have hgrows : disk.Grows Permitted (disk.put (front ++ [name]) Sight.directory.entry) :=
    grows_put hfront hname (hnames ▸ hpermitted)
  exact hgrows

theorem settleFor_grows {path : Path} (hpermitted : Permitted path.names .directory)
    (disk : Disk) : disk.Grows Permitted (makeDirectories.settleFor disk path).2 := by
  unfold makeDirectories.settleFor
  split
  · next hmade => exact makeDirectory_grows hpermitted hmade
  · split
    · exact .refl disk
    · exact .refl disk

/-- Making the directories of a lineage only makes such directories, however far it
comes. -/
theorem makeDirectories_grows {lineage : List Path}
    (hpermitted : ∀ path ∈ lineage, Permitted path.names .directory) (disk : Disk) :
    disk.Grows Permitted (disk.makeDirectories lineage).2 := by
  induction lineage with
  | nil => exact .refl disk
  | cons path above ih =>
      obtain ⟨hpath, habove⟩ := List.forall_mem_cons.mp hpermitted
      have hgrows := ih habove
      unfold makeDirectories
      split
      · next hmade => exact makeDirectory_grows hpath hmade
      split
      · split
        · next hmade =>
            rw [hmade] at hgrows
            exact hgrows
        · next hmade =>
            rw [hmade] at hgrows
            exact hgrows.trans (settleFor_grows hpath _)
      · exact settleFor_grows hpath disk

theorem enter_of_openOrCreate {path : Path} {place : Place}
    (h : disk.openOrCreate path = .ok (place, disk')) :
    ∃ inside, enter disk.root path.ending.leading = .ok inside := by
  simp only [openOrCreate, bind, Except.bind] at h
  split at h
  · cases h
  split at h
  · cases h
  · next inside henter => exact ⟨inside, henter⟩

theorem openOrCreate_grows {path : Path} {place : Place}
    (hpermitted : Permitted path.names (.file []))
    (h : disk.openOrCreate path = .ok (place, disk')) : disk.Grows Permitted disk' := by
  obtain ⟨inside, henter⟩ := enter_of_openOrCreate h
  obtain ⟨hregular, -, ⟨bytes, -, rfl⟩ | ⟨hnone, rfl⟩⟩ := openOrCreate_eq_ok h
  · exact .refl _
  · have hfront := (enter_eq_ok_iff.mp henter).2
    rw [Path.names_eq hregular.last_eq] at hnone hpermitted ⊢
    have hname : inside.get? path.ending.last = none :=
      (Folder.entry?_concat hfront _).symm.trans hnone
    have hgrows : Grows Permitted _ (Disk.put _ _ (Sight.file []).entry) :=
      grows_put hfront hname hpermitted
    exact hgrows

end Disk

/-! ## Ancestors lie on the way -/

namespace Path

theorem names_front {front path : Path} (h : front.segments <+: path.segments) :
    front.names <+: path.names := by
  obtain ⟨rest, hrest⟩ := h
  refine ⟨rest.filter fun segment => !idle segment, ?_⟩
  rw [names, names, ← hrest, List.filter_append]

theorem prefix_of_mem_lineage {backward : List String} {member : Path}
    (h : member ∈ lineage backward) : member.segments <+: backward.reverse := by
  fun_induction lineage backward with
  | case1 => cases h
  | case2 segment above hskip ih =>
      rw [List.reverse_cons]
      exact (ih h).trans (List.prefix_append _ _)
  | case3 segment above hkept ih =>
      rcases List.mem_cons.mp h with rfl | hmem
      · exact List.prefix_rfl
      · rw [List.reverse_cons]
        exact (ih hmem).trans (List.prefix_append _ _)

theorem short_of_mem_tail {backward : List String} {member : Path}
    (h : member ∈ (lineage backward).tail) :
    member.names <+: (Path.mk backward.reverse).names ∧
      member.names.length < (Path.mk backward.reverse).names.length := by
  fun_induction lineage backward with
  | case1 => cases h
  | case2 segment above hskip ih =>
      obtain ⟨hfront, hlength⟩ := ih h
      have hlonger : (Path.mk above.reverse).names <+: (Path.mk (segment :: above).reverse).names :=
        names_front ⟨[segment], List.reverse_cons.symm⟩
      exact ⟨hfront.trans hlonger, Nat.lt_of_lt_of_le hlength hlonger.length_le⟩
  | case3 segment above hkept ih =>
      have hmem : member ∈ lineage above := h
      have hfront : member.names <+: (Path.mk above.reverse).names :=
        names_front (prefix_of_mem_lineage hmem)
      have habove : above.isEmpty = false := by
        cases above with
        | nil => cases hmem
        | cons next above => rfl
      have hnamed : idle segment = false := by
        rw [habove] at hkept
        simpa [idle] using hkept
      have hnames : (Path.mk (segment :: above).reverse).names =
          (Path.mk above.reverse).names ++ [segment] := by
        rw [names, names, List.reverse_cons, List.filter_append]
        simp [hnamed]
      rw [hnames, List.length_append]
      exact ⟨hfront.trans (List.prefix_append _ _), Nat.lt_succ_of_le hfront.length_le⟩

theorem ancestors_short {path above : Path} (h : above ∈ path.ancestors) :
    above.names <+: path.names ∧ above.names ≠ path.names := by
  obtain ⟨hfront, hlength⟩ := short_of_mem_tail h
  rw [List.reverse_reverse] at hfront hlength
  exact ⟨hfront, fun hsame => Nat.lt_irrefl _ (hsame ▸ hlength)⟩

end Path

/-! ## Opening -/

/-- What opening a path may add to a disk: directories on the way to it, and where it
leads an empty file, if it is opened. -/
inductive Path.Permits (path : Path) (opened : Bool) : Place → Sight → Prop
  | directory {place : Place} : place <+: path.names → place ≠ path.names →
      path.Permits opened place .directory
  | file : opened = true → path.Permits opened path.names (.file [])

namespace OpenFile

/-- However far opening comes, the disk only grows, and only where it may. -/
theorem opening_grows (disk : Disk) (path : Path) (policy : SyncPolicy) :
    disk.Grows (path.Permits (opening disk path policy).1.isOk)
      (opening disk path policy).2.1 := by
  have hdirectories : ∀ opened, disk.Grows (path.Permits opened)
      (disk.makeDirectories path.ancestors).2 := by
    intro opened
    apply Disk.makeDirectories_grows
    intro above habove
    obtain ⟨hfront, hshort⟩ := Path.ancestors_short habove
    exact .directory hfront hshort
  unfold opening
  split
  · next hmade =>
      rw [hmade] at hdirectories
      exact hdirectories _
  · next hmade =>
      rw [hmade] at hdirectories
      split
      · exact hdirectories _
      · next hopen => exact (hdirectories _).trans (Disk.openOrCreate_grows (.file rfl) hopen)

/-- The file was opened where the path led on the first disk, and stands at its end.
Opening the path again leaves the disk as it is, and is there too. -/
structure Settled (disk disk' : Disk) (path : Path) (file : OpenFile) : Prop where
  position_eq : Medium.position file = ((disk.file? path).getD []).length
  file?_eq : disk'.file? path = some ((disk.file? path).getD [])
  again (policy : SyncPolicy) :
    ∃ (file' : OpenFile) (told : List Event),
      opening disk' path policy = (.ok file', disk', told) ∧
        Medium.position file' = Medium.position file

theorem settled_of_opening {disk disk' : Disk} {path : Path} {policy : SyncPolicy}
    {file : OpenFile} {told : List Event}
    (h : opening disk path policy = (.ok file, disk', told)) : Settled disk disk' path file := by
  obtain ⟨hstands, hbytes⟩ := stands_of_opening (congrArg Prod.fst h)
  have hposition : Medium.position file = file.bytes.length := (undisturbed_of_opening h).2
  have hopened : file.disk = disk' ∧ file.path = path := by
    unfold opening at h
    split at h
    · cases h
    split at h
    · cases h
    · cases h
      exact ⟨rfl, rfl⟩
  obtain ⟨rfl, rfl⟩ := hopened
  exact
    { position_eq := hbytes ▸ hposition
      file?_eq := hbytes ▸ hstands.file?_eq
      again := fun policy => ⟨_, _, opening_of_file hstands.file?_eq policy, hposition.symm⟩ }

end OpenFile

namespace Journal

variable {disk disk' : Disk} {path : Path} {policy : SyncPolicy} {settings : Settings}
variable {told : List Event}

theorem openFile_of_negative (disk : Disk) (path : Path) (policy : SyncPolicy)
    (h : settings.capacity < 0) :
    openFile disk path settings policy =
      (.error (.invalidArgument (.settings (.negativeCapacity settings.capacity))), disk, []) := by
  rw [openFile, Settings.validate, if_pos h]

theorem validate_of_nonneg (h : 0 ≤ settings.capacity) : settings.validate = .ok () := by
  rw [Settings.validate, if_neg (Int64.not_lt.mpr h)]

theorem openFile_of_error (hcapacity : 0 ≤ settings.capacity) {error : MediumError}
    (h : OpenFile.opening disk path policy = (.error error, disk', told)) :
    openFile disk path settings policy = (.error (.io error), disk', told) := by
  rw [openFile, validate_of_nonneg hcapacity, h]

theorem openFile_of_ok (hcapacity : 0 ≤ settings.capacity) {file : OpenFile}
    (h : OpenFile.opening disk path policy = (.ok file, disk', told)) :
    ∃ more : List Event, openFile disk path settings policy =
      (.ok (live (.fresh file settings .heap)), disk', told ++ more) := by
  obtain ⟨more, hstart⟩ := start_of_valid file (validate_of_nonneg hcapacity) .heap
  refine ⟨more, ?_⟩
  rw [openFile, validate_of_nonneg hcapacity, h]
  dsimp only
  rw [hstart]

/-- A journal has been opened just as the file was, and starts at its end. -/
structure OpenedAlike (result : Except MediumError OpenFile) (disk' : Disk)
    (opened : Except Failure (Journal OpenFile) × Disk × List Event) : Prop where
  disk_eq : opened.2.1 = disk'
  failed (error : MediumError) (h : result = .error error) : opened.1 = .error (.io error)
  begun (file : OpenFile) (h : result = .ok file) :
    ∃ j : Live OpenFile, opened.1 = .ok (live j) ∧ j.medium = file ∧
      (live j).position = .ok (Medium.position file) ∧
      (live j).flushedPosition = .ok (Medium.position file)

theorem openedAlike_of_opening (hcapacity : 0 ≤ settings.capacity)
    {result : Except MediumError OpenFile}
    (h : OpenFile.opening disk path policy = (result, disk', told)) :
    OpenedAlike result disk' (openFile disk path settings policy) := by
  cases result with
  | error error =>
      rw [openFile_of_error hcapacity h]
      refine ⟨rfl, ?_, nofun⟩
      intro failure hfailure
      cases hfailure
      rfl
  | ok file =>
      obtain ⟨more, hopen⟩ := openFile_of_ok hcapacity h
      rw [hopen]
      refine ⟨rfl, nofun, ?_⟩
      intro opened hopened
      cases hopened
      have hheld := Live.fresh_held Supply.heap_honest file settings
      refine ⟨_, rfl, rfl, ?_, rfl⟩
      show Except.ok (_ + (Live.fresh file settings Supply.heap).held.length) = _
      rw [hheld]
      rfl

/-- **Opening harms nothing.**  Whatever is on the disk and whatever the path, opening
the file there, whether it succeeds or fails, leaves every file and every directory
as they were.  All that may be new are directories on the way, and the file itself,
empty, if it could be opened.  A file that was opened stands at its end, and opening
the path again gives the same file and changes nothing.  A journal over a file is
opened so too, and starts where the file ends, unless its capacity is negative: then
nothing is touched. -/
theorem opening_harms_nothing {result : Except MediumError OpenFile}
    (h : OpenFile.opening disk path policy = (result, disk', told)) :
    disk.Grows (path.Permits result.isOk) disk' ∧
      (∀ file : OpenFile, result = .ok file → OpenFile.Settled disk disk' path file) ∧
      ∀ settings : Settings,
        (0 ≤ settings.capacity →
          OpenedAlike result disk' (openFile disk path settings policy)) ∧
        (settings.capacity < 0 →
          openFile disk path settings policy =
            (.error (.invalidArgument (.settings (.negativeCapacity settings.capacity))),
              disk, [])) := by
  have hgrows := OpenFile.opening_grows disk path policy
  rw [h] at hgrows
  refine ⟨hgrows, ?_, ?_⟩
  · rintro file rfl
    exact OpenFile.settled_of_opening h
  · intro settings
    exact ⟨fun hcapacity => openedAlike_of_opening hcapacity h,
      openFile_of_negative disk path policy⟩

def shelf : Disk := ⟨.file "ledger" [9] .empty⟩

/-- Two directories on the way are made, and the file.  The one that is on the disk
already cannot be a directory, and stays as it is. -/
theorem opening_harms_nothing_on_shelf :
    ∃ (file : OpenFile) (disk' : Disk) (told : List Event),
      OpenFile.opening shelf ⟨["log", "old", "day"]⟩ .dataOnly = (.ok file, disk', told) ∧
        disk'.sight? ["ledger"] = some (.file [9]) ∧
        disk'.sight? ["log", "old"] = some .directory ∧
        Medium.position file = 0 ∧
        (OpenFile.opening shelf ⟨["ledger", "day"]⟩ .dataOnly).1 =
          .error (.system .alreadyExists) ∧
        (OpenFile.opening shelf ⟨["ledger", "day"]⟩ .dataOnly).2.1.sight? ["ledger"] =
          some (.file [9]) := by
  have hopened : OpenFile.opening shelf ⟨["log", "old", "day"]⟩ .dataOnly =
    (.ok _, _, _) := rfl
  have hrefused : OpenFile.opening shelf ⟨["ledger", "day"]⟩ .dataOnly =
    (.error (.system .alreadyExists), _, _) := rfl
  obtain ⟨hgrows, hsettled, -⟩ := opening_harms_nothing hopened
  obtain ⟨hgrows', -, -⟩ := opening_harms_nothing hrefused
  exact ⟨_, _, _, hopened, hgrows.sight?_eq (by decide), by decide, (hsettled _ rfl).position_eq,
    rfl, hgrows'.sight?_eq (by decide)⟩

end Journal

end WriteBack
