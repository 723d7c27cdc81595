/-
# Tampering — a file that others change while it is open

Others may add to a file while it is open, cut it, extend it or write over it.
The cursor does not follow them: it tells where the next append goes, whether
the file ends there, has grown past it or has been cut short of it.  An append
over what others have added writes over it, and one past the end leaves a hole
that reads as zeros.  In neither case is a byte harmed that the append does not
name (`Bytes.Laid`).

So the cursor of a file is where it was opened and then the bytes that it took,
whatever has happened to the file in between (`Handled.position_eq`).
-/
import WriteBack.Proofs.Recording

namespace WriteBack

/-! ## Laying data over a string of bytes -/

namespace Bytes

/-- The data has been laid over the string at an offset: it stands there, all
other bytes are as they were, and what lies between them and the offset is zero. -/
structure Laid (old : Bytes) (start : Nat) (data new : Bytes) : Prop where
  slice_eq : new.slice start data.length = data
  kept (i : Nat) (hold : i < old.length) (hbeside : i < start ∨ start + data.length ≤ i) :
    new[i]? = old[i]?
  hole (i : Nat) (hold : old.length ≤ i) (hbefore : i < start) : new[i]? = some 0
  length_eq : new.length = max old.length (start + data.length)

theorem length_lead (old : Bytes) (offset : Nat) :
    (old.take offset ++ zeros (offset - old.length)).length = offset := by
  rw [List.length_append, List.length_take, zeros, List.length_replicate]
  omega

theorem overwriteAt_of_ne_nil (old : Bytes) (offset : Nat) {data : Bytes} (hdata : data ≠ []) :
    old.overwriteAt offset data =
      (old.take offset ++ zeros (offset - old.length)) ++ (data ++ old.drop (offset + data.length))
      := by
  rw [overwriteAt, if_neg (by simpa using hdata), List.append_assoc _ data]

theorem getElem?_overwriteAt_before (old : Bytes) {offset i : Nat} {data : Bytes}
    (hdata : data ≠ []) (hi : i < offset) :
    (old.overwriteAt offset data)[i]? = if i < old.length then old[i]? else some 0 := by
  rw [overwriteAt_of_ne_nil _ _ hdata,
    List.getElem?_append_left ((length_lead old offset).symm ▸ hi)]
  split
  · next hold =>
      rw [List.getElem?_append_left (by rw [List.length_take]; omega), List.getElem?_take_of_lt hi]
  · next hold =>
      rw [List.getElem?_append_right (by rw [List.length_take]; omega), List.length_take, zeros,
        List.getElem?_replicate, if_pos (by omega)]

theorem getElem?_overwriteAt_from (old : Bytes) (offset i : Nat) {data : Bytes}
    (hdata : data ≠ []) :
    (old.overwriteAt offset data)[offset + i]? =
      (data ++ old.drop (offset + data.length))[i]? := by
  rw [overwriteAt_of_ne_nil _ _ hdata, List.getElem?_append_right (by rw [length_lead]; omega),
    length_lead, Nat.add_sub_cancel_left]

theorem getElem?_overwriteAt_behind (old : Bytes) {offset i : Nat} {data : Bytes}
    (hdata : data ≠ []) (hi : offset + data.length ≤ i) :
    (old.overwriteAt offset data)[i]? = old[i]? := by
  obtain ⟨further, rfl⟩ := Nat.exists_eq_add_of_le hi
  rw [Nat.add_assoc, getElem?_overwriteAt_from _ _ _ hdata,
    List.getElem?_append_right (Nat.le_add_right _ _), List.getElem?_drop,
    Nat.add_sub_cancel_left, Nat.add_assoc]

theorem overwriteAt_laid (old : Bytes) (start : Nat) {data : Bytes} (hdata : data ≠ []) :
    Laid old start data (old.overwriteAt start data) where
  slice_eq := by
    rw [overwriteAt_of_ne_nil _ _ hdata, slice, List.drop_left' (length_lead old start),
      List.take_left]
  kept i hold hbeside := by
    rcases hbeside with hbefore | hbehind
    · rw [getElem?_overwriteAt_before old hdata hbefore, if_pos hold]
    · exact getElem?_overwriteAt_behind old hdata hbehind
  hole i hold hbefore := by
    rw [getElem?_overwriteAt_before old hdata hbefore, if_neg (Nat.not_lt_of_le hold)]
  length_eq := by
    rw [overwriteAt_of_ne_nil _ _ hdata, List.length_append, length_lead, List.length_append,
      List.length_drop]
    omega

end Bytes

/-! ## What others do to a file -/

/-- A change that somebody else makes to a file: bytes added to its end, a new
length, or bytes written over others. -/
inductive Change where
  | add (data : Bytes)
  | resize (size : Nat)
  | overwrite (offset : Nat) (data : Bytes)
deriving DecidableEq, Repr

namespace Change

def apply : Change → Bytes → Bytes
  | add data, bytes => bytes ++ data
  | resize size, bytes => bytes.resize size
  | overwrite offset data, bytes => bytes.overwriteAt offset data

/-- The change cuts off the byte at an offset, or writes over it. -/
def Touches : Change → Nat → Prop
  | add _, _ => False
  | resize size, i => size ≤ i
  | overwrite offset data, i => offset ≤ i ∧ i < offset + data.length

instance (change : Change) (i : Nat) : Decidable (change.Touches i) :=
  match change with
  | add _ => inferInstanceAs (Decidable False)
  | resize size => inferInstanceAs (Decidable (size ≤ i))
  | overwrite offset data => inferInstanceAs (Decidable (offset ≤ i ∧ i < offset + data.length))

theorem getElem?_apply {change : Change} {bytes : Bytes} {i : Nat} (hi : i < bytes.length)
    (h : ¬ change.Touches i) : (change.apply bytes)[i]? = bytes[i]? := by
  cases change with
  | add data => exact List.getElem?_append_left hi
  | resize size =>
      have hkept : i < size := Nat.lt_of_not_le h
      show (bytes.take size ++ _)[i]? = _
      rw [List.getElem?_append_left (by rw [List.length_take]; omega),
        List.getElem?_take_of_lt hkept]
  | overwrite offset data =>
      by_cases hdata : data = []
      · rw [apply, hdata, Bytes.overwriteAt_nil]
      · apply (bytes.overwriteAt_laid offset hdata).kept i hi
        rw [Touches] at h
        omega

end Change

/-- Somebody else makes the change to the open file.  Whatever happens on the disk
besides, the file stays open where it is, with its cursor. -/
structure OpenFile.Tampered (change : Change) (f f' : OpenFile) : Prop where
  disk_only : f' = { f with disk := f'.disk }
  bytes_eq : f'.bytes = change.apply f.bytes

namespace OpenFile

variable {change : Change} {f f' : OpenFile}

theorem Tampered.place_eq (h : Tampered change f f') : f'.place = f.place := by
  rw [h.disk_only]

theorem Tampered.cursor_eq (h : Tampered change f f') : f'.cursor = f.cursor := by
  rw [h.disk_only]

theorem append_laid {f : OpenFile} (hplace : f.place ≠ []) {data : Bytes} (hdata : data ≠ []) :
    Bytes.Laid f.bytes f.cursor data (f.append data).bytes := by
  have hbytes : (f.append data).bytes = f.bytes.overwriteAt f.cursor data :=
    bytes_withBytes f _ hplace
  rw [hbytes]
  exact f.bytes.overwriteAt_laid f.cursor hdata

end OpenFile

/-! ## The cursor of a file that is tampered with -/

def Exchange.taken : Exchange → Bytes
  | ⟨.append data, .accepted (.ok ())⟩ => data
  | _ => []

section Handling

variable {σ : Type} [Medium σ] [Screened σ OpenFile]

/-- A medium before an open file has been called, its screen meddled with, and its
file tampered with, in any order.  The calls are recorded with their answers. -/
inductive Handled (first : σ) : List Exchange → σ → Prop
  | opened : Handled first [] first
  | called {record : List Exchange} {m : σ} (call : Medium.Call) : Handled first record m →
      Handled first (record ++ [⟨call, (Medium.answer m call).1⟩]) (Medium.answer m call).2
  | meddled {record : List Exchange} {m m' : σ} : Handled first record m →
      Screened.Meddled m m' → Handled first record m'
  | tampered {record : List Exchange} {m m' : σ} (change : Change) : Handled first record m →
      OpenFile.Tampered change (Screened.base m) (Screened.base m') → Handled first record m'

theorem base_of_append (m : σ) (data : Bytes) :
    ((Medium.append m data).1 = .error (.injected .writeAppend) ∧
        Screened.base (Medium.append m data).2 = Screened.base m) ∨
      (Medium.append m data).1 = .ok () ∧
        Screened.base (Medium.append m data).2 = (Screened.base m : OpenFile).append data :=
  Screened.append_cases m data

theorem base_of_sync (m : σ) :
    Screened.base (Medium.sync m).2 = (Screened.base m : OpenFile) := by
  rcases Screened.sync_cases m with ⟨-, hbase⟩ | ⟨-, hbase⟩
  · exact hbase
  · exact hbase

/-- A call leaves the file where it is, and moves its cursor by what it took. -/
theorem base_of_answer (m : σ) (call : Medium.Call) :
    (Screened.base (Medium.answer m call).2 : OpenFile).place =
        (Screened.base m : OpenFile).place ∧
      (Screened.base (Medium.answer m call).2 : OpenFile).cursor =
        (Screened.base m : OpenFile).cursor +
          (Exchange.taken ⟨call, (Medium.answer m call).1⟩).length := by
  cases call with
  | position => exact ⟨rfl, rfl⟩
  | size => exact ⟨rfl, rfl⟩
  | readAt offset wanted =>
      have hbase : Screened.base (Medium.readAt m offset wanted).2 = Screened.base m :=
        Live.readAt_base m offset wanted
      exact ⟨congrArg OpenFile.place hbase, congrArg OpenFile.cursor hbase⟩
  | append data =>
      have hanswer : Medium.answer m (.append data) =
          (.accepted (Medium.append m data).1, (Medium.append m data).2) := rfl
      rw [hanswer]
      rcases base_of_append m data with ⟨hrefused, hbase⟩ | ⟨haccepted, hbase⟩
      · rw [hrefused, hbase]
        exact ⟨rfl, rfl⟩
      · rw [haccepted, hbase]
        exact ⟨rfl, rfl⟩
  | sync =>
      have hbase := base_of_sync m
      exact ⟨congrArg OpenFile.place hbase, congrArg OpenFile.cursor hbase⟩

variable {first m : σ} {record : List Exchange}

theorem Handled.place_eq (h : Handled first record m) :
    (Screened.base m).place = (Screened.base first).place := by
  induction h with
  | opened => rfl
  | called call _ ih => exact (base_of_answer _ call).1.trans ih
  | meddled _ hmeddled ih => rw [Screened.base_of_meddled hmeddled, ih]
  | tampered change _ htampered ih => exact htampered.place_eq.trans ih

theorem Handled.position_eq (h : Handled first record m) :
    Medium.position m = Medium.position first + (record.flatMap Exchange.taken).length := by
  rw [Screened.position_eq, Screened.position_eq first]
  show (Screened.base m).cursor = (Screened.base first).cursor + _
  induction h with
  | opened => rfl
  | called call _ ih =>
      rw [(base_of_answer _ call).2, ih, List.flatMap_append, List.flatMap_singleton,
        List.length_append, Nat.add_assoc]
  | meddled _ hmeddled ih => rw [Screened.base_of_meddled hmeddled, ih]
  | tampered change _ htampered ih => exact htampered.cursor_eq.trans ih

/-- An append that is accepted has laid its data over the file, at the position from
before. -/
theorem Handled.append_laid (h : Handled first record m)
    (hplace : (Screened.base first).place ≠ []) {data : Bytes} (hdata : data ≠ [])
    (haccepted : (Medium.append m data).1 = .ok ()) :
    Bytes.Laid (Screened.base m).bytes (Medium.position m) data
      (Screened.base (Medium.append m data).2).bytes := by
  rcases base_of_append m data with ⟨hrefused, -⟩ | ⟨-, hbase⟩
  · cases hrefused.symm.trans haccepted
  · rw [hbase, Screened.position_eq]
    exact OpenFile.append_laid (h.place_eq.symm ▸ hplace) hdata

end Handling

end WriteBack
