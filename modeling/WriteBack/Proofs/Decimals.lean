/-
# Decimals — signed words as they are written

A signed word is written in decimal: its digits, without a zero in front
unless that is all there is, and a sign if it is below zero.  What is written
is a numeral of JSON, and the numeral stands for the word it was written
from.  That covers the least word too: its digits spell a number that no
signed word is, and are read into an unsigned one.
-/
import WriteBack.Proofs.Grammar
import WriteBack.Settings.Reading

namespace WriteBack

namespace Json.Numeral

/-! ## Digits taken into a word -/

theorem le_foldl_digits (digits : List Nat) (word : Nat) :
    word ≤ digits.foldl (fun n digit => 10 * n + digit) word := by
  induction digits generalizing word with
  | nil => exact Nat.le_refl word
  | cons digit digits ih =>
      have := ih (10 * word + digit)
      rw [List.foldl_cons]
      omega

theorem accumulate_eq (digits : List Nat) {word : Nat}
    (h : digits.foldl (fun n digit => 10 * n + digit) word ≤ wordMax) :
    accumulate word digits =
      (digits.foldl (fun n digit => 10 * n + digit) word, digits.length, 0) := by
  induction digits generalizing word with
  | nil => rfl
  | cons digit digits ih =>
      rw [List.foldl_cons] at h
      have hfits : 10 * word + digit ≤ wordMax := Nat.le_trans (le_foldl_digits digits _) h
      rw [accumulate, if_pos hfits, ih h]
      rfl

/-! ## Natural numbers -/

/-- The digits of a natural number, each for what it stands for. -/
def digitsOf (n : Nat) : List Nat := (Nat.toDigits 10 n).map fun c => c.toNat - '0'.toNat

theorem ofDigits_digitsOf (n : Nat) : ofDigits (digitsOf n) = n := by
  rw [ofDigits, digitsOf, List.foldl_map, ← Nat.ofDigitChars_eq_foldl]
  exact Nat.ofDigitChars_ten_toDigits

theorem digits_toDigits (n : Nat) : Digits (Nat.toDigits 10 n) (digitsOf n) where
  ne_nil := Nat.toDigits_ne_nil
  isDigit := fun _ hc => Nat.isDigit_of_mem_toDigits (by decide) (by decide) hc
  values := rfl

theorem toDigits_head {n : Nat} (h : 0 < n) :
    ∃ c text, Nat.toDigits 10 n = c :: text ∧ c ≠ '0' := by
  induction n using Nat.strongRecOn with
  | ind n ih =>
      by_cases hlt : n < 10
      · refine ⟨n.digitChar, [], Nat.toDigits_of_lt_base hlt, fun hzero => ?_⟩
        exact absurd (Nat.digitChar_eq_zero.mp hzero) (Nat.ne_of_gt h)
      · obtain ⟨c, text, heq, hc⟩ := ih (n / 10) (by omega) (by omega)
        refine ⟨c, text ++ [(n % 10).digitChar], ?_, hc⟩
        rw [Nat.toDigits_of_base_le (by decide) (by omega), heq, List.cons_append]

theorem whole_toDigits (n : Nat) : Whole (Nat.toDigits 10 n) (digitsOf n) := by
  have hdigits := digits_toDigits n
  by_cases hn : n = 0
  · subst hn
    exact .zero
  · obtain ⟨c, text, heq, hc⟩ := toDigits_head (Nat.pos_of_ne_zero hn)
    rw [heq] at hdigits ⊢
    exact .digits hc hdigits

/-! ## Signed words -/

def ofInt (value : Int) : Numeral :=
  { negative := decide (value < 0), whole := digitsOf value.natAbs }

theorem written_ofInt (value : Int) : Written (toString value).toList (ofInt value) := by
  cases value with
  | ofNat n =>
      have htext : (toString (Int.ofNat n)).toList = Nat.toDigits 10 n := String.toList_ofList
      have hwritten := Written.unsigned (whole_toDigits n) .absent .absent
      rw [List.append_nil, List.append_nil] at hwritten
      rw [htext]
      exact hwritten
  | negSucc n =>
      have htext : (toString (Int.negSucc n)).toList = '-' :: Nat.toDigits 10 (n + 1) := by
        change ("-" ++ (n + 1).repr).toList = _
        rw [String.toList_append]
        exact congrArg ('-' :: ·) String.toList_ofList
      have hwritten := Written.negative (whole_toDigits (n + 1)) .absent .absent
      rw [List.append_nil, List.append_nil] at hwritten
      have hneg : ofInt (Int.negSucc n) = ⟨true, digitsOf (n + 1), [], none⟩ := by
        rw [ofInt, decide_eq_true (Int.negSucc_lt_zero n), Int.natAbs_negSucc]
      rw [htext, hneg]
      exact hwritten

theorem value?_ofInt {value : Int} (hlow : -Nat.pow 2 63 ≤ value) (hhigh : value < Nat.pow 2 63) :
    (ofInt value).value? = some (.integer value) := by
  have hfits : ofDigits (digitsOf value.natAbs) ≤ wordMax := by
    rw [ofDigits_digitsOf]
    simp only [wordMax, Nat.pow_eq] at *
    omega
  have htaken : accumulate 0 (digitsOf value.natAbs) =
      (value.natAbs, (digitsOf value.natAbs).length, 0) := by
    rw [accumulate_eq _ hfits]
    exact congrArg (·, _, 0) (ofDigits_digitsOf _)
  rw [value?, ofInt, htaken]
  by_cases hneg : value < 0
  · have hvalue : -(value.natAbs : Int) = value := by omega
    have hbound : ¬(value = 0 ∨ 9223372036854775808 < value.natAbs) := by
      simp only [Nat.pow_eq] at hlow
      omega
    simpa [hneg, hbound] using hvalue
  · have hvalue : (value.natAbs : Int) = value := by omega
    simpa [hneg] using hvalue

end Json.Numeral

open Json in
/-- A signed word is read back from what is written. -/
theorem Settings.readWord_ofInt (value : Int64) :
    readWord (.numeral (Numeral.ofInt value.toInt)) = .ok value := by
  have hlow : -Nat.pow 2 63 ≤ value.toInt := value.le_toInt
  have hhigh : value.toInt < Nat.pow 2 63 := value.toInt_lt
  rw [readWord, Numeral.value?_ofInt hlow hhigh]
  simp only [wordOf]
  rw [if_neg (Int.not_le.mpr hhigh), Int64.ofInt_toInt]

end WriteBack
