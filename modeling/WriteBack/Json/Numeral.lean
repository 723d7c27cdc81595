/-
# Numerals — numbers as they are written in JSON

A numeral is a sign, digits, perhaps a fraction and perhaps a power of ten;
its digits do not begin with a zero unless there is only the one.  Reading a
numeral settles its form alone.

What number it stands for is another question, with an answer in words of 64
bits.  A numeral without fraction and power is an integer if it fits.
Everything else is a floating-point number: as many digits as fit a word are
kept, later ones count for their place at most, and the word is multiplied
or divided by a power of ten.  A numeral that is too large for that stands
for no number.
-/
namespace WriteBack.Json

/-- A numeral in its parts.  No fraction is an empty one; a power of ten is
the sign (true for minus) and the digits of its exponent. -/
structure Numeral where
  negative : Bool
  whole : List Nat
  fraction : List Nat := []
  power : Option (Bool × List Nat) := none
deriving DecidableEq, Repr

inductive Number where
  | integer (value : Int)
  | floating (value : Float)

namespace Numeral

/-! ## Reading the form -/

/-- Splits the digits off the front of a text. -/
def splitDigits (text : List Char) : List Nat × List Char :=
  ((text.takeWhile Char.isDigit).map fun c => c.toNat - '0'.toNat,
    text.dropWhile Char.isDigit)

/-- Splits digits off, at least one. -/
def splitDigits1? (text : List Char) : Option (List Nat × List Char) :=
  match splitDigits text with
  | ([], _) => none
  | split => some split

/-- The digits before the point: a single zero, or digits that begin with
another one. -/
def readWhole (text : List Char) : Option (List Nat × List Char) :=
  match splitDigits text with
  | ([], _) => none
  | (0 :: _ :: _, _) => none
  | split => some split

/-- A fraction, if one follows; a point must have digits behind it. -/
def readFraction : List Char → Option (List Nat × List Char)
  | '.' :: rest => splitDigits1? rest
  | rest => some ([], rest)

/-- The exponent of a power of ten, behind its mark. -/
def readExponent : List Char → Option ((Bool × List Nat) × List Char)
  | '-' :: rest => (splitDigits1? rest).map fun (digits, rest) => ((true, digits), rest)
  | '+' :: rest => (splitDigits1? rest).map fun (digits, rest) => ((false, digits), rest)
  | rest => (splitDigits1? rest).map fun (digits, rest) => ((false, digits), rest)

/-- A power of ten, if one follows. -/
def readPower : List Char → Option (Option (Bool × List Nat) × List Char)
  | 'e' :: rest | 'E' :: rest =>
    (readExponent rest).map fun (power, rest) => (some power, rest)
  | rest => some (none, rest)

/-- A numeral without its sign, and what follows it. -/
def readUnsigned (negative : Bool) (text : List Char) : Option (Numeral × List Char) := do
  let (whole, text) ← readWhole text
  let (fraction, text) ← readFraction text
  let (power, text) ← readPower text
  return ({ negative, whole, fraction, power }, text)

def read : List Char → Option (Numeral × List Char)
  | '-' :: rest => readUnsigned true rest
  | text => readUnsigned false text

/-! ### Reading a numeral uses up text -/

theorem length_splitDigits (text : List Char) :
    (splitDigits text).1.length + (splitDigits text).2.length = text.length := by
  simp only [splitDigits, List.length_map]
  rw [← List.length_append, List.takeWhile_append_dropWhile]

theorem length_of_splitDigits1? {text rest : List Char} {digits : List Nat}
    (h : splitDigits1? text = some (digits, rest)) : rest.length < text.length := by
  have hlen := length_splitDigits text
  unfold splitDigits1? at h
  split at h
  · cases h
  · next hne =>
    cases digits with
    | nil => exact absurd (Option.some.inj h) (hne rest)
    | cons d ds =>
      rw [Option.some.inj h] at hlen
      simp only [List.length_cons] at hlen
      omega

theorem length_of_readWhole {text rest : List Char} {digits : List Nat}
    (h : readWhole text = some (digits, rest)) : rest.length < text.length := by
  refine @length_of_splitDigits1? text rest digits ?_
  unfold readWhole at h
  unfold splitDigits1?
  split at h <;> simp_all

theorem length_of_readFraction {text rest : List Char} {digits : List Nat}
    (h : readFraction text = some (digits, rest)) : rest.length ≤ text.length := by
  unfold readFraction at h
  split at h
  · have := length_of_splitDigits1? h
    simp only [List.length_cons]
    omega
  · cases h
    exact Nat.le_refl _

theorem length_of_readExponent {text rest : List Char} {power : Bool × List Nat}
    (h : readExponent text = some (power, rest)) : rest.length < text.length := by
  unfold readExponent at h
  split at h <;>
    simp only [Option.map_eq_some_iff, Prod.exists, Prod.mk.injEq] at h <;>
    obtain ⟨digits, left, hsplit, _, rfl⟩ := h <;>
    have := length_of_splitDigits1? hsplit
  · simp only [List.length_cons]; omega
  · simp only [List.length_cons]; omega
  · exact this

theorem length_of_readPower {text rest : List Char} {power : Option (Bool × List Nat)}
    (h : readPower text = some (power, rest)) : rest.length ≤ text.length := by
  unfold readPower at h
  split at h
  · simp only [Option.map_eq_some_iff, Prod.exists, Prod.mk.injEq] at h
    obtain ⟨negative, digits, left, hread, _, rfl⟩ := h
    have := length_of_readExponent hread
    simp only [List.length_cons]
    omega
  · simp only [Option.map_eq_some_iff, Prod.exists, Prod.mk.injEq] at h
    obtain ⟨negative, digits, left, hread, _, rfl⟩ := h
    have := length_of_readExponent hread
    simp only [List.length_cons]
    omega
  · cases h
    exact Nat.le_refl _

theorem length_of_readUnsigned {negative : Bool} {text rest : List Char} {n : Numeral}
    (h : readUnsigned negative text = some (n, rest)) : rest.length < text.length := by
  simp only [readUnsigned, Option.bind_eq_bind, Option.bind_eq_some_iff, Prod.exists] at h
  obtain ⟨whole, text₁, hwhole, fraction, text₂, hfraction, power, text₃, hpower, h⟩ := h
  cases h
  have := length_of_readWhole hwhole
  have := length_of_readFraction hfraction
  have := length_of_readPower hpower
  omega

theorem length_of_read {text rest : List Char} {n : Numeral}
    (h : read text = some (n, rest)) : rest.length < text.length := by
  unfold read at h
  split at h
  · have := length_of_readUnsigned h
    simp only [List.length_cons]
    omega
  · exact length_of_readUnsigned h

/-! ## What it stands for -/

def wordMax : Nat := Nat.pow 2 64 - 1

/-- Takes digits into a word for as long as they fit: the word, how many
were taken, and how many were left. -/
def accumulate (word : Nat) : List Nat → Nat × Nat × Nat
  | [] => (word, 0, 0)
  | digit :: digits =>
    if 10 * word + digit ≤ wordMax then
      let (word, taken, left) := accumulate (10 * word + digit) digits
      (word, taken + 1, left)
    else (word, 0, digits.length + 1)

def ofDigits (digits : List Nat) : Nat :=
  digits.foldl (fun n digit => 10 * n + digit) 0

/-- The largest power of ten that is a double-precision number. -/
def largestPower : Nat := 308

/-- The double-precision number nearest to a power of ten. -/
def powerOfTen (k : Nat) : Float := Float.ofScientific 1 false k

/-- `x` divided by `10 ^ k`, by no more than the largest power at a time. -/
def shrink (x : Float) (k : Nat) : Float :=
  if k ≤ largestPower then x / powerOfTen k
  else if x == 0 then x
  else shrink (x / powerOfTen largestPower) (k - largestPower)
termination_by k
decreasing_by
  simp only [largestPower] at *
  omega

/-- A word times a power of ten, unless that is beyond all numbers. -/
def scale (word : Nat) (exponent : Int) : Option Float :=
  let x := (UInt64.ofNat word).toFloat
  if exponent < 0 then some (shrink x exponent.natAbs)
  else if exponent.natAbs ≤ largestPower then
    let scaled := x * powerOfTen exponent.natAbs
    if scaled.isInf then none else some scaled
  else if word = 0 then some 0 else none

/-- The number with the numeral's sign. -/
def signed (n : Numeral) (magnitude : Float) : Number :=
  .floating (if n.negative then -magnitude else magnitude)

/-- The number of a numeral that is no integer by its form or its size, from
the word of its whole digits and how many of them did not fit. -/
def floating? (n : Numeral) (word dropped : Nat) : Option Number :=
  let (word, taken, _) := accumulate word n.fraction
  let exponent : Int := match n.power with
    | none => 0
    | some (true, digits) => -(ofDigits digits : Int)
    | some (false, digits) => ofDigits digits
  (scale word ((dropped : Int) - taken + exponent)).map n.signed

/-- The number that a numeral stands for.  Minus zero is no integer, and
neither is what lies below the words with a sign. -/
def value? (n : Numeral) : Option Number :=
  let (word, _, dropped) := accumulate 0 n.whole
  if !n.fraction.isEmpty || n.power.isSome || dropped ≠ 0 then n.floating? word dropped
  else if !n.negative then some (.integer word)
  else if word = 0 || Nat.pow 2 63 < word then some (n.signed (UInt64.ofNat word).toFloat)
  else some (.integer (-word))

end Numeral

end WriteBack.Json
