/-
# Layouts — how the digits of a number are set

A layout fixes everything about a written number that is not its digits:
between which magnitudes the digits are set around a point, what a whole
number ends in, and how a power of ten is marked.
-/
import WriteBack.Decimal.Shortest

namespace WriteBack.Decimal

/-- How numbers are set.  A number whose first digit counts `10 ^ e` is set
around a point if `e` lies from `least` to `most`, and with a marked power
of ten otherwise. -/
structure Layout where
  least : Int
  most : Int
  whole : String
  mark : String
  plus : String
deriving DecidableEq, Repr

namespace Layout

/-- The layout of numbers in messages: five zeros after the point are
written out, and sixteen digits before it; a whole number shows that it is
not an integer, and a power of ten shows its sign. -/
def message : Layout := ⟨-5, 15, ".0", "e", "+"⟩

/-- Sets the digits, the first of which counts `10 ^ leading`, around a
point. -/
def positional (layout : Layout) (digits : List Char) (leading : Int) : String :=
  if leading < 0 then
    "0." ++ String.ofList (List.replicate (-leading - 1).toNat '0' ++ digits)
  else
    let places := leading.toNat + 1
    let whole := digits.take places ++ List.replicate (places - digits.length) '0'
    let rest := digits.drop places
    String.ofList whole ++ if rest.isEmpty then layout.whole else "." ++ String.ofList rest

/-- Sets the digits with a marked power of ten, one digit before the
point. -/
def scientific (layout : Layout) (digits : List Char) (leading : Int) : String :=
  let rest := digits.drop 1
  String.ofList (digits.take 1) ++ (if rest.isEmpty then "" else "." ++ String.ofList rest) ++
    layout.mark ++ (if leading < 0 then "-" else layout.plus) ++ toString leading.natAbs

/-- Sets the positive number `digits * 10 ^ power`. -/
def set (layout : Layout) (digits : Nat) (power : Int) : String :=
  let shown := Nat.toDigits 10 digits
  let leading := power + shown.length - 1
  if layout.least ≤ leading && leading ≤ layout.most then layout.positional shown leading
  else layout.scientific shown leading

/-- Writes a finite number in its shortest form; zero keeps its sign. -/
def write (layout : Layout) (x : Float) : String :=
  let bits := x.toBits
  let sign := if bits.toNat < Nat.pow 2 63 then "" else "-"
  let magnitude := Binary.ofBits bits
  if magnitude.mantissa = 0 then sign ++ "0" ++ layout.whole
  else
    let (digits, power) := magnitude.shortest
    sign ++ layout.set digits power

end Layout

end WriteBack.Decimal
