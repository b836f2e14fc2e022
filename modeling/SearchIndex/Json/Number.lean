import SearchIndex.Decimal.Layout

/-!
# JSON numbers

A number is a whole number of 64 bits, signed or not, or a double. Whole numbers are written
exactly; a double is written by its shortest decimal.
-/

namespace SearchIndex.Json

/-- A whole number that is stored exactly: it fits a signed or an unsigned word of 64 bits. -/
def Fits (value : Int) : Prop :=
  -0x8000000000000000 ≤ value ∧ value < 0x10000000000000000

instance (value : Int) : Decidable (Fits value) :=
  inferInstanceAs (Decidable (_ ∧ _))

/-- A JSON number. -/
inductive Number where
  | whole (value : Int) (fits : Fits value)
  | real (value : Float)

/-- Doubles are written positionally from `0.00001` to below `1e+16`, always with a point or an
exponent, and an exponent always has its sign. -/
def realLayout : Decimal.Layout where
  lowest := -5
  highest := 15
  wholeMark := ['.', '0']
  exponentMark := 'e'
  plusSign := true

namespace Number

/-- The number as it is written. -/
def render : Number → List Char
  | .whole value _ => Decimal.signedDigits false value
  | .real value => realLayout.renderBits value.toBits

/-- The number as it is written. -/
def text (n : Number) : String :=
  String.ofList n.render

/-- The number of an integer that fits, and nothing otherwise. -/
def ofInt? (value : Int) : Option Number :=
  if fits : Fits value then some (.whole value fits) else none

/-- A count as a number; a count beyond a word becomes a double. -/
def ofNat (n : Nat) : Number :=
  if fits : Fits n then .whole n fits else .real (Float.ofNat n)

/-- The number as a natural number, if it is a whole one that is not negative. -/
def toNat? : Number → Option Nat
  | .whole value _ => if 0 ≤ value then some value.toNat else none
  | .real _ => none

/-- The nearest double. -/
def toFloat : Number → Float
  | .whole value _ => if value < 0 then -Float.ofNat value.natAbs else Float.ofNat value.natAbs
  | .real value => value

/-- A natural number fits if it has no more than 64 bits. -/
theorem fits_natCast {n : Nat} (h : n ≤ 0xFFFFFFFFFFFFFFFF) : Fits n := by
  have hlow : (0 : Int) ≤ n := Int.natCast_nonneg n
  unfold Fits
  omega

/-- A count of a word is held exactly. -/
theorem toNat?_ofNat {n : Nat} (h : n ≤ 0xFFFFFFFFFFFFFFFF) : (ofNat n).toNat? = some n := by
  rw [ofNat, dif_pos (fits_natCast h), toNat?, if_pos (Int.natCast_nonneg n), Int.toNat_natCast]

end Number

end SearchIndex.Json
