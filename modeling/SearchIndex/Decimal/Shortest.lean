/-!
# Shortest decimals

A finite double is a binary fraction, and many decimals read back as it: those in the interval of
reals that round to it. `shortest` finds, in exact arithmetic, the decimal of that interval with
the fewest digits, and of several such the one nearest to the double.
-/

namespace SearchIndex.Decimal

/-! ## Doubles as binary fractions -/

/-- The number `mantissa * 2 ^ exponent`, with the distance to the next lower double. -/
structure Binary where
  mantissa : Nat
  exponent : Int
  /-- The next lower double is only half as far away as the next higher one. -/
  narrowBelow : Bool
deriving DecidableEq, Repr

/-- The magnitude of a finite double, from its bits. -/
def Binary.ofBits (bits : UInt64) : Binary :=
  let fraction : Nat := bits.toNat % Nat.pow 2 52
  let exponent : Nat := bits.toNat / Nat.pow 2 52 % Nat.pow 2 11
  if exponent = 0 then ⟨fraction, -1074, false⟩
  else ⟨Nat.pow 2 52 + fraction, (exponent : Int) - 1075, fraction == 0 && exponent != 1⟩

/-- The bits carry a minus sign. -/
def isNegative (bits : UInt64) : Bool :=
  Nat.pow 2 63 ≤ bits.toNat

/-! ## Decimal numerals -/

/-- The number `digits * 10 ^ exponent`. -/
structure Numeral where
  digits : Nat
  exponent : Int
deriving DecidableEq, Repr

/-- A number as a fraction of two natural numbers in units of a quarter of its last binary place,
after division by `10 ^ power`: the number itself is `4 * mantissa * scale / unit`. -/
structure Grid where
  scale : Nat
  unit : Nat

/-- The decimal grid of spacing `10 ^ power` as seen from `b`. -/
def Grid.of (b : Binary) (power : Int) : Grid where
  scale := Nat.pow 2 b.exponent.toNat * Nat.pow 10 (-power).toNat
  unit := 4 * Nat.pow 2 (-b.exponent).toNat * Nat.pow 10 power.toNat

/-- The multiple of the grid that reads back as `b`, the nearest of two, if there is one. An
interval contains its ends when the mantissa is even, and of two equally near multiples the even
one is taken. -/
def Grid.hit (g : Grid) (b : Binary) : Option Nat :=
  let value := 4 * b.mantissa * g.scale
  let low := (4 * b.mantissa - if b.narrowBelow then 1 else 2) * g.scale
  let high := (4 * b.mantissa + 2) * g.scale
  let below := value / g.unit
  let above := below + 1
  let closed := b.mantissa % 2 = 0
  let belowHits := if closed then low ≤ below * g.unit else low < below * g.unit
  let aboveHits := if closed then above * g.unit ≤ high else above * g.unit < high
  if belowHits ∧ aboveHits then
    let left := value - below * g.unit
    let right := above * g.unit - value
    if left < right ∨ (left = right ∧ below % 2 = 0) then some below else some above
  else if belowHits then some below
  else if aboveHits then some above
  else none

/-- The power of ten at or below `b`, searched downwards from a bound on the binary logarithm. -/
def magnitude (b : Binary) : Int :=
  let bound := ((b.mantissa.log2 : Int) + b.exponent + 1) * 30103 / 100000 + 1
  let reaches (power : Int) : Bool :=
    Nat.pow 2 (-b.exponent).toNat * Nat.pow 10 power.toNat ≤
      b.mantissa * Nat.pow 2 b.exponent.toNat * Nat.pow 10 (-power).toNat
  -- The bound is never below the power, and at most three above it.
  if reaches bound then bound
  else if reaches (bound - 1) then bound - 1
  else if reaches (bound - 2) then bound - 2
  else bound - 3

/-- The numeral without trailing zero digits; `fuel` bounds how many are taken off. -/
def Numeral.stripZeros : (fuel : Nat) → Numeral → Numeral
  | 0, d => d
  | fuel + 1, d =>
    if d.digits % 10 = 0 ∧ d.digits ≠ 0 then stripZeros fuel ⟨d.digits / 10, d.exponent + 1⟩ else d

/-- The first grid with a hit among those of `count` digits, `count + 1` digits, and so on. -/
def search (b : Binary) (top : Int) : (fuel count : Nat) → Numeral
  | 0, _ => ⟨b.mantissa, 0⟩
  | fuel + 1, count =>
    let power := top - count + 1
    match (Grid.of b power).hit b with
    | some digits => Numeral.stripZeros 20 ⟨digits, power⟩
    | none => search b top fuel (count + 1)

/-- The numeral of fewest digits that reads back as `b`; seventeen digits always suffice. -/
def shortest (b : Binary) : Numeral :=
  if b.mantissa = 0 then ⟨0, 0⟩ else search b (magnitude b) 17 1

end SearchIndex.Decimal
