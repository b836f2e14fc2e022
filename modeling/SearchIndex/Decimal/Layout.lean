import SearchIndex.Decimal.Shortest

/-!
# The layout of decimals

How a decimal is written: which magnitudes are written positionally, and the shape of the exponent
form. The choices of one format are one value of `Layout`.
-/

namespace SearchIndex.Decimal

/-- The choices of a number format. -/
structure Layout where
  /-- The smallest power of ten of a leading digit that is written positionally. -/
  lowest : Int
  /-- The largest power of ten of a leading digit that is written positionally. -/
  highest : Int
  /-- What follows a positional number without a fraction. -/
  wholeMark : List Char
  exponentMark : Char
  /-- A positive exponent has its sign written. -/
  plusSign : Bool

/-- The digits of a natural number. -/
def naturalDigits (n : Nat) : List Char :=
  Nat.toDigits 10 n

/-- A whole number with its sign, a plus only where asked for. -/
def signedDigits (plusSign : Bool) (n : Int) : List Char :=
  if n < 0 then '-' :: naturalDigits n.natAbs
  else if plusSign then '+' :: naturalDigits n.natAbs
  else naturalDigits n.natAbs

namespace Layout

/-- The number with its point after `point` of its digits. -/
def positional (l : Layout) (digits : List Char) (point : Int) : List Char :=
  if point ≤ 0 then ['0', '.'] ++ List.replicate (-point).toNat '0' ++ digits
  else if digits.length ≤ point.toNat then
    digits ++ List.replicate (point.toNat - digits.length) '0' ++ l.wholeMark
  else digits.take point.toNat ++ '.' :: digits.drop point.toNat

/-- The number with its point after the first digit and a power of ten. -/
def scientific (l : Layout) (digits : List Char) (power : Int) : List Char :=
  (match digits with
    | [] => []
    | [d] => [d]
    | d :: rest => d :: '.' :: rest) ++ l.exponentMark :: signedDigits l.plusSign power

/-- The text of a decimal without its sign. -/
def render (l : Layout) (d : Numeral) : List Char :=
  let digits := naturalDigits d.digits
  let point := digits.length + d.exponent
  if d.digits = 0 then '0' :: l.wholeMark
  else if l.lowest ≤ point - 1 ∧ point - 1 ≤ l.highest then l.positional digits point
  else l.scientific digits (point - 1)

/-- The shortest text that reads back as the double of these bits. -/
def renderBits (l : Layout) (bits : UInt64) : List Char :=
  let text := l.render (shortest (Binary.ofBits bits))
  if isNegative bits then '-' :: text else text

end Layout

end SearchIndex.Decimal
