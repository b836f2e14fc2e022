import SearchIndex.Address.Percent
import SearchIndex.Decimal.Layout
import SearchIndex.Text.Pieces

/-!
# Numbers of hosts in four bytes

A host may be named by a number of four bytes. It is written as up to four numbers with points
between: the last one fills all bytes that those before it leave. Each is decimal, octal behind a zero,
or hexadecimal behind `0x`. The standard form has one decimal number for each byte.
-/

namespace SearchIndex.Address.Ipv4

/-- The number of digits in a base, if they are such digits. -/
def ofDigits? (base : Nat) (digits : List Char) : Option Nat :=
  digits.foldl
    (fun number c =>
      match number, Text.hexValue? c with
      | some n, some d => if d < base then some (base * n + d) else none
      | _, _ => none) (some 0)

/-- The number that is written between two points. -/
def number? : List Char → Option Nat
  | [] => none
  | '0' :: 'x' :: digits => ofDigits? 16 digits
  | '0' :: c :: digits => ofDigits? 8 (c :: digits)
  | digits => ofDigits? 10 digits

/-- The numbers in the bytes that are left, the last one in all of them. -/
def fill? : (left : Nat) → List Nat → Option Nat
  | 0, _ => none
  | _ + 1, [] => none
  | left + 1, [n] => if n < Nat.pow 256 (left + 1) then some n else none
  | left + 1, n :: rest =>
    if n < 256 then (fill? left rest).map fun filled => n * Nat.pow 256 left + filled else none

/-- What is written between the points of a name. A point at the end does not count. -/
def partsOf (name : List Char) : List (List Char) :=
  let parts := Text.pieces (· == '.') name
  if 1 < parts.length ∧ parts.getLast? = some [] then parts.dropLast else parts

/-- The name is meant as a number: its last part is one, or has only digits. -/
def isMeant (name : List Char) : Bool :=
  (partsOf name).getLast?.any fun last =>
    (!last.isEmpty && last.all Char.isDigit) || (number? last).isSome

/-- The number that a name stands for. -/
def ofName? (name : List Char) : Option Nat :=
  ((partsOf name).mapM number?).bind (fill? 4)

/-- The standard form of a number. -/
def text (number : Nat) : String :=
  let byte (place : Nat) : String :=
    String.ofList (Decimal.naturalDigits (number / Nat.pow 256 place % 256))
  Text.joinWith "." [byte 3, byte 2, byte 1, byte 0]

end SearchIndex.Address.Ipv4
