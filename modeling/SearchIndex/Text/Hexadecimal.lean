/-!
# Hexadecimal numbers

The digits of numbers in base sixteen. Both cases are read, and the lower case is written.

Tables of texts by code point are written in such numbers. A row gives the first of its code points,
then the texts of that code point and of those after it. The code points of one text have a plus sign
between them, and `A-B` stands for the code points from `A` to `B`, each a text of its own.
-/

namespace SearchIndex.Text

/-! ## Digits -/

/-- The value of a hexadecimal digit. -/
def hexValue? (c : Char) : Option Nat :=
  if '0' ≤ c ∧ c ≤ '9' then some (c.toNat - 48)
  else if 'a' ≤ c ∧ c ≤ 'f' then some (c.toNat - 87)
  else if 'A' ≤ c ∧ c ≤ 'F' then some (c.toNat - 55)
  else none

/-- The last hexadecimal digit of a number. -/
def hexDigit (n : Nat) : Char :=
  Nat.digitChar (n % 16)

/-- The hexadecimal digits of a number. -/
def hexDigits (n : Nat) : List Char :=
  Nat.toDigits 16 n

/-! ## Tables by code point -/

/-- A row of a table: a code point, and the texts of it and of those after it. -/
structure TableRow where
  first : Nat
  texts : List (List Nat)
deriving DecidableEq, Repr

namespace TableRow

/-- The value of hexadecimal digits. -/
def number (digits : String) : Nat :=
  digits.foldl (fun n c => 16 * n + (hexValue? c).getD 0) 0

/-- The texts that a word of a row stands for. -/
def textsOf (word : String) : List (List Nat) :=
  match (word.splitOn "-").map number with
  | [low, high] => (List.range (high + 1 - low)).map fun i => [low + i]
  | _ => [(word.splitOn "+").map number]

/-- Reads a row. -/
def ofString (row : String) : TableRow :=
  match row.splitOn " " with
  | first :: words => ⟨number first, words.flatMap textsOf⟩
  | [] => ⟨0, []⟩

/-- The text of a code point in the row. -/
def get? (row : TableRow) (code : Nat) : Option (List Nat) :=
  if row.first ≤ code then row.texts[code - row.first]? else none

end TableRow

/-- The text of a code point in the rows of a table. -/
def lookup? (table : List TableRow) (code : Nat) : Option (List Nat) :=
  table.findSome? fun row => row.get? code

end SearchIndex.Text
