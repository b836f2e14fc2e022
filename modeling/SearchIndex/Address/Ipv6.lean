import SearchIndex.Address.Ipv4

/-!
# Numbers of hosts in eight pieces

A host may be named by eight pieces of two bytes each, in hexadecimal digits with colons between. Two
colons in a row stand for pieces that are zero, at least one, and are written once at most. The last
two pieces may be written as the four bytes of a number. The standard form puts two colons in place of
the first of the longest runs of zeros, unless no run has two of them.
-/

namespace SearchIndex.Address.Ipv6

/-! ## Reading -/

/-- A piece: one to four hexadecimal digits. -/
def piece? (digits : List Char) : Option Nat :=
  if 0 < digits.length ∧ digits.length ≤ 4 then Ipv4.ofDigits? 16 digits else none

/-- A byte: decimal digits without a zero in front, unless it is zero. -/
def byte? (digits : List Char) : Option Nat :=
  match digits with
  | [] => none
  | ['0'] => some 0
  | '0' :: _ => none
  | digits => (Ipv4.ofDigits? 10 digits).filter (· < 256)

/-- Two pieces that are written as four bytes with points between. -/
def bytes? (text : List Char) : Option (List Nat) :=
  match (Text.pieces (· == '.') text).mapM byte? with
  | some [a, b, c, d] => some [256 * a + b, 256 * c + d]
  | _ => none

/-- The pieces between colons, the last of which may be written as bytes. -/
def piecesOf? : List (List Char) → Option (List Nat)
  | [] => some []
  | [last] =>
    match piece? last with
    | some n => some [n]
    | none => bytes? last
  | first :: rest =>
    match piece? first, piecesOf? rest with
    | some n, some more => some (n :: more)
    | _, _ => none

/-- What stands before and behind the first two colons in a row, if there are any. -/
def cut? : List Char → Option (List Char × List Char)
  | ':' :: ':' :: rest => some ([], rest)
  | c :: rest => (cut? rest).map fun (before, behind) => (c :: before, behind)
  | [] => none

/-- The pieces of one side of two colons in a row, which may have none. -/
def side? (text : List Char) : Option (List Nat) :=
  if text.isEmpty then some [] else piecesOf? (Text.pieces (· == ':') text)

/-- The pieces of the side before two colons. Only at the end of a name pieces are written as bytes. -/
def sideBefore? (text : List Char) : Option (List Nat) :=
  if text.contains '.' then none else side? text

/-- Reads the eight pieces of a number. -/
def ofText? (text : List Char) : Option (List Nat) :=
  match cut? text with
  | none => (piecesOf? (Text.pieces (· == ':') text)).filter fun all => all.length = 8
  | some (before, behind) =>
    match sideBefore? before, side? behind with
    | some before, some behind =>
      if before.length + behind.length < 8 then
        some (before ++ List.replicate (8 - before.length - behind.length) 0 ++ behind)
      else none
    | _, _ => none

/-! ## Writing -/

/-- How many zeros the pieces start with. -/
def leadingZeros (pieces : List Nat) : Nat :=
  (pieces.takeWhile (· == 0)).length

/-- The place and the length of the first of the longest runs of zeros, of which `place` pieces come
before the given ones. -/
def longestRun : (place : Nat) → List Nat → Nat × Nat
  | place, [] => (place, 0)
  | place, n :: rest =>
    let later := longestRun (place + 1) rest
    let here := leadingZeros (n :: rest)
    if later.2 ≤ here then (place, here) else later

/-- Pieces with colons between. -/
def piecesText (pieces : List Nat) : String :=
  Text.joinWith ":" (pieces.map fun n => String.ofList (Text.hexDigits n))

/-- The standard form of eight pieces. -/
def text (pieces : List Nat) : String :=
  let (place, length) := longestRun 0 pieces
  if length < 2 then piecesText pieces
  else piecesText (pieces.take place) ++ "::" ++ piecesText (pieces.drop (place + length))

end SearchIndex.Address.Ipv6
