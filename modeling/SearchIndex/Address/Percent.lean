import SearchIndex.Text.Hexadecimal

/-!
# Percent codes

A character that a part of an address may not hold is written as the bytes of its code, each behind a
percent sign as two hexadecimal digits. Reading the codes of a text again gives its bytes.
-/

namespace SearchIndex.Address

open Text (hexDigit hexValue?)

/-! ## Writing -/

/-- The two hexadecimal digits of a byte, upper case. -/
def byteDigits (b : UInt8) : List Char :=
  [(hexDigit (b.toNat / 16)).toUpper, (hexDigit b.toNat).toUpper]

/-- The bytes of a character. -/
def bytes (c : Char) : List UInt8 :=
  (String.singleton c).toUTF8.data.toList

/-- The bytes of a character behind percent signs. -/
def percentCode (c : Char) : List Char :=
  (bytes c).flatMap fun b => '%' :: byteDigits b

/-- A control character or one beyond ASCII: no part of an address holds it. -/
def isOutside (c : Char) : Bool :=
  c.toNat < 0x20 || 0x7F ≤ c.toNat

/-- Writes percent codes for the special characters of a part, and for those that no part holds. -/
def encode (special : Char → Bool) (cs : List Char) : List Char :=
  cs.flatMap fun c => if isOutside c || special c then percentCode c else [c]

/-! ## The special characters of the parts -/

/-- Characters that a fragment does not hold as they are. -/
def specialInFragment (c : Char) : Bool :=
  c == ' ' || c == '"' || c == '<' || c == '>' || c.toNat == 0x60

/-- Characters that a path does not hold as they are. -/
def specialInPath (c : Char) : Bool :=
  specialInFragment c || c == '#' || c == '?' || c == '\x7b' || c == '\x7d'

/-- Characters that a login does not hold as they are. -/
def specialInLogin (c : Char) : Bool :=
  specialInPath c || c == '/' || c == ':' || c == ';' || c == '=' || c == '@' || c == '[' ||
    c == '\\' || c == ']' || c == '^' || c == '|'

/-- Characters that a query does not hold as they are. -/
def specialInQuery (c : Char) : Bool :=
  c == ' ' || c == '"' || c == '#' || c == '<' || c == '>'

/-! ## Reading -/

/-- The byte that two hexadecimal digits stand for. -/
def byteOfDigits? (a b : Char) : Option UInt8 :=
  match hexValue? a, hexValue? b with
  | some high, some low => some (UInt8.ofNat (16 * high + low))
  | _, _ => none

/-- The bytes of a text, of which percent codes are read. A sign without two digits behind it stands for
itself. -/
def decode : List Char → List UInt8
  | '%' :: a :: b :: rest =>
    match byteOfDigits? a b with
    | some byte => byte :: decode rest
    | none => bytes '%' ++ decode (a :: b :: rest)
  | c :: rest => bytes c ++ decode rest
  | [] => []

/-- The text that a text with percent codes stands for, if its bytes are one. -/
def decodeText? (cs : List Char) : Option (List Char) :=
  (String.fromUTF8? ⟨(decode cs).toArray⟩).map String.toList

end SearchIndex.Address
