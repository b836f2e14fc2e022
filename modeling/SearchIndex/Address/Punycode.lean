/-!
# Letters of names in ASCII

A name with letters beyond ASCII is also written in ASCII: first its ASCII characters, then behind a
hyphen where the others are to be put, in the order of their code points. Each is given by a number:
how many places lie between it and the one put before, where all places of one code point come before
those of the next. Numbers are written in base 36, and the last digit of each is known by being small.
How small it is adapts to the numbers so far (Punycode).
-/

namespace SearchIndex.Address.Punycode

/-! ## Digits -/

/-- The digit of a value below 36: letters come before numerals. -/
def digit (value : Nat) : Char :=
  if value < 26 then Char.ofNat (97 + value) else Char.ofNat (22 + value)

/-- The value of a digit in any case. -/
def digitValue? (c : Char) : Option Nat :=
  if 'a' ≤ c ∧ c ≤ 'z' then some (c.toNat - 97)
  else if 'A' ≤ c ∧ c ≤ 'Z' then some (c.toNat - 65)
  else if '0' ≤ c ∧ c ≤ '9' then some (c.toNat - 22)
  else none

/-- A digit of a number at a place is its last one if it is below this. Places count in steps of 36,
from 36 on. -/
def threshold (bias place : Nat) : Nat :=
  if place ≤ bias then 1 else if bias + 26 ≤ place then 26 else place - bias

/-- A threshold is positive, so the weights of later digits grow. -/
theorem threshold_pos (bias place : Nat) : 0 < threshold bias place := by
  unfold threshold
  split
  · omega
  · split <;> omega

/-! ## Bias -/

/-- The bias before the first number. -/
def firstBias : Nat := 72

/-- Scales a number down, by 35 at each step of 36 of the bias. -/
def scale (bias number : Nat) : Nat :=
  if number ≤ 455 then bias + 36 * number / (number + 38) else scale (bias + 36) (number / 35)
termination_by number

/-- The bias after a number, of which so many were handled with the characters before. -/
def adapt (number handled : Nat) (isFirst : Bool) : Nat :=
  let number := if isFirst then number / 700 else number / 2
  scale 0 (number + number / handled)

/-! ## Writing -/

/-- The digits of a number from a place on. -/
def digitsFrom (bias place number : Nat) : List Char :=
  let t := threshold bias place
  if number < t then [digit number]
  else digit (t + (number - t) % (36 - t)) :: digitsFrom bias (place + 36) ((number - t) / (36 - t))
termination_by number
decreasing_by
  have := threshold_pos bias place
  have := Nat.div_le_self (number - threshold bias place) (36 - threshold bias place)
  omega

/-- How far a name is written. -/
structure Writing where
  /-- What is written so far. -/
  text : List Char
  /-- How many places lie behind the character put last. -/
  number : Nat
  bias : Nat
  /-- How many characters are put. -/
  handled : Nat
  /-- No character beyond ASCII is put. -/
  isFirst : Bool

/-- Passes a character of the name while characters of a code point are put. -/
def Writing.pass (w : Writing) (code : Nat) (c : Char) : Writing :=
  if c.toNat < code then { w with number := w.number + 1 }
  else if c.toNat = code then
    { text := w.text ++ digitsFrom w.bias 36 w.number
      number := 0
      bias := adapt w.number (w.handled + 1) w.isFirst
      handled := w.handled + 1
      isFirst := false }
  else w

/-- Puts the characters of the given code points, which ascend and are no less than `next`. -/
def Writing.put (name : List Char) (w : Writing) : (next : Nat) → List Nat → Writing
  | _, [] => w
  | next, code :: rest =>
    let w := { w with number := w.number + (code - next) * (w.handled + 1) }
    let w := name.foldl (fun w c => w.pass code c) w
    put name { w with number := w.number + 1 } (code + 1) rest

/-- Puts a number where it belongs among ascending ones, unless it is there. -/
def insertOnce (n : Nat) : List Nat → List Nat
  | [] => [n]
  | m :: rest => if n < m then n :: m :: rest else if n = m then m :: rest else m :: insertOnce n rest

/-- The code points beyond ASCII of a name, each once, ascending. -/
def codesBeyond (name : List Char) : List Nat :=
  ((name.map Char.toNat).filter (0x80 ≤ ·)).foldr insertOnce []

/-- A name in ASCII. -/
def encode (name : List Char) : List Char :=
  let basic := name.filter fun c => c.toNat < 0x80
  let written := if basic.isEmpty then [] else basic ++ ['-']
  (Writing.put name ⟨written, 0, firstBias, basic.length, true⟩ 0x80 (codesBeyond name)).text

/-! ## Reading -/

/-- Numbers and the weights of their digits stay below this. -/
def bound : Nat := 0x100000000

/-- Adds the digits of a number to what is given, from a place on where a digit has a weight. What is
left is shorter. -/
def readNumber (bias : Nat) : (place weight number : Nat) → (text : List Char) →
    Option (Nat × { rest : List Char // rest.length < text.length })
  | _, _, _, [] => none
  | place, weight, number, c :: text =>
    match digitValue? c with
    | none => none
    | some value =>
      let number := number + value * weight
      let t := threshold bias place
      if bound ≤ number then none
      else if value < t then some (number, ⟨text, Nat.lt_succ_self _⟩)
      else if bound ≤ weight * (36 - t) then none
      else
        (readNumber bias (place + 36) (weight * (36 - t)) number text).map fun (number, rest) =>
          (number, ⟨rest.1, Nat.lt_succ_of_lt rest.2⟩)

/-- The character of a code point, if it is one. -/
def charOf? (code : Nat) : Option Char :=
  if h : code.isValidChar then some (Char.ofNatAux code h) else none

/-- Puts characters into a name, no earlier than at a place and with no smaller code point than the given
one. Only the first of them may be put at the place zero, so that place tells the first. -/
def readInsertions (name : List Char) (place code bias : Nat) (text : List Char) :
    Option (List Char) :=
  if text.isEmpty then some name
  else
    match readNumber bias 36 1 place text with
    | none => none
    | some (reached, rest) =>
      let room := name.length + 1
      let nextCode := code + reached / room
      match charOf? nextCode with
      | none => none
      | some c =>
        readInsertions (name.insertIdx (reached % room) c) (reached % room + 1) nextCode
          (adapt (reached - place) room (place == 0)) rest
termination_by text.length
decreasing_by exact rest.2

/-- Parts a text at its last hyphen, unless that is its first character. -/
def parted (text : List Char) : List Char × List Char :=
  match text.reverse.span (· != '-') with
  | (behind, _ :: before) =>
    if before.isEmpty then ([], text) else (before.reverse, behind.reverse)
  | (_, []) => ([], text)

/-- The name that is written in ASCII. -/
def decode? (text : List Char) : Option (List Char) :=
  let (basic, numbers) := parted text
  readInsertions basic 0 0x80 firstBias numbers

end SearchIndex.Address.Punycode
