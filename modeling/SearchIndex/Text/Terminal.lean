/-!
# Texts for a terminal

A text for a terminal holds control sequences beside what is shown. An escape character begins a
sequence, and the character after it settles how far the sequence goes. `plain` keeps what is shown
and drops the sequences; a text in which every character is shown stays as it is.
-/

namespace SearchIndex.Text.Terminal

/-- Where the reading of a text stands. -/
inductive Position where
  /-- Outside of sequences. -/
  | ground
  /-- Behind an escape character. -/
  | escape
  /-- In an escape sequence of more than two characters. -/
  | intermediate
  /-- In a control sequence, which ends with a letter or one of the signs beside the letters. -/
  | control
  /-- In a command to the system, which a bell ends. -/
  | command
  /-- In a string to the device, which a string terminator ends. -/
  | string
deriving DecidableEq, Repr

/-- A control character that moves the place of writing and is kept. -/
def isLayout (c : Char) : Bool :=
  c == '\t' || c == '\n' || c == '\r' || c == '\x0c'

/-- A character that is shown outside of sequences. -/
def isShown (c : Char) : Bool :=
  isLayout c || (0x20 ≤ c.toNat && c.toNat != 0x7F)

/-- The code point lies between two others, both included. -/
def isWithin (low high : Nat) (c : Char) : Bool :=
  Nat.ble low c.toNat && Nat.ble c.toNat high

/-- The code of the character in bytes has the byte of the string terminator in it. -/
def hasTerminator (c : Char) : Bool :=
  (String.singleton c).toUTF8.data.contains 0x9C

namespace Position

/-- The position behind an escape character and one more character. -/
def afterEscape (c : Char) : Position :=
  if c = '[' then .control
  else if c = ']' then .command
  else if c = 'P' || c = 'X' || c = '^' || c = '_' then .string
  else if isWithin 0x20 0x2F c then .intermediate
  else if isWithin 0x30 0x7E c then .ground
  else .escape

/-- The position behind a character that is not shown. -/
def after (p : Position) (c : Char) : Position :=
  if c.toNat = 0x1B then .escape
  -- Two control characters break off any sequence.
  else if c.toNat = 0x18 || c.toNat = 0x1A then .ground
  else
    match p with
    | .ground => .ground
    | .escape => afterEscape c
    | .intermediate => if isWithin 0x30 0x7E c then .ground else .intermediate
    | .control => if isWithin 0x40 0x7E c then .ground else .control
    | .command => if c.toNat = 0x07 then .ground else .command
    | .string => if hasTerminator c then .ground else .string

/-- A character is shown at the position. Layout is also shown in a sequence that has no text of its
own, and ends it. -/
def shows : Position → Char → Bool
  | .ground, c => isShown c
  | .escape, c => isLayout c
  | .intermediate, c => isLayout c
  | .control, c => isLayout c
  | .command, _ => false
  | .string, _ => false

end Position

/-- What is shown of a text that is read from a position on. -/
def plainFrom (p : Position) : List Char → List Char
  | [] => []
  | c :: rest => if p.shows c then c :: plainFrom .ground rest else plainFrom (p.after c) rest

/-- What is shown of a text. -/
def plain (text : String) : String :=
  String.ofList (plainFrom .ground text.toList)

/-- The text in bold, for a terminal. -/
def bold (text : String) : String :=
  "\x1b[1m" ++ text ++ "\x1b[0m"

end SearchIndex.Text.Terminal
