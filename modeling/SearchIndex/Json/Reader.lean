import SearchIndex.Json.Fault
import SearchIndex.Text.Hexadecimal

/-!
# Reading JSON texts

Each reader takes the unread text and gives a value with the text after it, or stops. Containers
may be nested to a limit; the limit is a number of levels that are still free, on which the reader
of values recurses. Numbers are gathered in a word of 64 bits with a decimal exponent and scaled in
double arithmetic.
-/

namespace SearchIndex.Json

open Text (hexValue?)

/-- A value and the text after it, or a stop. -/
abbrev Step (α : Type) := Except Stop (α × List Char)

/-- Reads on with what was read so far. -/
def Step.andThen {α β : Type} (step : Step α) (next : α → List Char → Step β) : Step β :=
  match step with
  | .error stop => .error stop
  | .ok (a, rest) => next a rest

/-- Applies a function to what was read. -/
def Step.map {α β : Type} (f : α → β) (step : Step α) : Step β :=
  step.andThen fun a rest => .ok (f a, rest)

/-- A stop at the end of what was read. -/
def stopHere {α : Type} (cause : Cause) (rest : List Char) : Except Stop α :=
  .error ⟨cause, rest, 0⟩

/-- A stop at the next byte. -/
def stopAtNext {α : Type} (cause : Cause) (rest : List Char) : Except Stop α :=
  .error ⟨cause, rest, 1⟩

/-- White space between tokens: space, tab, line feed, carriage return. -/
def isSpace (c : Char) : Bool :=
  c == ' ' || c == '\t' || c == '\n' || c == '\r'

/-- The text from its first token on. -/
def skipSpace (text : List Char) : List Char :=
  text.dropWhile isSpace

/-! ## Words -/

/-- Reads the letters of a word. -/
def readWord : (letters text : List Char) → Step Unit
  | [], text => .ok ((), text)
  | _ :: _, [] => stopHere .endInValue []
  | l :: letters, c :: text =>
    if c = l then readWord letters text else stopAtNext .expectedWord (c :: text)

/-! ## Strings -/

/-- Reads the four digits of a code escape. -/
def readCode (text : List Char) : Step Nat :=
  -- The four digits are taken as bytes, so too short a text has ended before a bad digit counts.
  if byteCount (text.take 4) < 4 then stopHere .endInString []
  else
    match text with
    | a :: b :: c :: d :: rest =>
      match hexValue? a, hexValue? b, hexValue? c, hexValue? d with
      | some a, some b, some c, some d => .ok (((a * 16 + b) * 16 + c) * 16 + d, rest)
      | _, _, _, _ => .error ⟨.badEscape, text, 4⟩
    | _ => .error ⟨.badEscape, text, 4⟩

/-- Reads one given character of a surrogate pair's second escape. -/
def readPairMark (mark : Char) : List Char → Step Unit
  | [] => stopHere .endInString []
  | c :: rest => if c = mark then .ok ((), rest) else stopAtNext .unfinishedSurrogate (c :: rest)

/-- Reads a code escape after its `\u`. A leading surrogate must be followed by the escape of a
trailing one, with which it makes one character. -/
def readCodeEscape (text : List Char) : Step Char :=
  Step.andThen (readCode text) fun code rest =>
    if 0xDC00 ≤ code ∧ code ≤ 0xDFFF then stopHere .loneSurrogate rest
    else if 0xD800 ≤ code ∧ code ≤ 0xDBFF then
      Step.andThen (readPairMark '\\' rest) fun _ rest =>
        Step.andThen (readPairMark 'u' rest) fun _ rest =>
          Step.andThen (readCode rest) fun low rest =>
            if 0xDC00 ≤ low ∧ low ≤ 0xDFFF then
              .ok (Char.ofNat (0x10000 + (code - 0xD800) * 0x400 + (low - 0xDC00)), rest)
            else stopHere .loneSurrogate rest
    else .ok (Char.ofNat code, rest)

/-- The character of an escape with a single letter. -/
def shortEscape? (c : Char) : Option Char :=
  if c = '"' ∨ c = '\\' ∨ c = '/' then some c
  else if c = 'b' then some '\x08'
  else if c = 'f' then some '\x0c'
  else if c = 'n' then some '\n'
  else if c = 'r' then some '\r'
  else if c = 't' then some '\t'
  else none

/-- Reads an escape after its backslash. -/
def readEscape : List Char → Step Char
  | [] => stopHere .endInString []
  | c :: rest =>
    if c = 'u' then readCodeEscape rest
    else
      match shortEscape? c with
      | some e => .ok (e, rest)
      | none => stopAtNext .badEscape (c :: rest)

/-- Reads a string after its opening quote; `seen` is what was read, in reverse. Every step takes
a character, so the length of the text bounds the steps. -/
def readChars : (fuel : Nat) → (seen text : List Char) → Step String
  | 0, _, text => stopHere .endInString text
  | _ + 1, _, [] => stopHere .endInString []
  | fuel + 1, seen, c :: rest =>
    if c = '"' then .ok (String.ofList seen.reverse, rest)
    else if c = '\\' then
      Step.andThen (readEscape rest) fun e rest => readChars fuel (e :: seen) rest
    else if c.toNat < 0x20 then stopAtNext .controlInString (c :: rest)
    else readChars fuel (c :: seen) rest

/-- Reads a string after its opening quote. -/
def readString (text : List Char) : Step String :=
  readChars (text.length + 1) [] text

/-! ## Numbers -/

/-- The value of a decimal digit. -/
def digitValue? (c : Char) : Option Nat :=
  if '0' ≤ c ∧ c ≤ '9' then some (c.toNat - 48) else none

/-- A number as gathered: digits that fit a word, and a power of ten. -/
structure Gathered where
  digits : Nat
  power : Int

/-- Another digit still fits a word. -/
def Gathered.admits (g : Gathered) (digit : Nat) : Bool :=
  g.digits * 10 + digit < 0x10000000000000000

/-- Gathers the digits of a whole part. From the first digit that does not fit, digits only raise
the power. -/
def gatherWhole (g : Gathered) : List Char → Gathered × List Char
  | [] => (g, [])
  | c :: rest =>
    match digitValue? c with
    | none => (g, c :: rest)
    | some digit =>
      if g.power = 0 ∧ g.admits digit then gatherWhole ⟨g.digits * 10 + digit, 0⟩ rest
      else gatherWhole ⟨g.digits, g.power + 1⟩ rest

/-- The text from its first character that is no digit. -/
def skipDigits (text : List Char) : List Char :=
  text.dropWhile fun c => (digitValue? c).isSome

/-- Gathers the digits of a fraction. From the first digit that does not fit, digits are ignored. -/
def gatherFraction (g : Gathered) : List Char → Gathered × List Char
  | [] => (g, [])
  | c :: rest =>
    match digitValue? c with
    | none => (g, c :: rest)
    | some digit =>
      if g.admits digit then gatherFraction ⟨g.digits * 10 + digit, g.power - 1⟩ rest
      else (g, skipDigits rest)

/-- The double of gathered digits: they are rounded to a double and then multiplied or divided by a
power of ten, in steps of `1e308` towards zero. Nothing if the result is too large. -/
def scale : (fuel : Nat) → Float → Int → Option Float
  | 0, x, _ => some x
  | fuel + 1, x, power =>
    if 0 ≤ power ∧ power ≤ 308 then
      let y := x * Float.ofScientific 1 false power.toNat
      if y.isInf then none else some y
    else if -308 ≤ power ∧ power < 0 then some (x / Float.ofScientific 1 false (-power).toNat)
    else if x == 0 then some x
    else if 0 ≤ power then none
    else scale fuel (x / Float.ofScientific 1 false 308) (power + 308)

/-- The double of gathered digits with its sign. Two divisions by `1e308` take any word to zero. -/
def Gathered.real? (g : Gathered) (negative : Bool) : Option Float :=
  (scale 4 (Float.ofNat g.digits) g.power).map fun x => if negative then -x else x

/-- The double of gathered digits, at the end of a number. -/
def finishReal (negative : Bool) (g : Gathered) (rest : List Char) : Step Number :=
  match g.real? negative with
  | some x => .ok (.real x, rest)
  | none => stopHere .numberTooLarge rest

/-- The largest exponent that is taken as written. -/
def exponentLimit : Nat := 0x7FFFFFFF

/-- Gathers the digits of an exponent; stops after the first digit that takes it over the limit. -/
def gatherExponent (exponent : Nat) : List Char → Except (List Char) (Nat × List Char)
  | [] => .ok (exponent, [])
  | c :: rest =>
    match digitValue? c with
    | none => .ok (exponent, c :: rest)
    | some digit =>
      if exponent * 10 + digit ≤ exponentLimit then gatherExponent (exponent * 10 + digit) rest
      else .error rest

/-- Reads an exponent after its mark and ends the number. -/
def readExponent (negative : Bool) (g : Gathered) (text : List Char) : Step Number :=
  let (down, text) : Bool × List Char :=
    match text with
    | '+' :: rest => (false, rest)
    | '-' :: rest => (true, rest)
    | _ => (false, text)
  match text with
  | [] => stopHere .endInValue []
  | c :: rest =>
    match digitValue? c with
    | none => stopAtNext .badNumber (c :: rest)
    | some digit =>
      match gatherExponent digit rest with
      | .ok (exponent, rest) =>
        finishReal negative ⟨g.digits, if down then g.power - exponent else g.power + exponent⟩ rest
      | .error rest =>
        if g.digits ≠ 0 ∧ !down then stopHere .numberTooLarge rest
        else .ok (.real (if negative then -0.0 else 0.0), skipDigits rest)

/-- The text starts with an exponent mark. -/
def exponentMark? : List Char → Option (List Char)
  | c :: rest => if c = 'e' ∨ c = 'E' then some rest else none
  | [] => none

/-- Reads a fraction after its point and ends the number. -/
def readFraction (negative : Bool) (g : Gathered) (text : List Char) : Step Number :=
  match text with
  | [] => stopHere .endInValue []
  | c :: rest =>
    match digitValue? c with
    | none => stopAtNext .badNumber (c :: rest)
    | some _ =>
      let (g, rest) := gatherFraction g (c :: rest)
      match exponentMark? rest with
      | some rest => readExponent negative g rest
      | none => finishReal negative g rest

/-- A whole number as gathered; zero with a minus sign and what does not fit become doubles. -/
def finishWhole (negative : Bool) (g : Gathered) (rest : List Char) : Step Number :=
  let value : Int := if negative then -(g.digits : Int) else g.digits
  if g.power ≠ 0 ∨ (negative ∧ g.digits = 0) then finishReal negative g rest
  else
    match Number.ofInt? value with
    | some n => .ok (n, rest)
    | none => finishReal negative g rest

/-- Reads a number after its sign. -/
def readNumber (negative : Bool) (text : List Char) : Step Number :=
  match text with
  | [] => stopHere .endInValue []
  | c :: rest =>
    match digitValue? c with
    | none => stopAtNext .badNumber text
    | some digit =>
      let leading : Except Stop (Gathered × List Char) :=
        if digit = 0 then
          match rest with
          | d :: _ => if (digitValue? d).isSome then stopAtNext .badNumber rest else .ok (⟨0, 0⟩, rest)
          | [] => .ok (⟨0, 0⟩, rest)
        else .ok (gatherWhole ⟨digit, 0⟩ rest)
      match leading with
      | .error stop => .error stop
      | .ok (g, rest) =>
        match rest with
        | '.' :: rest => readFraction negative g rest
        | _ =>
          match exponentMark? rest with
          | some rest => readExponent negative g rest
          | none => finishWhole negative g rest

/-! ## Containers -/

/-- Looks for the next item of an array: whether there is one, and the text from it, or from the
closing bracket. -/
def nextItem (first : Bool) (text : List Char) : Step Bool :=
  match skipSpace text with
  | [] => stopHere .endInArray []
  | c :: rest =>
    -- The closing bracket is left to the caller.
    if c = ']' then .ok (false, c :: rest)
    else if first then .ok (true, c :: rest)
    else if c = ',' then
      match skipSpace rest with
      | [] => stopHere .endInValue []
      | d :: rest => if d = ']' then stopAtNext .trailingComma (d :: rest) else .ok (true, d :: rest)
    else stopAtNext .expectedItemEnd (c :: rest)

/-- Looks for the next member of an object: its name if there is one, and the text after the name,
or from the closing brace. -/
def nextName (first : Bool) (text : List Char) : Step (Option String) :=
  match skipSpace text with
  | [] => stopHere .endInObject []
  | c :: rest =>
    if c = '\x7d' then .ok (none, c :: rest)
    else if first then
      if c = '"' then Step.map some (readString rest)
      else stopAtNext .nameNotString (c :: rest)
    else if c = ',' then
      match skipSpace rest with
      | [] => stopHere .endInValue []
      | d :: rest =>
        if d = '"' then Step.map some (readString rest)
        else if d = '\x7d' then stopAtNext .trailingComma (d :: rest)
        else stopAtNext .nameNotString (d :: rest)
    else stopAtNext .expectedMemberEnd (c :: rest)

/-- Reads the colon between a name and its value. -/
def readColon (text : List Char) : Step Unit :=
  match skipSpace text with
  | [] => stopHere .endInObject []
  | c :: rest => if c = ':' then .ok ((), rest) else stopAtNext .expectedColon (c :: rest)

/-- Reads the items of an array and its closing bracket with a reader of items. Every item takes a
character, so the length of the text bounds the steps. -/
def readItems (item : List Char → Step Value) :
    (fuel : Nat) → (first : Bool) → (seen : List Value) → List Char → Step (List Value)
  | 0, _, _, text => stopHere .endInArray text
  | fuel + 1, first, seen, text =>
    Step.andThen (nextItem first text) fun more rest =>
      if more then
        Step.andThen (item rest) fun v rest => readItems item fuel false (v :: seen) rest
      else .ok (seen.reverse, rest.drop 1)

/-- Reads the members of an object and its closing brace with a reader of values. -/
def readMembers (item : List Char → Step Value) :
    (fuel : Nat) → (first : Bool) → Members → List Char → Step Members
  | 0, _, _, text => stopHere .endInObject text
  | fuel + 1, first, members, text =>
    Step.andThen (nextName first text) fun name rest =>
      match name with
      | some name =>
        Step.andThen (readColon rest) fun _ rest =>
          Step.andThen (item rest) fun v rest =>
            readMembers item fuel false (members.set name v) rest
      | none => .ok (members, rest.drop 1)

/-! ## Values -/

/-- Reads a value that starts with a bracket, with a reader of items for which a level is free. -/
def readContainer (item : List Char → Step Value) (opening : Char) (rest : List Char) :
    Step Value :=
  if opening = '[' then
    Step.map .array (readItems item (rest.length + 1) true [] rest)
  else Step.map .object (readMembers item (rest.length + 1) true [] rest)

/-- Reads a value with `room` free levels of nesting. -/
def readValue : (room : Nat) → List Char → Step Value
  | room, text =>
    match skipSpace text with
    | [] => stopHere .endInValue []
    | c :: rest =>
      if c = 'n' then Step.map (fun _ => .null) (readWord ['u', 'l', 'l'] rest)
      else if c = 't' then Step.map (fun _ => .bool true) (readWord ['r', 'u', 'e'] rest)
      else if c = 'f' then Step.map (fun _ => .bool false) (readWord ['a', 'l', 's', 'e'] rest)
      else if c = '"' then Step.map .string (readString rest)
      else if c = '-' then Step.map .number (readNumber true rest)
      else if (digitValue? c).isSome then Step.map .number (readNumber false (c :: rest))
      else if c = '[' ∨ c = '\x7b' then
        match room with
        | 0 => stopAtNext .tooDeep (c :: rest)
        | room + 1 => readContainer (readValue room) c rest
      else stopAtNext .expectedValue (c :: rest)

/-- Nothing but white space is left. -/
def readEnd (text : List Char) : Except Stop Unit :=
  match skipSpace text with
  | [] => .ok ()
  | rest => stopAtNext .trailingCharacters rest

/-- The levels of containers that a text may open. -/
def depthLimit : Nat := 127

/-- The value of a text whose containers nest at most `depth` levels. -/
def parseWithin (depth : Nat) (text : String) : Except Fault Value :=
  let whole := text.toList
  match readValue depth whole with
  | .error stop => .error (stop.fault whole)
  | .ok (v, rest) =>
    match readEnd rest with
    | .error stop => .error (stop.fault whole)
    | .ok () => .ok v

/-- The value of a text. -/
def parse (text : String) : Except Fault Value :=
  parseWithin depthLimit text

end SearchIndex.Json
