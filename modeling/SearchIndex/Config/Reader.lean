import SearchIndex.Json.Reader

/-!
# Reading records from JSON texts

A record is read straight from a text, so that a value of a wrong type is reported where it stands.
A record is written as an object, or as an array of all its fields in order. Members that the record
does not have are skipped, by a scan that knows no limit of depth and no range of numbers.
-/

namespace SearchIndex.Config

open Json (Step Stop Cause Found Value Members)

/-! ## Skipping values -/

/-- Skips a string after its opening quote. -/
def skipString : (fuel : Nat) → List Char → Step Unit
  | 0, text => Json.stopHere .endInString text
  | _ + 1, [] => Json.stopHere .endInString []
  | fuel + 1, c :: rest =>
    if c = '"' then .ok ((), rest)
    else if c = '\\' then
      match rest with
      | [] => Json.stopHere .endInString []
      | e :: rest =>
        if e = 'u' then Step.andThen (Json.readCode rest) fun _ rest => skipString fuel rest
        else if (Json.shortEscape? e).isSome then skipString fuel rest
        else Json.stopAtNext .badEscape (e :: rest)
    -- A control character is reported before it is read.
    else if c.toNat < 0x20 then Json.stopHere .controlInString (c :: rest)
    else skipString fuel rest

/-- Skips at least one digit. -/
def skipSomeDigits (text : List Char) : Step Unit :=
  match text with
  | c :: rest =>
    if (Json.digitValue? c).isSome then .ok ((), Json.skipDigits rest)
    else Json.stopAtNext .badNumber text
  | [] => Json.stopHere .badNumber []

/-- Skips the exponent of a number, if there is one. -/
def skipExponent (text : List Char) : Step Unit :=
  match Json.exponentMark? text with
  | none => .ok ((), text)
  | some ('+' :: rest) => skipSomeDigits rest
  | some ('-' :: rest) => skipSomeDigits rest
  | some rest => skipSomeDigits rest

/-- Skips a number after its sign. -/
def skipNumber (text : List Char) : Step Unit :=
  let whole : Step Unit :=
    match text with
    | '0' :: c :: rest =>
      if (Json.digitValue? c).isSome then Json.stopAtNext .badNumber (c :: rest)
      else .ok ((), c :: rest)
    | _ => skipSomeDigits text
  Step.andThen whole fun _ rest =>
    match rest with
    | '.' :: rest => Step.andThen (skipSomeDigits rest) fun _ rest => skipExponent rest
    | _ => skipExponent rest

/-- Skips a value that is no container, or opens a container, whose closing bracket is given. -/
def skipOpening (text : List Char) : Step (Option Char) :=
  match Json.skipSpace text with
  | [] => Json.stopHere .endInValue []
  | c :: rest =>
    if c = 'n' then Step.map (fun _ => none) (Json.readWord ['u', 'l', 'l'] rest)
    else if c = 't' then Step.map (fun _ => none) (Json.readWord ['r', 'u', 'e'] rest)
    else if c = 'f' then Step.map (fun _ => none) (Json.readWord ['a', 'l', 's', 'e'] rest)
    else if c = '-' then Step.map (fun _ => none) (skipNumber rest)
    else if (Json.digitValue? c).isSome then Step.map (fun _ => none) (skipNumber (c :: rest))
    else if c = '"' then Step.map (fun _ => none) (skipString (rest.length + 1) rest)
    else if c = '[' then .ok (some ']', rest)
    else if c = '\x7b' then .ok (some '\x7d', rest)
    else Json.stopAtNext .expectedValue (c :: rest)

/-- Closes containers, of which `closings` are the brackets to come, the innermost one first, until
a next item is due. `afterItem` tells that an item has just ended. Gives the brackets still to come,
none of them at the end of the value. -/
def skipClosings : (fuel : Nat) → (afterItem : Bool) → (closings : List Char) → List Char →
    Step (List Char)
  | 0, _, _, text => Json.stopHere .endInValue text
  | _ + 1, _, [], text => .ok ([], text)
  | fuel + 1, afterItem, closing :: outer, text =>
    match Json.skipSpace text with
    | [] => Json.stopHere (if closing = ']' then .endInArray else .endInObject) []
    | c :: rest =>
      -- What comes after the comma is judged when the next item is skipped.
      if c = ',' ∧ afterItem then .ok (closing :: outer, rest)
      else if c = closing then skipClosings fuel true outer rest
      else if afterItem then
        Json.stopAtNext (if closing = ']' then .expectedItemEnd else .expectedMemberEnd) (c :: rest)
      else .ok (closing :: outer, c :: rest)

/-- Skips the name and the colon of a member, if the innermost container is an object. -/
def skipName (closings : List Char) (text : List Char) : Step Unit :=
  if closings.head? = some '\x7d' then
    match Json.skipSpace text with
    | [] => Json.stopHere .endInObject []
    | c :: rest =>
      if c = '"' then
        Step.andThen (skipString (rest.length + 1) rest) fun _ rest => Json.readColon rest
      else Json.stopAtNext .nameNotString (c :: rest)
  else .ok ((), text)

/-- Skips values until all open containers are closed. -/
def skipValues : (fuel : Nat) → (closings : List Char) → List Char → Step Unit
  | 0, _, text => Json.stopHere .endInValue text
  | fuel + 1, closings, text =>
    Step.andThen (skipOpening text) fun opened rest =>
      let (afterItem, closings) : Bool × List Char :=
        match opened with
        | some closing => (false, closing :: closings)
        | none => (true, closings)
      Step.andThen (skipClosings (rest.length + 2) afterItem closings rest) fun closings rest =>
        match closings with
        | [] => .ok ((), rest)
        | _ => Step.andThen (skipName closings rest) fun _ rest => skipValues fuel closings rest

/-- Skips a value. -/
def skipValue (text : List Char) : Step Unit :=
  skipValues (text.length + 1) [] text

/-! ## Typed values -/

/-- Stops at a value of another type than the expected one. A scalar is read first, so that it can
be named; a container is not entered. -/
def mismatch {α : Type} (expected : String) (text : List Char) : Step α :=
  let found (f : Found) (rest : List Char) : Step α := Json.stopHere (.wrongType f expected) rest
  match text with
  | [] => Json.stopHere .endInValue []
  | c :: rest =>
    if c = 'n' then
      Step.andThen (Json.readWord ['u', 'l', 'l'] rest) fun _ rest => found .null rest
    else if c = 't' then
      Step.andThen (Json.readWord ['r', 'u', 'e'] rest) fun _ rest => found (.bool true) rest
    else if c = 'f' then
      Step.andThen (Json.readWord ['a', 'l', 's', 'e'] rest) fun _ rest => found (.bool false) rest
    else if c = '-' ∨ (Json.digitValue? c).isSome then
      Step.andThen (Json.readNumber (c == '-') (if c = '-' then rest else text)) fun n rest =>
        match n with
        | .whole value _ => found (.whole value) rest
        | .real value => found (.real value) rest
    else if c = '"' then
      Step.andThen (Json.readString rest) fun s rest => found (.string s) rest
    -- A container is reported at its opening bracket, which is not read.
    else if c = '[' then found .array text
    else if c = '\x7b' then found .object text
    else Json.stopAtNext .expectedValue text

/-- Reads null as nothing and any other value with a reader, which gets the text from the value's
first character. -/
def readOptional {α : Type} (read : List Char → Step α) (text : List Char) : Step (Option α) :=
  match Json.skipSpace text with
  | [] => Json.stopHere .endInValue []
  | c :: rest =>
    if c = 'n' then Step.map (fun _ => none) (Json.readWord ['u', 'l', 'l'] rest)
    else Step.map some (read (c :: rest))

/-- Reads a string. -/
def readText (text : List Char) : Step String :=
  match text with
  | '"' :: rest => Json.readString rest
  | _ => mismatch "a string" text

/-- Reads a truth value. -/
def readBool (text : List Char) : Step Bool :=
  match text with
  | 't' :: rest => Step.map (fun _ => true) (Json.readWord ['r', 'u', 'e'] rest)
  | 'f' :: rest => Step.map (fun _ => false) (Json.readWord ['a', 'l', 's', 'e'] rest)
  | _ => mismatch "a boolean" text

/-- Reads a whole number that is not negative; `expected` names the type in messages. -/
def readCount (expected : String) (text : List Char) : Step Nat :=
  let judge (n : Json.Number) (rest : List Char) : Step Nat :=
    match n with
    | .whole value _ =>
      if 0 ≤ value then .ok (value.toNat, rest)
      else Json.stopHere (.wrongValue (.whole value) expected) rest
    | .real value => Json.stopHere (.wrongType (.real value) expected) rest
  match text with
  | [] => mismatch expected text
  | c :: rest =>
    if c = '-' then Step.andThen (Json.readNumber true rest) judge
    else if (Json.digitValue? c).isSome then Step.andThen (Json.readNumber false text) judge
    else mismatch expected text

/-! ## Records -/

/-- A field of a record: its name, and a reader of its value that gives how to set it. -/
structure FieldReader (ρ : Type) where
  name : String
  read : List Char → Step (ρ → ρ)

/-- The text at which a fault of a whole object is reported: behind the white space that follows,
and behind the closing brace if it comes next. -/
def afterObject (text : List Char) : List Char :=
  match Json.skipSpace text with
  | c :: rest => if c = '\x7d' then rest else c :: rest
  | [] => []

/-- The text at which a fault of a whole array is reported: behind the white space that follows, and
behind the closing bracket or a comma if that comes next. -/
def afterArray (text : List Char) : List Char :=
  match Json.skipSpace text with
  | c :: rest =>
    if c = ']' then rest
    else if c = ',' then Json.skipSpace rest
    else c :: rest
  | [] => []

/-- Reads the members of an object into a record, after the opening brace. `unknown` reads the value
of a member that is no field and gives how to note it. No field may come twice. -/
def readFields {ρ : Type} (fields : List (FieldReader ρ))
    (unknown : String → List Char → Step (ρ → ρ)) :
    (fuel : Nat) → (first : Bool) → (seen : List String) → ρ → List Char → Step ρ
  | 0, _, _, _, text => Json.stopHere .endInObject text
  | fuel + 1, first, seen, record, text =>
    Step.andThen (Json.nextName first text) fun name rest =>
      match name with
      | none => .ok (record, rest.drop 1)
      | some name =>
        match fields.find? (·.name == name) with
        | some field =>
          -- The value of the second field of a name is not read any more.
          if seen.contains name then Json.stopHere (.duplicateField name) (afterObject rest)
          else
            Step.andThen (Json.readColon rest) fun _ rest =>
              Step.andThen (field.read rest) fun set rest =>
                readFields fields unknown fuel false (name :: seen) (set record) rest
        | none =>
          Step.andThen (Json.readColon rest) fun _ rest =>
            Step.andThen (unknown name rest) fun set rest =>
              readFields fields unknown fuel false seen (set record) rest

/-- Reads the closing bracket of an array that holds all fields of a record. -/
def readClosing (text : List Char) : Step Unit :=
  match Json.skipSpace text with
  | [] => Json.stopHere .endInArray []
  | c :: rest =>
    if c = ']' then .ok ((), rest)
    else if c = ',' then
      let rest := Json.skipSpace rest
      Json.stopAtNext (if rest.head? = some ']' then .trailingComma else .trailingCharacters) rest
    else Json.stopAtNext .trailingCharacters (c :: rest)

/-- Reads the items of an array into the fields of a record, after the opening bracket. -/
def readItems {ρ : Type} (expected : String) :
    (position : Nat) → List (FieldReader ρ) → ρ → List Char → Step ρ
  | _, [], record, text => Step.map (fun _ => record) (readClosing text)
  | position, field :: fields, record, text =>
    Step.andThen (Json.nextItem (position == 0) text) fun more rest =>
      if more then
        Step.andThen (field.read rest) fun set rest =>
          readItems expected (position + 1) fields (set record) rest
      else Json.stopHere (.wrongLength position expected) (afterArray rest)

/-- A type of records: its name in messages, its fields, and the record with no field set. -/
structure RecordType (ρ : Type) where
  name : String
  fields : List (FieldReader ρ)
  empty : ρ

/-- What is expected where a record of a type is read from an array. -/
def RecordType.expected {ρ : Type} (type : RecordType ρ) : String :=
  type.name ++ " with " ++ String.ofList (Decimal.naturalDigits type.fields.length) ++ " elements"

/-- Reads a record from an object or an array; members that are no fields are skipped. -/
def readRecord {ρ : Type} (type : RecordType ρ) (text : List Char) : Step ρ :=
  match text with
  | '\x7b' :: rest =>
    readFields type.fields (fun _ text => Step.map (fun _ => id) (skipValue text))
      (rest.length + 1) true [] type.empty rest
  | '[' :: rest => readItems type.expected 0 type.fields type.empty rest
  | _ => mismatch type.name text

/-- Reads an object as it is, with `room` levels left for the values of its members. -/
def readObject (room : Nat) (text : List Char) : Step Members :=
  match text with
  | '\x7b' :: rest => Json.readMembers (Json.readValue room) (rest.length + 1) true [] rest
  | _ => mismatch "a map" text

end SearchIndex.Config
