import SearchIndex.Json.Printer
import SearchIndex.Text.Quoted

/-!
# Faults of JSON texts

Why a text cannot be read, and where: a fault names its cause, the line, counted from one, and the
number of bytes of that line read up to it.
-/

namespace SearchIndex.Json

/-- What was found where a value of another type was expected. -/
inductive Found where
  | null
  | bool (value : Bool)
  | whole (value : Int)
  | real (value : Float)
  | string (value : String)
  | array
  | object

/-- The found value in a message. -/
def Found.describe : Found → String
  | .null => "null"
  | .bool value => "boolean \x60" ++ (if value then "true" else "false") ++ "\x60"
  | .whole value => "integer \x60" ++ String.ofList (Decimal.signedDigits false value) ++ "\x60"
  | .real value => "floating point \x60" ++ (Number.real value).text ++ "\x60"
  | .string value => "string " ++ Text.quoted value
  | .array => "sequence"
  | .object => "map"

/-- Why a text cannot be read. -/
inductive Cause where
  | endInValue
  | endInArray
  | endInObject
  | endInString
  | expectedValue
  | expectedWord
  | expectedColon
  | expectedItemEnd
  | expectedMemberEnd
  | nameNotString
  | trailingComma
  | trailingCharacters
  | badNumber
  | numberTooLarge
  | badEscape
  | loneSurrogate
  | unfinishedSurrogate
  | controlInString
  | tooDeep
  /-- A value has another type than the record asks for. -/
  | wrongType (found : Found) (expected : String)
  /-- A whole number is outside the range that the record asks for. -/
  | wrongValue (found : Found) (expected : String)
  /-- An array stands for a record and ends too early. -/
  | wrongLength (length : Nat) (expected : String)
  | duplicateField (name : String)

/-- The cause in words. -/
def Cause.describe : Cause → String
  | .endInValue => "EOF while parsing a value"
  | .endInArray => "EOF while parsing a list"
  | .endInObject => "EOF while parsing an object"
  | .endInString => "EOF while parsing a string"
  | .expectedValue => "expected value"
  | .expectedWord => "expected ident"
  | .expectedColon => "expected \x60:\x60"
  | .expectedItemEnd => "expected \x60,\x60 or \x60]\x60"
  | .expectedMemberEnd => "expected \x60,\x60 or \x60\x7d\x60"
  | .nameNotString => "key must be a string"
  | .trailingComma => "trailing comma"
  | .trailingCharacters => "trailing characters"
  | .badNumber => "invalid number"
  | .numberTooLarge => "number out of range"
  | .badEscape => "invalid escape"
  | .loneSurrogate => "lone leading surrogate in hex escape"
  | .unfinishedSurrogate => "unexpected end of hex escape"
  | .controlInString => "control character (\\u0000-\\u001F) found while parsing a string"
  | .tooDeep => "recursion limit exceeded"
  | .wrongType found expected => "invalid type: " ++ found.describe ++ ", expected " ++ expected
  | .wrongValue found expected => "invalid value: " ++ found.describe ++ ", expected " ++ expected
  | .wrongLength length expected =>
    "invalid length " ++ String.ofList (Decimal.naturalDigits length) ++ ", expected " ++ expected
  | .duplicateField name => "duplicate field \x60" ++ name ++ "\x60"

/-- A cause and its place. -/
structure Fault where
  cause : Cause
  line : Nat
  column : Nat

/-- The fault in words. -/
def Fault.message (f : Fault) : String :=
  f.cause.describe ++ " at line " ++ String.ofList (Decimal.naturalDigits f.line) ++ " column " ++
    String.ofList (Decimal.naturalDigits f.column)

/-! ## Places -/

/-- The number of bytes of a text. -/
def byteCount (cs : List Char) : Nat :=
  cs.foldl (fun n c => n + c.utf8Size) 0

/-- The line and column reached after some more bytes of a text, from a line and column. -/
def placeFrom (line column : Nat) : (bytes : Nat) → List Char → Nat × Nat
  | bytes, [] => (line, column + bytes)
  | bytes, c :: rest =>
    if bytes < c.utf8Size then (line, column + bytes)
    else if c = '\n' then placeFrom (line + 1) 0 (bytes - 1) rest
    else placeFrom line (column + c.utf8Size) (bytes - c.utf8Size) rest

/-- Where reading stopped: `ahead` bytes into the text `rest` that was still unread. -/
structure Stop where
  cause : Cause
  rest : List Char
  ahead : Nat

/-- The fault at a stop in a text. A stop past the end of the text is at its end. -/
def Stop.fault (s : Stop) (whole : List Char) : Fault :=
  let left := byteCount s.rest
  let place := placeFrom 1 0 (byteCount whole - left + min s.ahead left) whole
  ⟨s.cause, place.1, place.2⟩

end SearchIndex.Json
