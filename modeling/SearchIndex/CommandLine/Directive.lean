import SearchIndex.CommandLine.Count
import SearchIndex.CommandLine.FieldPattern
import SearchIndex.Text.Classes

/-!
# Directives for the log

A directive says from which severity on notes are shown: the notes of the parts of the program whose
names start in some way, with some field, or within some span. Its text is a threshold, or the start
of a name with a span and a field in square brackets behind it, then perhaps an equals sign and a
threshold.
-/

namespace SearchIndex.CommandLine

/-! ## Severities -/

/-- How much is shown: nothing, or what is at least so severe. -/
inductive Threshold where
  | off
  | error
  | warn
  | info
  | debug
  | trace
deriving DecidableEq, Repr

namespace Threshold

/-- Warnings are shown. -/
def showsWarnings : Threshold → Bool
  | .off => false
  | .error => false
  | _ => true

/-- The threshold of a number. -/
def ofNumber? : Nat → Option Threshold
  | 0 => some .off
  | 1 => some .error
  | 2 => some .warn
  | 3 => some .info
  | 4 => some .debug
  | 5 => some .trace
  | _ => none

/-- The words for thresholds. -/
def words : List (String × Threshold) :=
  [("off", .off), ("error", .error), ("warn", .warn), ("info", .info), ("debug", .debug),
    ("trace", .trace)]

/-- The threshold of a count or of a word in any case. -/
def ofText? (text : String) : Option Threshold :=
  match readCount text with
  | .ok n => ofNumber? n
  | .error _ => words.lookup (text.map Char.toLower)

end Threshold

/-! ## Directives -/

/-- What a directive asks of the fields of a note. -/
structure FieldTest where
  name : String
  /-- The field must have a certain value. -/
  hasValue : Bool
deriving DecidableEq, Repr

/-- One part of what is asked of the log. -/
structure Directive where
  /-- How the names of the parts of the program start that the directive is about. -/
  part : Option String := none
  /-- The name of the span that notes must be in. -/
  span : Option String := none
  field : Option FieldTest := none
  threshold : Threshold := .trace
deriving DecidableEq, Repr

namespace Directive

/-- Why a text is no directive. -/
inductive Fault where
  | badForm
  | badThreshold
  | badValue (fault : FieldPattern.Fault)
deriving DecidableEq, Repr

/-- The fault in words. -/
def Fault.message : Fault → String
  | .badForm => "invalid filter directive"
  | .badThreshold =>
    "error parsing level filter: expected one of \"off\", \"error\", \"warn\", \"info\", " ++
      "\"debug\", \"trace\", or a number 0-5"
  | .badValue fault => "invalid field filter: " ++ fault.message

/-! ### Reading

White space around a directive does not count where its parts are told apart, yet the parts are cut
from the text with its white space. So white space in front moves every part to the left. The readers
therefore take what remains of both: `whole` with the white space and `form` without. -/

/-- The character may begin a directive without a bracket. -/
def mayBegin (c : Char) : Bool :=
  c == '-' || c == ':' || c == '_' || Text.isAlphanumeric c

/-- Reads the threshold behind an equals sign; nothing stands for the lowest one. -/
def readThreshold (d : Directive) (whole : List Char) : Except Fault Directive :=
  if whole.isEmpty then .ok d
  else
    match Threshold.ofText? (String.ofList whole) with
    | some threshold => .ok { d with threshold }
    | none => .error .badThreshold

/-- Reads what is behind the brackets. -/
def readEnd (d : Directive) (whole form : List Char) : Except Fault Directive :=
  match form with
  | [] => .ok d
  | '=' :: _ => readThreshold d (whole.drop 1)
  | _ => .error .badForm

/-- Reads the test of a field: its name, perhaps with an equals sign and a value behind it. The value ends
at a second equals sign. -/
def readTest (text : List Char) : Except Fault FieldTest :=
  match text.span (· != '=') with
  | (name, []) => .ok ⟨String.ofList name, false⟩
  | (name, _ :: value) =>
    match FieldPattern.fault? (value.takeWhile (· != '=')) with
    | none => .ok ⟨String.ofList name, true⟩
    | some fault => .error (.badValue fault)

/-- Reads the field behind an opening brace, and what follows. -/
def readField (d : Directive) (whole form : List Char) : Except Fault Directive :=
  match form.span (· != '\x7d') with
  | (_ :: more, _ :: rest) =>
    let length := more.length + 1
    match readTest (whole.take length), rest with
    | .error fault, _ => .error fault
    | .ok test, ']' :: rest => readEnd { d with field := some test } (whole.drop (length + 2)) rest
    | .ok _, _ => .error .badForm
  | _ => .error .badForm

/-- Reads the span behind an opening bracket, and what follows. -/
def readSpan (d : Directive) (whole form : List Char) : Except Fault Directive :=
  let (name, rest) := form.span fun c => c != ']' && c != '\x7b'
  let span := some (String.ofList (whole.take name.length))
  let whole := whole.drop (name.length + 1)
  match rest with
  | ']' :: rest => readEnd { d with span } whole rest
  -- Only in front of a field may the name of the span be left out.
  | '\x7b' :: rest => readField { d with span := if name.isEmpty then none else span } whole rest
  | _ => .error .badForm

/-- The directive of a text without marks: a threshold for everything, or the start of a name. -/
def ofWord (word : String) : Directive :=
  match Threshold.ofText? word with
  | some threshold => { threshold }
  | none => { part := some word }

/-- Reads a directive. -/
def ofText (text : String) : Except Fault Directive :=
  let whole := text.toList
  match (Text.trim text).toList with
  | [] => .error .badForm
  | c :: form =>
    if c = '[' then readSpan {} (whole.drop 1) form
    else if mayBegin c then
      let (name, rest) := (c :: form).span fun c => c != '=' && c != '['
      let part := some (String.ofList (whole.take name.length))
      match rest with
      | [] => .ok (ofWord text)
      | mark :: rest =>
        let whole := whole.drop (name.length + 1)
        if mark = '=' then readThreshold { part } whole else readSpan { part } whole rest
    else .error .badForm

/-! ### Which directive decides -/

/-- The directive can be judged without knowing spans and values. -/
def isPlain (d : Directive) : Bool :=
  d.span.isNone && !d.field.any FieldTest.hasValue

/-- The directive is about notes of a part that have certain fields. -/
def isAbout (d : Directive) (part : String) (fields : List String) : Bool :=
  (d.part.all fun start => start.toList.isPrefixOf part.toList) &&
    d.field.all fun f => fields.contains f.name

/-- How much of a name the directive asks for. -/
def reach (d : Directive) : Nat :=
  match d.part with
  | some part => part.length + 1
  | none => 0

/-- One test of a field does not count before another: a test counts before none, and of two tests
the one of the later name in the alphabet. -/
def fieldYields : Option FieldTest → Option FieldTest → Bool
  | none, _ => true
  | some _, none => false
  | some f, some g => !decide (g.name < f.name)

/-- The directive does not count before another about the same note: the one that asks for more of
the name counts first, then the one that asks for a field. -/
def yieldsTo (d e : Directive) : Bool :=
  d.reach < e.reach || (d.reach == e.reach && fieldYields d.field e.field)

/-- The directive that decides about notes of a part with some fields: of those that count first, the
last. -/
def deciding (ds : List Directive) (part : String) (fields : List String) : Option Directive :=
  (ds.filter fun d => d.isPlain && d.isAbout part fields).foldl
    (fun best d =>
      match best with
      | none => some d
      | some b => if b.yieldsTo d then some d else some b) none

end Directive

end SearchIndex.CommandLine
