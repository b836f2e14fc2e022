import SearchIndex.Filter.Compile

/-!
# Predicates as JSON

A filter is written as an array of entries, as a single object, or as null for no predicates. An
entry is a string, which is a fragment; an object with a `type` or `kind` tag, which is one
predicate; or any other object, each of whose members says that a column equals a value. In lenient
reading an entry with an error of its own is dropped.
-/

namespace SearchIndex.Filter

open Json (Members)

/-- The largest size in bytes of a filter text. -/
def maxTextBytes : Nat := 64 * 1024

/-! ## Fields -/

/-- What a field gives, or the error of the predicate at the path. -/
abbrev Field (α : Type) := Except Error α

/-- A malformed predicate. -/
def malformed {α : Type} (path : Path) (defect : Defect) : Field α :=
  .error (.malformed path defect)

/-- A value that is no container. -/
def readScalar (path : Path) (value : Json.Value) : Field Scalar :=
  match Scalar.ofJson? value with
  | some s => .ok s
  | none => malformed path (.scalarType value.typeName)

/-- The column of a predicate, which must not be blank. -/
def readColumn (path : Path) (members : Members) : Field String :=
  match members.getEither? "column" "field" with
  | some (.string s) => if Text.isBlankText s then malformed path .emptyColumn else .ok s
  | some other => malformed path (.columnType other.typeName)
  | none => malformed path (.missing "column")

/-- The operator of a predicate, if one is given. -/
def readOperator (path : Path) (members : Members) : Field (Option Operator) :=
  match members.get? "operator" with
  | none => .ok none
  | some .null => .ok none
  | some (.string s) =>
    match Operator.parse s with
    | .ok op => .ok (some op)
    | .error _ => .error (.unsupportedOperator path s)
  | some other => .error (.unsupportedOperator path other.text)

/-- The value of a predicate. A null is a value, but the field must be there. -/
def readValueField (path : Path) (members : Members) : Field Scalar :=
  match members.get? "value" with
  | some value => readScalar path value
  | none => malformed path (.missing "value")

/-- The members of a membership list that are scalars other than null, or the first error. -/
def readMemberList (path : Path) : List Json.Value → Field (List Scalar)
  | [] => .ok []
  | .null :: _ => malformed path .nullMember
  | value :: rest => do
    let s ← readScalar path value
    let ss ← readMemberList path rest
    .ok (s :: ss)

/-- The membership list of a predicate. -/
def readMembersField (path : Path) (members : Members) : Field (List Scalar) :=
  match members.getEither? "values" "value" with
  | some (.array values) => readMemberList path values
  | some other => malformed path (.membersType other.typeName)
  | none => malformed path (.missing "values")

/-- The truth value of a predicate; the numbers 0 and 1 stand for false and true. -/
def readBoolean (path : Path) (members : Members) : Field Bool :=
  match members.get? "value" with
  | some (.bool b) => .ok b
  | some (.number n) =>
    if n.toNat? = some 0 then .ok false
    else if n.toNat? = some 1 then .ok true
    else malformed path (.notBoolean n.text)
  | some other => malformed path (.notBoolean other.text)
  | none => malformed path (.missing "value")

/-- The text of a raw predicate, under the first of its names that is there. -/
def readRawText (path : Path) (members : Members) : Field String :=
  match (members.get? "rawExpression").orElse fun _ => members.getEither? "sql" "expression" with
  | some (.string s) => .ok s
  | some other => malformed path (.rawType other.typeName)
  | none => malformed path (.missing "rawExpression")

/-- The connective of a group. -/
def readConnective (path : Path) (members : Members) : Field Connective :=
  match members.getEither? "connective" "boolean" with
  | none => .ok .and
  | some .null => .ok .and
  | some (.string s) =>
    match Connective.parse s with
    | .ok c => .ok c
    | .error key => malformed path (.unknownConnective key)
  | some other => malformed path (.connectiveType other.typeName)

/-- Whether a group is negated. -/
def readNegation (path : Path) (members : Members) : Field Bool :=
  match members.get? "not" with
  | none => .ok false
  | some .null => .ok false
  | some (.bool b) => .ok b
  | some other => malformed path (.negationType other.typeName)

/-- The entries of a group. -/
def readConditions (path : Path) (members : Members) : Field (List Json.Value) :=
  match members.get? "conditions" with
  | some (.array entries) => .ok entries
  | some other => malformed path (.conditionsType other.typeName)
  | none => malformed path (.missing "conditions")

/-! ## Kinds -/

/-- The kind of predicate that a tag names. -/
inductive Kind where
  | basic
  | pattern (kind : PatternKind)
  | isNull
  | isNotNull
  | isIn
  | isNotIn
  | boolean
  | raw
  | group
deriving DecidableEq, Repr

/-- The tags, in lower case and without white space. -/
def Kind.tags : List (String × Kind) := [
  ("basic", .basic), ("like", .pattern .like), ("startswith", .pattern .startsWith),
  ("endswith", .pattern .endsWith), ("contains", .pattern .contains), ("null", .isNull),
  ("notnull", .isNotNull), ("in", .isIn), ("notin", .isNotIn), ("boolean", .boolean),
  ("raw", .raw), ("group", .group)]

/-- The kind of a tag, whose case and white space do not count. -/
def Kind.ofTag? (tag : String) : Option Kind :=
  Kind.tags.lookup (Text.lowercase (Text.squeeze tag))

/-- The kind of a tagged object. -/
def readKind (path : Path) (members : Members) : Field Kind :=
  match members.getEither? "type" "kind" with
  | some (.string tag) =>
    match Kind.ofTag? tag with
    | some kind => .ok kind
    | none => .error (.unsupportedKind path (Text.trim tag))
  | _ => malformed path .tagType

/-- The predicate of a pattern tag. An operator of its own wins over the tag. -/
def patternWith (column : String) (kind : PatternKind) (value : Scalar) :
    Option Operator → Predicate
  | none => .pattern column kind value
  | some (.pattern other) => .pattern column other value
  | some (.comparison c) => .basic column (.comparison c) value

/-- The predicate of a tagged object that is no group. -/
def readLeaf (path : Path) (members : Members) : Kind → Field Predicate
  | .basic => do
    let column ← readColumn path members
    let operator ← readOperator path members
    let value ← readValueField path members
    .ok (.basic column (operator.getD (.comparison .eq)) value)
  | .pattern kind => do
    let column ← readColumn path members
    let value ← readValueField path members
    let operator ← readOperator path members
    .ok (patternWith column kind value operator)
  | .isNull => (readColumn path members).map .isNull
  | .isNotNull => (readColumn path members).map .isNotNull
  | .isIn => do
    let column ← readColumn path members
    let list ← readMembersField path members
    .ok (.isIn column list)
  | .isNotIn => do
    let column ← readColumn path members
    let list ← readMembersField path members
    .ok (.isNotIn column list)
  | .boolean => do
    let column ← readColumn path members
    let value ← readBoolean path members
    .ok (.boolean column value)
  | .raw => (readRawText path members).map .raw
  | .group => .ok (.group .and false [])

/-- The predicates of an object without a tag, one equality for each member. -/
def readShorthand (path : Path) : Members → Field (List Predicate)
  | [] => .ok []
  | (column, value) :: rest => do
    let s ← readScalar (path.push (.member column)) value
    let more ← readShorthand path rest
    .ok (.basic column (.comparison .eq) s :: more)

/-! ## Entries -/

/-- The result of a field, with nothing dropped. -/
def Report.ofField {α : Type} : Field α → Report α
  | .ok a => .ok a
  | .error e => .fail e

/-- The object has a tag. -/
def isTagged (members : Members) : Bool :=
  (members.getEither? "type" "kind").isSome

/-- The fields of a group other than its conditions, and its entries. -/
def readGroupFields (path : Path) (members : Members) :
    Field (Connective × Bool × List Json.Value) := do
  let connective ← readConnective path members
  let negated ← readNegation path members
  let entries ← readConditions path members
  .ok (connective, negated, entries)

/-- The predicates of an entry, with `room` levels of depth left. -/
def readEntry (options : Options) : (room : Nat) → Path → Json.Value → Report (List Predicate)
  | 0, _, _ => .fail (.tooDeep options.maxDepth)
  | room + 1, path, .object members =>
    if isTagged members then
      match readKind path members with
      | .error e => .fail e
      -- The fields of a group are read before its conditions, whose errors are their own.
      | .ok .group =>
        match readGroupFields path members with
        | .error e => .fail e
        | .ok (connective, negated, entries) =>
          (Report.each (fun i entry =>
              (readEntry options room (path.push (.condition i)) entry).orDrop options
                (path.push (.condition i)) none [])
            0 entries).map fun conditions => [.group connective negated conditions.flatten]
      | .ok kind => (Report.ofField (readLeaf path members kind)).map ([·])
    else Report.ofField (readShorthand path members)
  | _ + 1, _, .string text => .ok [.fragment text]
  | _ + 1, path, other => .fail (.malformed path (.entryType other.typeName))

/-- The predicates of an entry, which is dropped in lenient work if it has an error of its own. -/
def guardedEntry (options : Options) (room : Nat) (path : Path) (entry : Json.Value) :
    Report (List Predicate) :=
  (readEntry options room path entry).orDrop options path none []

/-- The predicates of a filter as a JSON value. -/
def readPredicates (options : Options) : Json.Value → Report (List Predicate)
  | .null => .ok []
  | .array entries =>
    (Report.each (fun i entry =>
        guardedEntry options options.maxDepth (Path.root.push (.entry i)) entry)
      0 entries).map List.flatten
  | .object members => guardedEntry options options.maxDepth Path.root (.object members)
  | _ => .fail (.malformed Path.root .filterType)

/-- The predicates of a filter as a JSON text. -/
def parsePredicates (options : Options) (text : String) : Report (List Predicate) :=
  if maxTextBytes < text.utf8ByteSize then .fail (.tooLarge maxTextBytes)
  else
    match Json.parse text with
    | .error fault => .fail (.invalidJson fault)
    | .ok value => readPredicates options value

/-! ## From JSON to a filter -/

/-- Reads a filter from a JSON value and compiles it. -/
def compileValue (options : Options) (value : Json.Value) : Report String :=
  (readPredicates options value).andThen (compile options)

/-- Reads a filter from a JSON text and compiles it. -/
def compileText (options : Options) (text : String) : Report String :=
  (parsePredicates options text).andThen (compile options)

end SearchIndex.Filter
