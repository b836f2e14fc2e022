import SearchIndex.Filter.Operator
import SearchIndex.Json.Value

/-!
# Predicates

A filter is a list of predicates, all of which are to hold. Predicates nest in groups.
-/

namespace SearchIndex.Filter

/-- The value that a column is compared with. -/
inductive Scalar where
  | null
  | bool (value : Bool)
  | number (value : Json.Number)
  | string (value : String)

namespace Scalar

/-- The scalar of a JSON value that is no container. -/
def ofJson? : Json.Value → Option Scalar
  | .null => some .null
  | .bool b => some (.bool b)
  | .number n => some (.number n)
  | .string s => some (.string s)
  | .array _ => none
  | .object _ => none

/-- The scalar as a JSON value. -/
def toJson : Scalar → Json.Value
  | .null => .null
  | .bool b => .bool b
  | .number n => .number n
  | .string s => .string s

/-- The scalar of a double; what is not finite has no literal and becomes null. -/
def ofFloat (x : Float) : Scalar :=
  if x.isFinite then .number (.real x) else .null

/-- The text of a scalar, without quotes. -/
def text : Scalar → String
  | .null => "null"
  | .bool true => "true"
  | .bool false => "false"
  | .number n => n.text
  | .string s => s

/-- A scalar reads back from its JSON value. -/
@[simp] theorem ofJson?_toJson (s : Scalar) : ofJson? s.toJson = some s := by
  cases s <;> rfl

end Scalar

/-- A condition on the columns of a record. -/
inductive Predicate where
  /-- The column compares with the value, or matches it as a pattern. -/
  | basic (column : String) (operator : Operator) (value : Scalar)
  /-- The column matches the value as a pattern. -/
  | pattern (column : String) (kind : PatternKind) (value : Scalar)
  | isNull (column : String)
  | isNotNull (column : String)
  /-- The column equals one of the members. -/
  | isIn (column : String) (members : List Scalar)
  | isNotIn (column : String) (members : List Scalar)
  | boolean (column : String) (value : Bool)
  /-- Text of the grammar, in which symbols may stand for the grammar's words. -/
  | raw (text : String)
  /-- Predicates joined by a connective, and negated as a whole or not. -/
  | group (connective : Connective) (negated : Bool) (conditions : List Predicate)
  /-- Text of the grammar, taken as it is. -/
  | fragment (text : String)

namespace Predicate

/-- The name of the predicate's kind. -/
def kindName : Predicate → String
  | .basic .. => "Basic"
  | .pattern _ kind _ => kind.name
  | .isNull _ => "Null"
  | .isNotNull _ => "NotNull"
  | .isIn .. => "In"
  | .isNotIn .. => "NotIn"
  | .boolean .. => "Boolean"
  | .raw _ => "Raw"
  | .group .. => "Group"
  | .fragment _ => "Fragment"

end Predicate

end SearchIndex.Filter
