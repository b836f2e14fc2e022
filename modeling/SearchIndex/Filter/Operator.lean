import SearchIndex.Text.Classes
import SearchIndex.Text.Lowercase

/-!
# Operators and connectives

An operator compares a column with a value or matches the column against a pattern. Comparisons have
a word in the grammar; patterns mark the value with wildcards. Each has several accepted spellings,
in any case and with white space around them.
-/

namespace SearchIndex.Filter

/-- A comparison of the grammar. -/
inductive Comparison where
  | eq
  | ne
  | gt
  | ge
  | lt
  | le
deriving DecidableEq, Repr

/-- The grammar's word for a comparison. -/
def Comparison.word : Comparison → String
  | .eq => "eq"
  | .ne => "ne"
  | .gt => "gt"
  | .ge => "ge"
  | .lt => "lt"
  | .le => "le"

/-- How a value is matched against a column. -/
inductive PatternKind where
  | like
  | startsWith
  | endsWith
  | contains
deriving DecidableEq, Repr

/-- The name of a pattern kind. -/
def PatternKind.name : PatternKind → String
  | .like => "Like"
  | .startsWith => "StartsWith"
  | .endsWith => "EndsWith"
  | .contains => "Contains"

/-- The value with the wildcard of the kind: after it, before it, or none. -/
def PatternKind.wildcard (kind : PatternKind) (value : String) : String :=
  match kind with
  | .startsWith => value ++ "*"
  | .endsWith => "*" ++ value
  | .like | .contains => value

/-- An operator of a predicate. -/
inductive Operator where
  | comparison (c : Comparison)
  | pattern (kind : PatternKind)
deriving DecidableEq, Repr

namespace Operator

/-- The grammar's word for the operator, if it is a comparison. -/
def word? : Operator → Option String
  | .comparison c => some c.word
  | .pattern _ => none

/-- The pattern kind of the operator, if it is a pattern. -/
def patternKind? : Operator → Option PatternKind
  | .comparison _ => none
  | .pattern kind => some kind

/-- The operator as it is shown: the word of a comparison, the name of a pattern in lower case. -/
def display : Operator → String
  | .comparison c => c.word
  | .pattern .like => "like"
  | .pattern .startsWith => "startswith"
  | .pattern .endsWith => "endswith"
  | .pattern .contains => "contains"

/-- The accepted spellings. -/
def spellings : List (String × Operator) := [
  ("=", .comparison .eq), ("==", .comparison .eq), ("eq", .comparison .eq),
  ("!=", .comparison .ne), ("<>", .comparison .ne), ("ne", .comparison .ne),
  (">", .comparison .gt), ("gt", .comparison .gt),
  (">=", .comparison .ge), ("ge", .comparison .ge),
  ("<", .comparison .lt), ("lt", .comparison .lt),
  ("<=", .comparison .le), ("le", .comparison .le),
  ("like", .pattern .like),
  ("startswith", .pattern .startsWith), ("starts", .pattern .startsWith),
  ("starts_with", .pattern .startsWith),
  ("endswith", .pattern .endsWith), ("ends", .pattern .endsWith), ("ends_with", .pattern .endsWith),
  ("contains", .pattern .contains)]

/-- The operator of a spelling, or the spelling as it was looked up. -/
def parse (s : String) : Except String Operator :=
  let key := Text.lowercase (Text.trim s)
  match spellings.lookup key with
  | some op => .ok op
  | none => .error key

/-- What is said of a spelling that names no operator. -/
def unknownMessage (key : String) : String :=
  "unknown operator '" ++ key ++ "'"

end Operator

/-- How the conditions of a group are joined. -/
inductive Connective where
  | and
  | or
deriving DecidableEq, Repr

namespace Connective

/-- The grammar's word for a connective. -/
def word : Connective → String
  | .and => "and"
  | .or => "or"

/-- The accepted spellings. -/
def spellings : List (String × Connective) := [("and", .and), ("&&", .and), ("or", .or), ("||", .or)]

/-- The connective of a spelling, or the spelling as it was looked up. -/
def parse (s : String) : Except String Connective :=
  let key := Text.lowercase (Text.trim s)
  match spellings.lookup key with
  | some c => .ok c
  | none => .error key

/-- What is said of a spelling that names no connective. -/
def unknownMessage (key : String) : String :=
  "unknown connective '" ++ key ++ "'"

end Connective

end SearchIndex.Filter
