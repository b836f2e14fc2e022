import SearchIndex.Json.Reader

/-!
# Errors of filters

A defect is what is wrong with one predicate; an error places it, or concerns the filter as a whole.
Lenient reading and compilation drop predicates with errors of their own and stop at the others.
-/

namespace SearchIndex.Filter

/-! ## Places of predicates -/

/-- A step from a list or a predicate to one of its parts. -/
inductive PathStep where
  | entry (index : Nat)
  | condition (index : Nat)
  | member (column : String)
deriving DecidableEq, Repr

/-- The place of a predicate: where the filter stands, and the steps from there. -/
structure Path where
  base : String
  steps : List PathStep
deriving DecidableEq, Repr

namespace Path

/-- The place of a whole filter. -/
def root : Path := ⟨"wheres", []⟩

/-- The place one step further. -/
def push (p : Path) (step : PathStep) : Path := ⟨p.base, p.steps ++ [step]⟩

end Path

/-- A step in words. -/
def PathStep.text : PathStep → String
  | .entry i => "[" ++ String.ofList (Decimal.naturalDigits i) ++ "]"
  | .condition i => ".conditions[" ++ String.ofList (Decimal.naturalDigits i) ++ "]"
  | .member column => "." ++ column

/-- A place in words. -/
def Path.text (p : Path) : String :=
  p.base ++ String.join (p.steps.map PathStep.text)

/-! ## Defects -/

/-- What is wrong with a predicate. A type name tells what was found in place of the right type. -/
inductive Defect where
  | filterType
  | entryType (found : String)
  | tagType
  | missing (field : String)
  | emptyColumn
  | columnType (found : String)
  | scalarType (found : String)
  | membersType (found : String)
  | nullMember
  | notBoolean (found : String)
  | rawType (found : String)
  | connectiveType (found : String)
  | unknownConnective (key : String)
  | negationType (found : String)
  | conditionsType (found : String)
  /-- A membership list of a column has a null. -/
  | nullInMembership (column : String)
  /-- A membership list of a column has a member with the delimiter in it. -/
  | delimiterInMembership (member column : String)
deriving DecidableEq, Repr

/-- The defect in words. -/
def Defect.reason : Defect → String
  | .filterType => "expected an array or an object of predicates"
  | .entryType found => "expected an object or a string, got " ++ found
  | .tagType => "kind tag must be a string"
  | .missing field => "missing '" ++ field ++ "'"
  | .emptyColumn => "'column' is empty"
  | .columnType found => "'column' must be a string, got " ++ found
  | .scalarType found => "expected a scalar value, got " ++ found
  | .membersType found => "membership values must be an array, got " ++ found
  | .nullMember => "membership values must not contain null"
  | .notBoolean found => "boolean value expected, got " ++ found
  | .rawType found => "raw expression must be a string, got " ++ found
  | .connectiveType found => "connective must be a string, got " ++ found
  | .unknownConnective key => "unknown connective '" ++ key ++ "'"
  | .negationType found => "'not' must be a boolean, got " ++ found
  | .conditionsType found => "'conditions' must be an array, got " ++ found
  | .nullInMembership column => "membership list for '" ++ column ++ "' contains null"
  | .delimiterInMembership member column =>
    "membership value '" ++ member ++ "' for '" ++ column ++ "' contains the delimiter ','"

/-! ## Errors -/

/-- Why a filter cannot be read or compiled. -/
inductive Error where
  | malformed (path : Path) (defect : Defect)
  | unsupportedKind (path : Path) (kind : String)
  | unsupportedOperator (path : Path) (operator : String)
  | tooDeep (maxDepth : Nat)
  | tooLarge (maxBytes : Nat)
  | invalidJson (fault : Json.Fault)

namespace Error

/-- The error in words. -/
def message : Error → String
  | .malformed path defect => "Malformed predicate at " ++ path.text ++ ": " ++ defect.reason
  | .unsupportedKind path kind =>
    "Unsupported predicate kind '" ++ kind ++ "' at " ++ path.text
  | .unsupportedOperator path operator =>
    "Unsupported operator '" ++ operator ++ "' at " ++ path.text
  | .tooDeep maxDepth =>
    "Predicate nesting exceeds maximum depth of " ++
      String.ofList (Decimal.naturalDigits maxDepth)
  | .tooLarge maxBytes =>
    "Filter input exceeds maximum size of " ++
      String.ofList (Decimal.naturalDigits maxBytes) ++ " bytes"
  | .invalidJson fault => "Invalid filter JSON: " ++ fault.message

/-- The error concerns one predicate, which may be dropped. -/
def isLocal : Error → Bool
  | .malformed .. => true
  | .unsupportedKind .. => true
  | .unsupportedOperator .. => true
  | .tooDeep _ => false
  | .tooLarge _ => false
  | .invalidJson _ => false

end Error

end SearchIndex.Filter
