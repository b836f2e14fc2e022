import SearchIndex.Filter.Predicate
import SearchIndex.Filter.RawText
import SearchIndex.Filter.Report
import SearchIndex.Text.Pieces

/-!
# Compiling predicates

A predicate compiles to a clause of the grammar, a group to its clauses joined by the connective and
put in parentheses, and a filter to the conjunction of its clauses. Clauses that are blank are left
out of a join, and a join of nothing is empty. Each level of groups uses up one level of the depth
that the options allow.
-/

namespace SearchIndex.Filter

/-! ## Texts on strings -/

/-- The characters of a literal between its quotes. -/
def escapeText (s : String) : String :=
  String.ofList (Literal.escape s.toList)

/-- The literal of a text. -/
def quoteText (s : String) : String :=
  String.ofList (Literal.quote s.toList)

/-- The text of a literal. -/
def unquoteText? (s : String) : Option String :=
  (Literal.unquote? s.toList).map String.ofList

/-- The normal form of a text written by a caller. -/
def normalizeText (s : String) : String :=
  String.ofList (RawText.normalize s.toList)

/-- The text, in parentheses if it would bind looser than a conjunction. -/
def encloseText (s : String) : String :=
  String.ofList (RawText.enclose s.toList)

/-! ## Clauses of single predicates -/

/-- The clause that says that the column is null. -/
def nullClause (column : String) : String :=
  column ++ " eq null"

/-- The call that matches a column against a value as a pattern. The value comes first. -/
def patternClause (column : String) (kind : PatternKind) (value : Scalar) : String :=
  "search.ismatch('" ++ escapeText (kind.wildcard value.text) ++ "', '" ++ column ++ "')"

/-- A comparison of a column. Null is compared for equality whatever the operator. -/
def comparisonClause (column : String) (operator : Operator) (value : Scalar) : String :=
  match value, operator with
  -- Null comes before the operator, so that no pattern is matched against it.
  | .null, _ => nullClause column
  | _, .pattern kind => patternClause column kind value
  | .string s, .comparison c => column ++ " " ++ c.word ++ " '" ++ escapeText s ++ "'"
  | _, .comparison c => column ++ " " ++ c.word ++ " " ++ value.text

/-- The character between the members of a membership list. -/
def delimiter : Char := ','

/-- The text of a member of a membership list. A null has none, and a string must not hold the
delimiter. -/
def memberText (column : String) : Scalar → Except Defect String
  | .null => .error (.nullInMembership column)
  | .string s =>
    if s.toList.contains delimiter then .error (.delimiterInMembership s column)
    else .ok (escapeText s)
  | value => .ok value.text

/-- The texts of the members, or the first defect. -/
def memberTexts (column : String) : List Scalar → Except Defect (List String)
  | [] => .ok []
  | value :: rest =>
    match memberText column value with
    | .error defect => .error defect
    | .ok text => (memberTexts column rest).map (text :: ·)

/-- The call that looks a column up in a list. -/
def membershipClause (column : String) (members : List Scalar) : Except Defect String :=
  (memberTexts column members).map fun texts =>
    "search.in(" ++ column ++ ", '" ++ Text.joinWith "," texts ++ "', ',')"

/-- The clause of a predicate that is no group. -/
def leafClause : Predicate → Except Defect String
  | .basic column operator value => .ok (comparisonClause column operator value)
  | .pattern column kind value =>
    match value with
    | .null => .ok (nullClause column)
    | _ => .ok (patternClause column kind value)
  | .isNull column => .ok (nullClause column)
  | .isNotNull column => .ok (column ++ " ne null")
  | .isIn column members => membershipClause column members
  | .isNotIn column members => (membershipClause column members).map ("not " ++ ·)
  | .boolean column value => .ok (column ++ " eq " ++ if value then "true" else "false")
  | .raw text => .ok (encloseText (normalizeText text))
  | .group .. => .ok ""
  | .fragment text => .ok (encloseText text)

/-! ## Joins -/

/-- The clauses that say something. -/
def solid (clauses : List String) : List String :=
  clauses.filter fun c => !Text.isBlankText c

/-- The clause of a group with these clauses; a group of nothing says nothing. -/
def groupClause (connective : Connective) (negated : Bool) (clauses : List String) : String :=
  match solid clauses with
  | [] => ""
  | c :: rest =>
    let joined := Text.joinWith (" " ++ connective.word ++ " ") (c :: rest)
    if negated then "not (" ++ joined ++ ")" else "(" ++ joined ++ ")"

/-- The conjunction of the clauses of a filter. -/
def conjunction (clauses : List String) : String :=
  Text.joinWith " and " (solid clauses)

/-! ## The compiler -/

/-- The clause of a predicate, with `room` levels of depth left. A condition of a group that is
dropped leaves a blank clause. -/
def clause (options : Options) : (room : Nat) → Path → Predicate → Report String
  | 0, _, _ => .fail (.tooDeep options.maxDepth)
  | room + 1, path, .group connective negated conditions =>
    (Report.each (fun i child =>
        (clause options room (path.push (.condition i)) child).orDrop options
          (path.push (.condition i)) (some child.kindName) "")
      0 conditions).map (groupClause connective negated)
  | _ + 1, path, leaf =>
    match leafClause leaf with
    | .ok text => .ok text
    | .error defect => .fail (.malformed path defect)

/-- The clause of a predicate, which is dropped in lenient work if it has an error of its own. -/
def guardedClause (options : Options) (room : Nat) (path : Path) (p : Predicate) : Report String :=
  (clause options room path p).orDrop options path (some p.kindName) ""

/-- Compiles a filter. The result is empty if no predicate says anything. -/
def compile (options : Options) (predicates : List Predicate) : Report String :=
  (Report.each (fun i p => guardedClause options options.maxDepth (Path.root.push (.entry i)) p)
    0 predicates).map conjunction

end SearchIndex.Filter
