import SearchIndex.Proofs.Filter.Accepted
import SearchIndex.Proofs.Json.Objects
import SearchIndex.Proofs.Text.Case

/-!
# Spellings of a tree

A tree is written as a JSON array in many ways: each predicate but a fragment is an object, whose
members may stand under one of several names and in any order, whose tag and operators have several
spellings, and where what goes without saying may be left out. `IsSpelling` relates a predicate to
all the JSON values that are written for it. Each of them is read as that predicate again, in strict
and in lenient work, and nothing is dropped (`readPredicates_of_isSpelling`).

The words of a spelling are the documented names of kinds, operators and connectives, each of which
names nothing else (`Kind.isSpelling_name_iff`, `Operator.isSpelling_iff_of_mem_names`,
`Connective.isSpelling_iff_of_mem_names`).

The object of a predicate is described by its parts (`Json.Part`), and a field of it reads the part
that the object has for it.
-/

/-! ## Words -/

namespace SearchIndex.Text

/-- The text is the word, with its letters in any ASCII case and white space anywhere in it. -/
inductive IsSpelling : (word text : List Char) → Prop
  | nil : IsSpelling [] []
  | blank {c : Char} {word text : List Char} (hc : isBlank c = true) (h : IsSpelling word text) :
      IsSpelling word (c :: text)
  | letter (c : Char) {word text : List Char} (h : IsSpelling word text) :
      IsSpelling (c.toLower :: word) (c :: text)

/-- A text is a spelling of itself in lower case. -/
theorem isSpelling_self (text : List Char) : IsSpelling (text.map Char.toLower) text := by
  induction text with
  | nil => exact .nil
  | cons c rest ih => exact .letter c ih

/-- A text is a spelling of what it is without white space and in lower case. -/
theorem isSpelling_map_toLower (text : List Char) :
    IsSpelling ((text.filter fun c => !isBlank c).map Char.toLower) text := by
  induction text with
  | nil => exact .nil
  | cons c rest ih =>
    rw [List.filter_cons]
    split
    · exact .letter c ih
    · next hc => exact .blank (by simpa using hc) ih

/-- An ASCII character other than white space. -/
def isPlain (c : Char) : Bool :=
  decide (c.toNat < 0x80) && !isBlank c

/-- A capital is no white space. -/
theorem isPlain_of_capital {c : Char} (hlow : 0x41 ≤ c.toNat) (hhigh : c.toNat ≤ 0x5A) :
    isPlain c = true := by
  have hascii : c.toNat < 0x80 := by omega
  have hspace : c ≠ ' ' := by
    rintro rfl
    revert hlow
    decide
  simp only [isPlain, isBlank, hascii, if_true, decide_true, Bool.true_and, Bool.not_eq_true',
    Bool.or_eq_false_iff, beq_eq_false_iff_ne, Bool.and_eq_false_iff]
  refine ⟨hspace, .inr ?_⟩
  rw [Bool.eq_false_iff, Ne, Nat.ble_eq]
  omega

/-- A character whose lower case is in ASCII and no white space is so itself. -/
theorem isPlain_of_toLower {c : Char} (h : isPlain c.toLower = true) : isPlain c = true := by
  rcases toLower_eq_self_or c with hc | ⟨hlow, hhigh⟩
  · rwa [hc] at h
  · exact isPlain_of_capital hlow hhigh

/-- A spelling of a word without white space is the word, in lower case and without white space. -/
theorem IsSpelling.map_toLower {word text : List Char} (h : IsSpelling word text)
    (hword : word.all isPlain = true) :
    (text.filter fun c => !isBlank c).map Char.toLower = word ∧
      ∀ c ∈ text.filter fun c => !isBlank c, c.toNat < 0x80 := by
  induction h with
  | nil => exact ⟨rfl, nofun⟩
  | blank hc _ ih =>
    rw [List.filter_cons_of_neg (by simp [hc])]
    exact ih hword
  | letter c _ ih =>
    simp only [List.all_cons, Bool.and_eq_true] at hword
    obtain ⟨hmap, hascii⟩ := ih hword.2
    have hplain := isPlain_of_toLower hword.1
    simp only [isPlain, Bool.and_eq_true, decide_eq_true_eq] at hplain
    rw [List.filter_cons, if_pos hplain.2, List.map_cons, hmap]
    exact ⟨rfl, List.forall_mem_cons.2 ⟨hplain.1, hascii⟩⟩

/-- A spelling is looked up as its word. -/
theorem lowercase_squeeze_of_isSpelling {word text : String}
    (h : IsSpelling word.toList text.toList) (hword : word.toList.all isPlain = true) :
    lowercase (squeeze text) = word := by
  obtain ⟨hmap, hascii⟩ := h.map_toLower hword
  rw [lowercase, squeeze, String.toList_ofList, lowercaseFrom_of_ascii hascii, hmap,
    String.ofList_toList]

end SearchIndex.Text

namespace SearchIndex.Filter

open Json (Members Part)

/-! ## Spellings of the parts of a predicate -/

/-- The tag names the kind. -/
def Kind.IsSpelling (kind : Kind) (tag : String) : Prop :=
  ∃ word, (word, kind) ∈ Kind.tags ∧ Text.IsSpelling word.toList tag.toList

/-- The text is one of the spellings of the operator, in any case and between white space. -/
def Operator.IsSpelling (op : Operator) (text : String) : Prop :=
  (Text.lowercase (Text.trim text), op) ∈ Operator.spellings

instance (op : Operator) (text : String) : Decidable (op.IsSpelling text) :=
  inferInstanceAs (Decidable (_ ∈ Operator.spellings))

/-- The text is one of the spellings of the connective, in any case and between white space. -/
def Connective.IsSpelling (connective : Connective) (text : String) : Prop :=
  (Text.lowercase (Text.trim text), connective) ∈ Connective.spellings

instance (connective : Connective) (text : String) : Decidable (connective.IsSpelling text) :=
  inferInstanceAs (Decidable (_ ∈ Connective.spellings))

/-- A column, which has two names. -/
def columnPart (column : String) : Part :=
  ⟨"column", ["field"], .string column⟩

/-- The values of a membership test, which have two names. -/
def membersPart (members : List Scalar) : Part :=
  ⟨"values", ["value"], .array (members.map Scalar.toJson)⟩

/-- The operator, which may be left out if it is equality. -/
inductive OperatorParts : Operator → List Part → Prop
  | omitted : OperatorParts (.comparison .eq) []
  | written {op : Operator} {text : String} (h : op.IsSpelling text) :
      OperatorParts op [⟨"operator", [], .string text⟩]

/-- The connective of a group, which has two names and may be left out if it is a conjunction. -/
inductive ConnectiveParts : Connective → List Part → Prop
  | omitted : ConnectiveParts .and []
  | written {connective : Connective} {text : String} (h : connective.IsSpelling text) :
      ConnectiveParts connective [⟨"connective", ["boolean"], .string text⟩]

/-- The negation of a group, which may be left out if there is none. -/
inductive NegationParts : Bool → List Part → Prop
  | omitted : NegationParts false []
  | written (negated : Bool) : NegationParts negated [⟨"not", [], .bool negated⟩]

/-- The kind that is written for a predicate, and the parts beside the tag. Fragments have none, and
groups have parts of their own. -/
inductive LeafParts : Predicate → Kind → List Part → Prop
  | basic (column : String) {op : Operator} (value : Scalar) {operator : List Part}
      (h : OperatorParts op operator) :
      LeafParts (.basic column op value) .basic
        (columnPart column :: ⟨"value", [], value.toJson⟩ :: operator)
  | pattern (column : String) (kind : PatternKind) (value : Scalar) :
      LeafParts (.pattern column kind value) (.pattern kind)
        [columnPart column, ⟨"value", [], value.toJson⟩]
  | isNull (column : String) : LeafParts (.isNull column) .isNull [columnPart column]
  | isNotNull (column : String) : LeafParts (.isNotNull column) .isNotNull [columnPart column]
  | isIn (column : String) (members : List Scalar) :
      LeafParts (.isIn column members) .isIn [columnPart column, membersPart members]
  | isNotIn (column : String) (members : List Scalar) :
      LeafParts (.isNotIn column members) .isNotIn [columnPart column, membersPart members]
  | boolean (column : String) (value : Bool) :
      LeafParts (.boolean column value) .boolean [columnPart column, ⟨"value", [], .bool value⟩]
  | raw (text : String) :
      LeafParts (.raw text) .raw [⟨"rawExpression", ["sql", "expression"], .string text⟩]

/-- The tag of a predicate, which has two names. -/
def tagPart (tag : String) : Part :=
  ⟨"type", ["kind"], .string tag⟩

/-- The parts of a group. -/
def groupParts (tag : String) (entries : List Json.Value) (joined negation : List Part) :
    List Part :=
  tagPart tag :: ⟨"conditions", [], .array entries⟩ :: (joined ++ negation)

/-- The JSON value is one of those that are written for the predicate. -/
inductive IsSpelling : Predicate → Json.Value → Prop
  | fragment (text : String) : IsSpelling (.fragment text) (.string text)
  | leaf {p : Predicate} {kind : Kind} {tag : String} {parts : List Part} {members : Members}
      (htag : kind.IsSpelling tag) (hparts : LeafParts p kind parts)
      (hwrites : members.Writes (tagPart tag :: parts)) : IsSpelling p (.object members)
  | group {connective : Connective} {negated : Bool} {conditions : List Predicate} {tag : String}
      {joined negation : List Part} {entries : List Json.Value} {members : Members}
      (htag : Kind.group.IsSpelling tag) (hjoined : ConnectiveParts connective joined)
      (hnegation : NegationParts negated negation)
      (hconditions : List.Forall₂ IsSpelling conditions entries)
      (hwrites : members.Writes (groupParts tag entries joined negation)) :
      IsSpelling (.group connective negated conditions) (.object members)

/-! ## Reading of a spelling -/

/-! ### Words -/

/-- In a table that has each key once, a key is found with what stands beside it. -/
theorem lookup_eq_some_iff_mem {α : Type} {table : List (String × α)}
    (hunique : ∀ entry ∈ table, table.lookup entry.1 = some entry.2) {key : String} {a : α} :
    table.lookup key = some a ↔ (key, a) ∈ table := by
  refine ⟨fun h => ?_, hunique (key, a)⟩
  obtain ⟨before, after, rfl, -⟩ := List.lookup_eq_some_iff.1 h
  exact List.mem_append_right before List.mem_cons_self

/-- A spelling of a kind is found as the kind. -/
theorem Kind.ofTag?_of_isSpelling {kind : Kind} {tag : String} (h : kind.IsSpelling tag) :
    Kind.ofTag? tag = some kind := by
  obtain ⟨word, hword, htag⟩ := h
  have hplain : ∀ entry ∈ Kind.tags, entry.1.toList.all Text.isPlain = true := by decide
  have hunique : ∀ entry ∈ Kind.tags, Kind.tags.lookup entry.1 = some entry.2 := by decide
  rw [ofTag?, Text.lowercase_squeeze_of_isSpelling htag (hplain _ hword)]
  exact hunique _ hword

/-- The spellings of an operator are all that is accepted for it. -/
theorem Operator.parse_eq_ok_iff {op : Operator} {text : String} :
    Operator.parse text = .ok op ↔ op.IsSpelling text := by
  rw [Operator.IsSpelling, ← lookup_eq_some_iff_mem (by decide), Operator.parse]
  cases Operator.spellings.lookup (Text.lowercase (Text.trim text)) with
  | none => exact ⟨nofun, nofun⟩
  | some found => simp only [Except.ok.injEq, Option.some.injEq]

/-- The spellings of a connective are all that is accepted for it. -/
theorem Connective.parse_eq_ok_iff {connective : Connective} {text : String} :
    Connective.parse text = .ok connective ↔ connective.IsSpelling text := by
  rw [Connective.IsSpelling, ← lookup_eq_some_iff_mem (by decide), Connective.parse]
  cases Connective.spellings.lookup (Text.lowercase (Text.trim text)) with
  | none => exact ⟨nofun, nofun⟩
  | some found => simp only [Except.ok.injEq, Option.some.injEq]

/-! ### Names -/

/-- The name of a kind in the documents. -/
def Kind.name : Kind → String
  | .basic => "Basic"
  | .pattern kind => kind.name
  | .isNull => "Null"
  | .isNotNull => "NotNull"
  | .isIn => "In"
  | .isNotIn => "NotIn"
  | .boolean => "Boolean"
  | .raw => "Raw"
  | .group => "Group"

/-- The names of an operator: its symbols, its word in the grammar, and short forms of patterns. -/
def Operator.names : Operator → List String
  | .comparison .eq => ["=", "==", "eq"]
  | .comparison .ne => ["!=", "<>", "ne"]
  | .comparison .gt => [">", "gt"]
  | .comparison .ge => [">=", "ge"]
  | .comparison .lt => ["<", "lt"]
  | .comparison .le => ["<=", "le"]
  | .pattern .like => ["like"]
  | .pattern .startsWith => ["startswith", "starts", "starts_with"]
  | .pattern .endsWith => ["endswith", "ends", "ends_with"]
  | .pattern .contains => ["contains"]

/-- The names of a connective: its word in the grammar and its symbol. -/
def Connective.names : Connective → List String
  | .and => ["and", "&&"]
  | .or => ["or", "||"]

/-- The spellings of a kind are its name in any case, with white space anywhere in it. -/
theorem Kind.isSpelling_iff {kind : Kind} {tag : String} :
    kind.IsSpelling tag ↔ Text.IsSpelling (kind.name.toList.map Char.toLower) tag.toList := by
  have hname : ∀ entry ∈ Kind.tags, entry.1.toList = entry.2.name.toList.map Char.toLower := by
    decide
  constructor
  · rintro ⟨word, hword, htag⟩
    rwa [hname _ hword] at htag
  · intro htag
    refine ⟨String.ofList (kind.name.toList.map Char.toLower), ?_, by rwa [String.toList_ofList]⟩
    rcases kind with _ | ⟨_ | _⟩ | _ <;> decide

/-- The name of a kind is a spelling of it, and of no other kind. -/
theorem Kind.isSpelling_name_iff {kind other : Kind} :
    other.IsSpelling kind.name ↔ other = kind := by
  have hself : kind.IsSpelling kind.name := Kind.isSpelling_iff.2 (Text.isSpelling_self _)
  refine ⟨fun h => ?_, by rintro rfl; exact hself⟩
  exact Option.some.inj ((Kind.ofTag?_of_isSpelling h).symm.trans (Kind.ofTag?_of_isSpelling hself))

/-- The spellings of an operator are its names in any case, with white space around them. -/
theorem Operator.isSpelling_iff {op : Operator} {text : String} :
    op.IsSpelling text ↔ Text.lowercase (Text.trim text) ∈ op.names := by
  rw [Operator.IsSpelling]
  rcases op with ⟨_ | _⟩ | ⟨_ | _⟩ <;> simp [Operator.spellings, Operator.names]

/-- Each name of an operator is a spelling of it, and of no other operator. -/
theorem Operator.isSpelling_iff_of_mem_names {op other : Operator} {name : String}
    (h : name ∈ op.names) : other.IsSpelling name ↔ other = op := by
  have hlower : ∀ name ∈ op.names, Text.lowercase (Text.trim name) ∈ op.names := by
    rcases op with ⟨_ | _⟩ | ⟨_ | _⟩ <;> decide
  have hself : op.IsSpelling name := Operator.isSpelling_iff.2 (hlower name h)
  refine ⟨fun hother => ?_, by rintro rfl; exact hself⟩
  exact Except.ok.inj ((Operator.parse_eq_ok_iff.2 hother).symm.trans
    (Operator.parse_eq_ok_iff.2 hself))

/-- What is shown of an operator is one of its names. -/
theorem Operator.display_mem_names (op : Operator) : op.display ∈ op.names := by
  rcases op with ⟨_ | _⟩ | ⟨_ | _⟩ <;> decide

/-- The spellings of a connective are its names in any case, with white space around them. -/
theorem Connective.isSpelling_iff {connective : Connective} {text : String} :
    connective.IsSpelling text ↔ Text.lowercase (Text.trim text) ∈ connective.names := by
  rw [Connective.IsSpelling]
  cases connective <;> simp [Connective.spellings, Connective.names]

/-- Each name of a connective is a spelling of it, and not of the other connective. -/
theorem Connective.isSpelling_iff_of_mem_names {connective other : Connective} {name : String}
    (h : name ∈ connective.names) : other.IsSpelling name ↔ other = connective := by
  have hlower : ∀ name ∈ connective.names,
      Text.lowercase (Text.trim name) ∈ connective.names := by
    cases connective <;> decide
  have hself : connective.IsSpelling name := Connective.isSpelling_iff.2 (hlower name h)
  refine ⟨fun hother => ?_, by rintro rfl; exact hself⟩
  exact Except.ok.inj ((Connective.parse_eq_ok_iff.2 hother).symm.trans
    (Connective.parse_eq_ok_iff.2 hself))

/-- The word of a connective is one of its names. -/
theorem Connective.word_mem_names (connective : Connective) :
    connective.word ∈ connective.names := by
  cases connective <;> decide

/-! ### Fields -/

section Fields

variable {path : Path} {members : Members}

/-- An object with a tag under either name is tagged. -/
theorem isTagged_of_has {tag : String} (h : members.Has ["type", "kind"] (.string tag)) :
    isTagged members = true := by
  rw [isTagged, Members.getEither?_of_has h]
  rfl

/-- Its kind is that of which the tag is a spelling. -/
theorem readKind_of_has {kind : Kind} {tag : String}
    (h : members.Has ["type", "kind"] (.string tag)) (htag : kind.IsSpelling tag) :
    readKind path members = .ok kind := by
  simp only [readKind, Members.getEither?_of_has h, Kind.ofTag?_of_isSpelling htag]

/-- A column under either name is read, unless it is blank. -/
theorem readColumn_of_has {column : String}
    (h : members.Has ["column", "field"] (.string column))
    (hcolumn : Text.isBlankText column = false) : readColumn path members = .ok column := by
  simp only [readColumn, Members.getEither?_of_has h, hcolumn, Bool.false_eq_true, if_false]

/-- No operator is read where none is written. -/
theorem readOperator_of_lacks (h : members.Lacks ["operator"]) :
    readOperator path members = .ok none := by
  simp only [readOperator, Members.get?_eq_none_of_lacks h]

/-- An operator is read from any of its spellings. -/
theorem readOperator_of_has {op : Operator} {text : String}
    (h : members.Has ["operator"] (.string text)) (hop : op.IsSpelling text) :
    readOperator path members = .ok (some op) := by
  simp only [readOperator, Members.get?_of_has h, Operator.parse_eq_ok_iff.2 hop]

/-- A scalar is read from its JSON value. -/
theorem readScalar_toJson (value : Scalar) : readScalar path value.toJson = .ok value := by
  rw [readScalar, Scalar.ofJson?_toJson]

theorem readValueField_of_has {value : Scalar} (h : members.Has ["value"] value.toJson) :
    readValueField path members = .ok value := by
  simp only [readValueField, Members.get?_of_has h, readScalar_toJson]

/-- A list without nulls is read from its JSON values. -/
theorem readMemberList_toJson {list : List Scalar} (h : .null ∉ list) :
    readMemberList path (list.map Scalar.toJson) = .ok list := by
  induction list with
  | nil => rfl
  | cons value rest ih =>
    rw [List.mem_cons, not_or] at h
    have hread : readMemberList path ((value :: rest).map Scalar.toJson) = (do
        let s ← readScalar path value.toJson
        let ss ← readMemberList path (rest.map Scalar.toJson)
        .ok (s :: ss)) := by
      cases value with
      | null => exact absurd rfl h.1
      | _ => rfl
    rw [hread, readScalar_toJson, ih h.2]
    rfl

theorem readMembersField_of_has {list : List Scalar}
    (h : members.Has ["values", "value"] (.array (list.map Scalar.toJson)))
    (hlist : .null ∉ list) : readMembersField path members = .ok list := by
  simp only [readMembersField, Members.getEither?_of_has h, readMemberList_toJson hlist]

/-- A truth value is read. -/
theorem readBoolean_of_has {value : Bool} (h : members.Has ["value"] (.bool value)) :
    readBoolean path members = .ok value := by
  simp only [readBoolean, Members.get?_of_has h]

/-- The text of a raw predicate is read under any of its three names. -/
theorem readRawText_of_has {text : String}
    (h : members.Has ["rawExpression", "sql", "expression"] (.string text)) :
    readRawText path members = .ok text := by
  have hfound : ((members.get? "rawExpression").orElse fun _ =>
      members.getEither? "sql" "expression") = some (.string text) := by
    rcases h.cons with hfirst | ⟨hnone, hrest⟩
    · rw [hfirst]
      rfl
    · rw [hnone]
      exact Members.getEither?_of_has hrest
  simp only [readRawText, hfound]

/-- The conditions of a group are read. -/
theorem readConditions_of_has {entries : List Json.Value}
    (h : members.Has ["conditions"] (.array entries)) :
    readConditions path members = .ok entries := by
  simp only [readConditions, Members.get?_of_has h]

end Fields

/-! ### Predicates that are no groups -/

section Leaves

variable {path : Path} {members : Members} {p : Predicate} {kind : Kind} {tag : String}
  {parts : List Part}

/-- Only groups are tagged as groups. -/
theorem LeafParts.ne_group (h : LeafParts p kind parts) : kind ≠ .group := by
  cases h <;> exact nofun

/-- The parts of a predicate have no name in common. -/
theorem LeafParts.separate (h : LeafParts p kind parts) :
    Members.Separate (tagPart tag :: parts) := by
  cases h with
  | basic column value h => cases h <;> simp [Members.Separate, Part.names, tagPart, columnPart]
  | _ => simp [Members.Separate, Part.names, tagPart, columnPart, membersPart]

/-- The parts of a predicate are read as its fields. -/
theorem readLeaf_of_leafParts (hparts : LeafParts p kind parts)
    (hwrites : members.Writes (tagPart tag :: parts))
    (hcolumn : ∀ column ∈ p.column?, Text.isBlankText column = false)
    (hlist : .null ∉ p.members) : readLeaf path members kind = .ok p := by
  have hhas := hwrites.has hparts.separate
  have hread {column : String} (hmem : columnPart column ∈ parts)
      (hblank : p.column? = some column) : readColumn path members = .ok column :=
    readColumn_of_has (hhas _ (List.mem_cons_of_mem _ hmem)) (hcolumn column hblank)
  cases hparts with
  | basic column value hoperator =>
    have hvalue := @readValueField_of_has path members value (hhas _ (.tail _ (.tail _ (.head _))))
    rw [readLeaf, hread (.head _) rfl, hvalue]
    cases hoperator with
    | omitted =>
      rw [readOperator_of_lacks (hwrites.lacks (by simp [Part.names, tagPart, columnPart]))]
      rfl
    | written h =>
      rw [readOperator_of_has (hhas _ (.tail _ (.tail _ (.tail _ (.head _))))) h]
      rfl
  | pattern column kind value =>
    have hvalue := @readValueField_of_has path members value (hhas _ (.tail _ (.tail _ (.head _))))
    -- No part names an operator, so the kind of the pattern decides.
    rw [readLeaf, hread (.head _) rfl, hvalue,
      readOperator_of_lacks (hwrites.lacks (by simp [Part.names, tagPart, columnPart]))]
    rfl
  | isNull column => rw [readLeaf, hread (.head _) rfl, Except.map]
  | isNotNull column => rw [readLeaf, hread (.head _) rfl, Except.map]
  | isIn column list =>
    rw [readLeaf, hread (.head _) rfl,
      readMembersField_of_has (hhas _ (.tail _ (.tail _ (.head _)))) hlist]
    rfl
  | isNotIn column list =>
    rw [readLeaf, hread (.head _) rfl,
      readMembersField_of_has (hhas _ (.tail _ (.tail _ (.head _)))) hlist]
    rfl
  | boolean column value =>
    rw [readLeaf, hread (.head _) rfl, readBoolean_of_has (hhas _ (.tail _ (.tail _ (.head _))))]
    rfl
  | raw text => rw [readLeaf, readRawText_of_has (hhas _ (.tail _ (.head _))), Except.map]

end Leaves

/-! ### Groups -/

section Groups

variable {path : Path} {members : Members} {tag : String} {connective : Connective} {negated : Bool}
  {joined negation : List Part} {entries : List Json.Value}

theorem separate_groupParts (hjoined : ConnectiveParts connective joined)
    (hnegation : NegationParts negated negation) :
    Members.Separate (groupParts tag entries joined negation) := by
  cases hjoined <;> cases hnegation <;> simp [Members.Separate, groupParts, Part.names, tagPart]

/-- The parts of a group are read as its connective, its negation and its conditions. -/
theorem readGroupFields_of_writes (hjoined : ConnectiveParts connective joined)
    (hnegation : NegationParts negated negation)
    (hwrites : members.Writes (groupParts tag entries joined negation)) :
    readGroupFields path members = .ok (connective, negated, entries) := by
  have hhas := hwrites.has (separate_groupParts hjoined hnegation)
  have hconnective : readConnective path members = .ok connective := by
    cases hjoined with
    | omitted =>
      have hnone : members.getEither? "connective" "boolean" = none := by
        refine Members.getEither?_eq_none_of_lacks (hwrites.lacks ?_)
        cases hnegation <;> simp [groupParts, Part.names, tagPart]
      simp only [readConnective, hnone]
    | written h =>
      have hsome := Members.getEither?_of_has (hhas _ (.tail _ (.tail _ (.head _))))
      simp only [readConnective, hsome, Connective.parse_eq_ok_iff.2 h]
  have hnegated : readNegation path members = .ok negated := by
    cases hnegation with
    | omitted =>
      have hnone : members.get? "not" = none := by
        refine Members.get?_eq_none_of_lacks (hwrites.lacks ?_)
        cases hjoined <;> simp [groupParts, Part.names, tagPart]
      simp only [readNegation, hnone]
    | written =>
      have hsome := Members.get?_of_has
        (hhas _ (.tail _ (.tail _ (List.mem_append_right joined (.head _)))))
      simp only [readNegation, hsome]
  rw [readGroupFields, hconnective, hnegated, readConditions_of_has (hhas _ (.tail _ (.head _)))]
  rfl

end Groups

/-! ### Entries -/

open Predicate (nodesOf FitsIn LiesAt)

/-- No column among the predicates is blank. -/
def NamesColumns (ps : List Predicate) : Prop :=
  ∀ p ∈ ps, ∀ column ∈ p.column?, Text.isBlankText column = false

section Entries

variable {options : Options} {room : Nat}

/-- Spellings each of which is read as its predicate are read as the predicates, one for one. -/
theorem map_flatten_each_guardedEntry {place : Nat → Path} {ps : List Predicate}
    {entries : List Json.Value} (h : List.Forall₂ IsSpelling ps entries)
    (hread : ∀ p ∈ ps, ∀ entry path, IsSpelling p entry →
      readEntry options room path entry = .ok [p]) (start : Nat) :
    (Report.each (fun i entry => guardedEntry options room (place i) entry) start entries).map
      List.flatten = .ok ps := by
  induction h generalizing start with
  | nil => rfl
  | cons hspelling _ ih =>
    obtain ⟨hfirst, hrest⟩ := List.forall_mem_cons.1 hread
    rw [Report.map_flatten_each_cons, guardedEntry_of_ok (hfirst _ (place start) hspelling),
      Report.ok_andThen, ih hrest (start + 1)]
    rfl

/-- A spelling of a predicate is read as the predicate, with nothing dropped. -/
theorem readEntry_of_isSpelling {path : Path} {p : Predicate} {entry : Json.Value}
    (h : IsSpelling p entry) (hfits : FitsIn room p) (hcolumns : NamesColumns p.nodes) :
    readEntry options room path entry = .ok [p] := by
  induction room generalizing path p entry with
  | zero => exact hfits.elim
  | succ room ih =>
    cases h with
    | fragment text => rfl
    | leaf htag hparts hwrites =>
      have hkind := hwrites.has hparts.separate _ List.mem_cons_self
      rw [readEntry_leaf (isTagged_of_has hkind) (readKind_of_has hkind htag) hparts.ne_group,
        readLeaf_of_leafParts hparts hwrites (hcolumns p p.self_mem_nodes)
          (Predicate.not_mem_members_of_fitsIn hfits)]
      rfl
    | @group connective negated conditions _ _ _ _ _ htag hjoined hnegation hconditions hwrites =>
      have hkind := hwrites.has (separate_groupParts hjoined hnegation) _ List.mem_cons_self
      have hread (q : Predicate) (hq : q ∈ conditions) (entry : Json.Value) (path : Path)
          (hspelling : IsSpelling q entry) : readEntry options room path entry = .ok [q] :=
        ih hspelling (hfits q hq) fun n hn =>
          hcolumns n (Predicate.nodes_subset_nodes_group hq connective negated hn)
      rw [readEntry_group (isTagged_of_has hkind) (readKind_of_has hkind htag)
        (readGroupFields_of_writes hjoined hnegation hwrites),
        map_flatten_each_guardedEntry hconditions hread]
      rfl

end Entries

/-! ## Every tree has a spelling -/

/-- A text is a spelling of the kind that it is looked up as. -/
theorem Kind.isSpelling_of_mem_tags {kind : Kind} {tag : String}
    (h : (String.ofList ((tag.toList.filter fun c => !Text.isBlank c).map Char.toLower), kind) ∈
      Kind.tags) : kind.IsSpelling tag := by
  refine ⟨_, h, ?_⟩
  rw [String.toList_ofList]
  exact Text.isSpelling_map_toLower tag.toList

/-- A predicate is tagged with the name that messages give its kind. -/
theorem LeafParts.name_eq_kindName {p : Predicate} {kind : Kind} {parts : List Part}
    (h : LeafParts p kind parts) : kind.name = p.kindName := by
  cases h <;> rfl

/-- A predicate with parts is spelled under its own name. -/
theorem LeafParts.exists_isSpelling {p : Predicate} {kind : Kind} {parts : List Part}
    (h : LeafParts p kind parts) : ∃ entry, IsSpelling p entry := by
  have htag : kind.IsSpelling p.kindName := by
    rw [← h.name_eq_kindName]
    exact Kind.isSpelling_name_iff.2 rfl
  obtain ⟨members, hwrites⟩ := Members.exists_writes (tagPart p.kindName :: parts)
  exact ⟨.object members, .leaf htag h hwrites⟩

/-- Predicates each of which has a spelling have one together. -/
theorem exists_forall₂_isSpelling {ps : List Predicate}
    (h : ∀ p ∈ ps, ∃ entry, IsSpelling p entry) :
    ∃ entries, List.Forall₂ IsSpelling ps entries := by
  induction ps with
  | nil => exact ⟨[], .nil⟩
  | cons p rest ih =>
    obtain ⟨⟨entry, hentry⟩, hrest⟩ := List.forall_mem_cons.1 h
    obtain ⟨entries, hentries⟩ := ih hrest
    exact ⟨entry :: entries, .cons hentry hentries⟩

/-- Every predicate has a spelling. -/
theorem exists_isSpelling (p : Predicate) : ∃ entry, IsSpelling p entry := by
  induction p using Predicate.induction with
  | leaf p hleaf =>
    cases p with
    | basic column op value =>
      have hop := (Operator.isSpelling_iff_of_mem_names op.display_mem_names).2 rfl
      exact (LeafParts.basic column value (.written hop)).exists_isSpelling
    | pattern column kind value => exact (LeafParts.pattern column kind value).exists_isSpelling
    | isNull column => exact (LeafParts.isNull column).exists_isSpelling
    | isNotNull column => exact (LeafParts.isNotNull column).exists_isSpelling
    | isIn column members => exact (LeafParts.isIn column members).exists_isSpelling
    | isNotIn column members => exact (LeafParts.isNotIn column members).exists_isSpelling
    | boolean column value => exact (LeafParts.boolean column value).exists_isSpelling
    | raw text => exact (LeafParts.raw text).exists_isSpelling
    | fragment text => exact ⟨_, .fragment text⟩
    | group connective negated conditions => cases hleaf
  | group connective negated conditions ih =>
    obtain ⟨entries, hentries⟩ := exists_forall₂_isSpelling ih
    have htag : Kind.group.IsSpelling Kind.group.name := Kind.isSpelling_name_iff.2 rfl
    have hjoined := (Connective.isSpelling_iff_of_mem_names connective.word_mem_names).2 rfl
    obtain ⟨members, hwrites⟩ := Members.exists_writes (groupParts _ entries _ _)
    exact ⟨.object members, .group htag (.written hjoined) (.written negated) hentries hwrites⟩

/-! ## Reading of all the spellings -/

/-- Trees whose columns are not blank and whose lists have no null can be written as JSON. Whichever
way they are written, they are read again, in strict and in lenient work and with nothing dropped,
where the options allow their depth. -/
theorem readPredicates_of_isSpelling {ps : List Predicate} (hcolumns : NamesColumns (nodesOf ps))
    (hlists : ∀ p ∈ nodesOf ps, .null ∉ p.members) :
    (∃ entries, List.Forall₂ IsSpelling ps entries) ∧
      ∀ entries, List.Forall₂ IsSpelling ps entries → ∀ options : Options,
        (∀ depth p, LiesAt ps depth p → depth ≤ options.maxDepth) →
          readPredicates options (.array entries) = .ok ps := by
  refine ⟨exists_forall₂_isSpelling fun p _ => exists_isSpelling p,
    fun entries hentries options hdepth => ?_⟩
  have hfits : ∀ p ∈ ps, FitsIn options.maxDepth p :=
    Predicate.forall_fitsIn_iff.2 fun depth p h => ⟨hdepth depth p h, hlists p h.mem_nodesOf⟩
  refine map_flatten_each_guardedEntry hentries (fun p hp entry path hspelling => ?_) 0
  exact readEntry_of_isSpelling hspelling (hfits p hp) fun q hq =>
    hcolumns q (Predicate.nodes_subset_nodesOf hp hq)

/-- A group under `kind`, with blanks in its tag and its members in reverse, and a test like it. -/
theorem readPredicates_of_isSpelling_group :
    readPredicates ⟨2, false⟩ (.array [.object [("boolean", .string " || "),
      ("conditions", .array [.string "a eq 1", .object [("value", .array [.string "x"]),
        ("field", .string "b"), ("type", .string "not IN")]]), ("kind", .string " gRoup")]]) =
      .ok [.group .or false [.fragment "a eq 1", .isNotIn "b" [.string "x"]]] := by
  have hmembership : IsSpelling (.isNotIn "b" [.string "x"]) (.object [
      ("value", .array [.string "x"]), ("field", .string "b"), ("type", .string "not IN")]) := by
    have htag : Kind.isNotIn.IsSpelling "not IN" := Kind.isSpelling_of_mem_tags (by decide)
    refine .leaf htag (.isNotIn "b" _) ⟨_, (List.reverse_perm _).symm, ?_⟩
    exact .cons ⟨by decide, rfl⟩ (.cons ⟨by decide, rfl⟩ (.cons ⟨by decide, rfl⟩ .nil))
  have htag : Kind.group.IsSpelling " gRoup" := Kind.isSpelling_of_mem_tags (by decide)
  have hconnective : Connective.or.IsSpelling " || " := by decide
  refine (readPredicates_of_isSpelling ?_ ?_).2 _ (.cons ?_ .nil) ⟨2, false⟩ ?_
  · have hcolumn : Text.isBlankText "b" = false := by decide
    simp [NamesColumns, nodesOf, Predicate.nodes, Predicate.column?, hcolumn]
  · simp [nodesOf, Predicate.nodes, Predicate.members]
  · refine .group htag (.written hconnective) .omitted
      (.cons (.fragment _) (.cons hmembership .nil)) ⟨_, (List.reverse_perm _).symm, ?_⟩
    exact .cons ⟨by decide, rfl⟩ (.cons ⟨by decide, rfl⟩ (.cons ⟨by decide, rfl⟩ .nil))
  · have hfits : ∀ p ∈ [Predicate.group .or false [.fragment "a eq 1", .isNotIn "b" [.string "x"]]],
        FitsIn 2 p := by
      simp [FitsIn, Predicate.members, Scalar.isNull]
    exact fun depth p h => (Predicate.forall_fitsIn_iff.1 hfits depth p h).1

end SearchIndex.Filter
