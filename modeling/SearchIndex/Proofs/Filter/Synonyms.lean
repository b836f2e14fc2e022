import SearchIndex.Proofs.Filter.Pruning

/-!
# Predicates that say the same

Some predicates can be put in several ways: a pattern is a comparison with the operator of the
pattern, a truth value is one that a column equals, and whatever is compared with null, or matched
against it, is a test for null. The compiler has a clause of its own for each of them, and the
clauses are the same (`leafClause_of_synonym`). So predicates may be put in another way anywhere in
a tree (`compile_of_reworded`). The same goes for an object of a pattern that names an operator of
its own, which may be written as a comparison anywhere in a filter (`compile_reworded`).
-/

namespace SearchIndex.Filter

open Json (Members)
open Report (Rel)

/-! ## Reports of two runs -/

namespace Report

variable {α β γ : Type} {R : α → β → Prop} {r : Report α} {s : Report β}

theorem rel_self {R : α → α → Prop} (hR : ∀ a, R a a) (r : Report α) : Rel R r r := by
  obtain ⟨dropped, result⟩ := r
  cases result with
  | error e => exact .error dropped e
  | ok a => exact .ok dropped (hR a)

/-- Work that does not tell related results apart. -/
theorem Rel.andThen_eq {next : α → Report γ} {next' : β → Report γ} (h : Rel R r s)
    (hnext : ∀ a b, R a b → next a = next' b) : r.andThen next = s.andThen next' := by
  cases h with
  | error dropped e => rfl
  | ok dropped h => simp only [Report.andThen, hnext _ _ h]

/-- Working through related lists, with the same report for each two elements. -/
theorem each_congr {A : α → β → Prop} {f : Nat → α → Report γ} {g : Nat → β → Report γ}
    {l : List α} {m : List β} (hlm : List.Forall₂ A l m)
    (h : ∀ i a b, A a b → f i a = g i b) (start : Nat) : each f start l = each g start m := by
  induction hlm generalizing start with
  | nil => rfl
  | cons hab _ ih => rw [each_cons, each_cons, h start _ _ hab, ih (start + 1)]

end Report

/-! ## Trees -/

namespace Predicate

/-- The two predicates are put in different ways and say the same. -/
inductive Synonym : Predicate → Predicate → Prop
  | pattern (column : String) (kind : PatternKind) (value : Scalar) :
      Synonym (.pattern column kind value) (.basic column (.pattern kind) value)
  | boolean (column : String) (value : Bool) :
      Synonym (.boolean column value) (.basic column (.comparison .eq) (.bool value))
  | nullOperator (column : String) (operator : Operator) :
      Synonym (.isNull column) (.basic column operator .null)
  | nullPattern (column : String) (kind : PatternKind) :
      Synonym (.isNull column) (.pattern column kind .null)

/-- Any of the nodes of the one tree are put in another way in the other. -/
inductive Reworded : Predicate → Predicate → Prop
  | same (p : Predicate) : Reworded p p
  | node {p q : Predicate} (h : Synonym p q) : Reworded p q
  | group (connective : Connective) (negated : Bool) {conditions conditions' : List Predicate}
      (h : List.Forall₂ Reworded conditions conditions') :
      Reworded (.group connective negated conditions) (.group connective negated conditions')

end Predicate

open Predicate (Synonym Reworded)

section Compiling

variable {options : Options} {p q : Predicate}

/-- Synonyms are no groups. -/
theorem isGroup_of_synonym (h : Synonym p q) : p.isGroup = false ∧ q.isGroup = false := by
  cases h <;> exact ⟨rfl, rfl⟩

/-- The clauses of predicates that say the same. None of them has a defect. -/
theorem leafClause_of_synonym (h : Synonym p q) :
    ∃ text, leafClause p = .ok text ∧ leafClause q = .ok text := by
  cases h with
  | pattern column kind value =>
    by_cases hnull : value = .null
    · subst hnull
      exact ⟨nullClause column, rfl, rfl⟩
    · refine ⟨patternClause column kind value, ?_, ?_⟩
      · rw [leafClause]
        exact hnull
      · rw [leafClause, comparisonClause_pattern hnull]
  | boolean column value =>
    have hword : " eq " = " " ++ Comparison.eq.word ++ " " := rfl
    refine ⟨column ++ " eq " ++ (Scalar.bool value).text, ?_, ?_⟩
    · cases value <;> rfl
    · rw [hword, ← String.append_assoc, ← String.append_assoc]
      rfl
  | nullOperator column operator => exact ⟨nullClause column, rfl, by cases operator <;> rfl⟩
  | nullPattern column kind => exact ⟨nullClause column, rfl, rfl⟩

/-- A predicate without a defect is not dropped, so its kind does not show. -/
theorem guardedClause_of_ok {text : String} (hleaf : p.isGroup = false)
    (h : leafClause p = .ok text) (room : Nat) (path : Path) :
    guardedClause options (room + 1) path p = .ok text := by
  rw [guardedClause, clause_of_leaf hleaf, h]
  rfl

/-- What is too deep is not dropped either. -/
theorem guardedClause_zero (path : Path) (p : Predicate) :
    guardedClause options 0 path p = .fail (.tooDeep options.maxDepth) := by
  simp only [guardedClause, clause, Report.orDrop, Report.fail, Error.isLocal, Bool.and_false,
    Bool.false_eq_true, if_false]

/-- A tree and the same tree put in another way, at the same place. -/
theorem guardedClause_of_reworded (h : Reworded p q) (room : Nat) (path : Path) :
    guardedClause options room path p = guardedClause options room path q := by
  induction room generalizing path p q with
  | zero => rw [guardedClause_zero, guardedClause_zero]
  | succ room ih =>
    cases h with
    | same => rfl
    | node h =>
      obtain ⟨hp, hq⟩ := isGroup_of_synonym h
      obtain ⟨text, hptext, hqtext⟩ := leafClause_of_synonym h
      rw [guardedClause_of_ok hp hptext, guardedClause_of_ok hq hqtext]
    | group connective negated h =>
      rw [guardedClause_group, guardedClause_group,
        Report.each_congr h fun i c d hcd => ih hcd (path.push (.condition i))]

/-- Reworded predicates compile to the same filter, with the same drops. -/
theorem compile_of_reworded {ps qs : List Predicate} (h : List.Forall₂ Reworded ps qs) :
    compile options ps = compile options qs := by
  rw [compile, compile, Report.each_congr h fun i p q hpq =>
    guardedClause_of_reworded hpq options.maxDepth (Path.root.push (.entry i))]

end Compiling

/-! ## Objects -/

/-- The first object is a pattern with an operator of its own, and the second one a comparison of
the same column with the same scalar by that operator. -/
structure NamesOperator (pattern basic : Members) : Prop where
  kind : ∃ kind, kind? pattern = some (.pattern kind)
  isBasic : kind? basic = some .basic
  column : pattern.getEither? "column" "field" = basic.getEither? "column" "field"
  operator : pattern.get? "operator" = basic.get? "operator"
  hasOperator : ∃ operator, basic.get? "operator" = some operator ∧ operator ≠ .null
  value : pattern.get? "value" = basic.get? "value"
  hasScalar : ∃ s : Scalar, basic.get? "value" = some s.toJson

/-- Any of the patterns of the one filter that name an operator, at any depth, are comparisons in
the other. -/
inductive Recast : Json.Value → Json.Value → Prop
  | same (value : Json.Value) : Recast value value
  | node {pattern basic : Members} (h : NamesOperator pattern basic) :
      Recast (.object pattern) (.object basic)
  | list {entries entries' : List Json.Value} (h : List.Forall₂ Recast entries entries') :
      Recast (.array entries) (.array entries')
  | group {members : Members} {entries entries' : List Json.Value}
      (hkind : kind? members = some .group) (hentries : conditions? members = some entries)
      (h : List.Forall₂ Recast entries entries') :
      Recast (.object members) (.object (members.set "conditions" (.array entries')))

section Reading

variable {options : Options} {room : Nat} {path : Path}

/-- Every list is a rewording of itself. -/
theorem forall₂_reworded_self (ps : List Predicate) : List.Forall₂ Reworded ps ps :=
  List.forall₂_same.2 fun p _ => .same p

/-- An operator that is there is read as one, or is the error. -/
theorem readOperator_ne_none {members : Members} (path : Path)
    (h : ∃ operator, members.get? "operator" = some operator ∧ operator ≠ .null) :
    readOperator path members ≠ .ok none := by
  obtain ⟨operator, hfound, hnull⟩ := h
  intro hread
  simp only [readOperator, hfound] at hread
  cases operator with
  | null => exact hnull rfl
  | string s =>
    dsimp only at hread
    cases hparse : Operator.parse s with
    | ok op =>
      rw [hparse] at hread
      cases hread
    | error key =>
      rw [hparse] at hread
      cases hread
  | _ => cases hread

/-- The tag of a pattern does not show if there is an operator. -/
theorem reworded_patternWith (column : String) (kind : PatternKind) (value : Scalar)
    (operator : Operator) :
    Reworded (patternWith column kind value (some operator)) (.basic column operator value) := by
  cases operator with
  | comparison c => exact .same _
  | pattern other => exact .node (.pattern column other value)

/-- The fields of a pattern and of the comparison are read in different orders, with the same
result: of a scalar there is no error that could come first. -/
theorem rel_readLeaf {pattern basic : Members} (h : NamesOperator pattern basic)
    (kind : PatternKind) :
    Rel Reworded (Report.ofField (readLeaf path pattern (.pattern kind)))
      (Report.ofField (readLeaf path basic .basic)) := by
  have hcolumn : readColumn path pattern = readColumn path basic := by
    simp only [readColumn, h.column]
  have hoperator : readOperator path pattern = readOperator path basic := by
    simp only [readOperator, h.operator]
  obtain ⟨s, hs⟩ := h.hasScalar
  have hvalue : readValueField path basic = .ok s := by
    simp only [readValueField, hs, readScalar, Scalar.ofJson?_toJson]
  have hvalue' : readValueField path pattern = .ok s := by
    simp only [readValueField, h.value, hs, readScalar, Scalar.ofJson?_toJson]
  have hsome := readOperator_ne_none path h.hasOperator
  rw [readLeaf, readLeaf, hcolumn, hoperator, hvalue, hvalue']
  cases readColumn path basic with
  | error e => exact .error [] e
  | ok column =>
    cases hread : readOperator path basic with
    | error e => exact .error [] e
    | ok found =>
      cases found with
      | none => exact absurd hread hsome
      | some operator => exact .ok [] (reworded_patternWith column kind s operator)

/-- The predicates of an entry and of the entry with comparisons for patterns. -/
theorem rel_readEntry {v w : Json.Value} (h : Recast v w) :
    Rel (List.Forall₂ Reworded) (readEntry options room path v)
      (readEntry options room path w) := by
  induction room generalizing path v w with
  | zero => exact .error [] _
  | succ room ih =>
    cases h with
    | same => exact Report.rel_self forall₂_reworded_self _
    | list => exact .error [] _
    | @node pattern basic hnode =>
      obtain ⟨kind, hkind⟩ := hnode.kind
      rw [readEntry_leaf (isTagged_of_kind? pattern hkind) (readKind_eq hkind path) nofun,
        readEntry_leaf (isTagged_of_kind? basic hnode.isBasic) (readKind_eq hnode.isBasic path)
          nofun]
      exact (rel_readLeaf hnode kind).map fun p q hpq => .cons hpq .nil
    | @group members entries entries' hkind hentries hentry =>
      have htag := isTagged_of_kind? members hkind
      obtain ⟨htag', hkind'⟩ := tag_set members (.array entries')
      have hfields' := readGroupFields_set members hentries entries' path
      -- The fields beside the conditions are untouched, so both groups fail or neither does.
      cases hfields : readGroupFields path members with
      | error e =>
        rw [hfields] at hfields'
        rw [readEntry_group_error htag (readKind_eq hkind path) hfields,
          readEntry_group_error (htag'.trans htag) (readKind_eq (hkind'.trans hkind) path) hfields']
        exact .error [] e
      | ok fields =>
        obtain ⟨connective, negated, found⟩ := fields
        obtain rfl : found = entries := entries_of_readGroupFields members hentries hfields
        rw [hfields] at hfields'
        rw [readEntry_group htag (readKind_eq hkind path) hfields,
          readEntry_group (htag'.trans htag) (readKind_eq (hkind'.trans hkind) path) hfields']
        refine Rel.map (S := List.Forall₂ Reworded) ?_ fun ps qs hps =>
          .cons (.group connective negated hps) .nil
        refine (Rel.each hentry (fun i c _ d _ hcd => ?_) 0).map fun pss qss hpss =>
          List.rel_flatten hpss
        exact (ih hcd).orDrop .nil options _ _

/-- A recast filter is read as a rewording of what the filter is read as. -/
theorem rel_readPredicates {v w : Json.Value} (h : Recast v w) :
    Rel (List.Forall₂ Reworded) (readPredicates options v) (readPredicates options w) := by
  have hguarded (place : Path) {c d : Json.Value} (hcd : Recast c d) :
      Rel (List.Forall₂ Reworded) (guardedEntry options options.maxDepth place c)
        (guardedEntry options options.maxDepth place d) :=
    (rel_readEntry hcd).orDrop .nil options place none
  cases h with
  | same => exact Report.rel_self forall₂_reworded_self _
  | list h =>
    exact (Rel.each h (fun i c _ d _ hcd => hguarded (Path.root.push (.entry i)) hcd) 0).map
      fun pss qss hpss => List.rel_flatten hpss
  | node h => exact hguarded Path.root (.node h)
  | group hkind hentries h => exact hguarded Path.root (.group hkind hentries h)

end Reading

/-- Predicates that say the same compile alike, everywhere: any nodes of a tree may be put in
another way, and any patterns of a filter that name an operator may be comparisons. The result is
the same, whether it is a filter or an error, and so is what is dropped. -/
theorem compile_reworded (options : Options) :
    (∀ ps qs, List.Forall₂ Reworded ps qs → compile options ps = compile options qs) ∧
      ∀ v w, Recast v w → compileValue options v = compileValue options w := by
  constructor
  · intro ps qs h
    exact compile_of_reworded h
  · intro v w h
    exact (rel_readPredicates h).andThen_eq fun ps qs hps => compile_of_reworded hps

/-- In a group, and with the tag of a pattern that the operator overrules. -/
theorem compile_reworded_group :
    compile {} [.group .or true [.pattern "a" .startsWith (.string "x"), .isNull "b"],
        .boolean "c" true] =
      compile {} [.group .or true [.basic "a" (.pattern .startsWith) (.string "x"),
        .basic "b" (.comparison .gt) .null], .basic "c" (.comparison .eq) (.bool true)] ∧
    compileValue {} (.array [.object [("type", .string "Like"), ("column", .string "a"),
        ("operator", .string ">="), ("value", .string "x")]]) =
      compileValue {} (.array [.object [("type", .string "Basic"), ("column", .string "a"),
        ("operator", .string ">="), ("value", .string "x")]]) := by
  constructor
  · refine (compile_reworded {}).1 _ _ (.cons (.group .or true ?_) (.cons ?_ .nil))
    · exact .cons (.node (.pattern "a" .startsWith (.string "x")))
        (.cons (.node (.nullOperator "b" (.comparison .gt))) .nil)
    · exact .node (.boolean "c" true)
  · refine (compile_reworded {}).2 _ _ (.list (.cons (.node ?_) .nil))
    exact ⟨⟨.like, by decide⟩, by decide, rfl, rfl, ⟨.string ">=", rfl, nofun⟩, rfl, .string "x",
      rfl⟩

end SearchIndex.Filter
