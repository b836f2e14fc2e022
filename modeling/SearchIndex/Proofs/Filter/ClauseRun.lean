import SearchIndex.Filter.Compile
import SearchIndex.Proofs.Filter.Outcome
import SearchIndex.Proofs.Filter.Tree

/-!
# Runs of the compiler

The recursion of `clause`, stated once for properties of the clauses that it gives (`gives_clause`,
`gives_compile`). What is left to show is what holds of the clause of a predicate that is no group,
and that `groupClause` preserves it. What the clause of such a predicate is made of is stated once as
well (`LeafText`).
-/

namespace SearchIndex.Filter

open Report (Gives)

variable {options : Options}

theorem exists_of_map_eq_ok {ε α β : Type} {f : α → β} {r : Except ε α} {b : β}
    (h : r.map f = .ok b) : ∃ a, r = .ok a ∧ f a = b := by
  cases r with
  | error e => cases h
  | ok a => exact ⟨a, rfl, Except.ok.inj h⟩

theorem exists_of_map_eq_error {ε α β : Type} {f : α → β} {r : Except ε α} {e : ε}
    (h : r.map f = .error e) : r = .error e := by
  cases r with
  | error e' => exact congrArg _ (Except.error.inj h)
  | ok a => cases h

theorem exists_of_bind_eq_ok {ε α β : Type} {r : Except ε α} {next : α → Except ε β} {b : β}
    (h : r >>= next = .ok b) : ∃ a, r = .ok a ∧ next a = .ok b := by
  cases r with
  | error e => cases h
  | ok a => exact ⟨a, rfl, h⟩

/-! ## Clauses without conditions -/

/-- The text is the clause of the predicate, which is no group: what it is made of for each kind. -/
inductive LeafText : Predicate → String → Prop
  | basic (column : String) (operator : Operator) (value : Scalar) :
      LeafText (.basic column operator value) (comparisonClause column operator value)
  | nullPattern (column : String) (kind : PatternKind) :
      LeafText (.pattern column kind .null) (nullClause column)
  | pattern (column : String) (kind : PatternKind) {value : Scalar} (hvalue : value ≠ .null) :
      LeafText (.pattern column kind value) (patternClause column kind value)
  | isNull (column : String) : LeafText (.isNull column) (nullClause column)
  | isNotNull (column : String) : LeafText (.isNotNull column) (column ++ " ne null")
  | isIn {column : String} {members : List Scalar} {call : String}
      (hcall : membershipClause column members = .ok call) : LeafText (.isIn column members) call
  | isNotIn {column : String} {members : List Scalar} {call : String}
      (hcall : membershipClause column members = .ok call) :
      LeafText (.isNotIn column members) ("not " ++ call)
  | boolean (column : String) (value : Bool) :
      LeafText (.boolean column value) (column ++ " eq " ++ if value then "true" else "false")
  | raw (text : String) : LeafText (.raw text) (encloseText (normalizeText text))
  | fragment (text : String) : LeafText (.fragment text) (encloseText text)

/-- What a predicate other than a group is compiled to is made as its kind says. -/
theorem leafText_of_leafClause {p : Predicate} {text : String} (hleaf : p.isGroup = false)
    (h : leafClause p = .ok text) : LeafText p text := by
  cases p with
  | isIn column members => exact .isIn h
  | isNotIn column members =>
    obtain ⟨call, hcall, rfl⟩ := exists_of_map_eq_ok h
    exact .isNotIn hcall
  | group connective negated conditions => cases hleaf
  | pattern column kind value =>
    cases value with
    | null =>
      obtain rfl := Except.ok.inj h
      exact .nullPattern column kind
    | bool _ | number _ | string _ =>
      obtain rfl := Except.ok.inj h
      exact .pattern column kind (by simp)
  | basic column operator value =>
    obtain rfl := Except.ok.inj h
    exact .basic column operator value
  | isNull column =>
    obtain rfl := Except.ok.inj h
    exact .isNull column
  | isNotNull column =>
    obtain rfl := Except.ok.inj h
    exact .isNotNull column
  | boolean column value =>
    obtain rfl := Except.ok.inj h
    exact .boolean column value
  | raw text =>
    obtain rfl := Except.ok.inj h
    exact .raw text
  | fragment text =>
    obtain rfl := Except.ok.inj h
    exact .fragment text

/-- The clause of a predicate that is no group does not depend on the depth. -/
theorem clause_of_leaf {p : Predicate} (h : p.isGroup = false) (room : Nat) (path : Path) :
    clause options (room + 1) path p =
      match leafClause p with
      | .ok text => .ok text
      | .error defect => .fail (.malformed path defect) := by
  cases p with
  | group connective negated conditions => cases h
  | _ => rfl

/-- The clause of a group is made of the clauses of its conditions, one level deeper. -/
theorem clause_group (connective : Connective) (negated : Bool) (conditions : List Predicate)
    (room : Nat) (path : Path) :
    clause options (room + 1) path (.group connective negated conditions) =
      (Report.each (fun i child => guardedClause options room (path.push (.condition i)) child)
        0 conditions).map (groupClause connective negated) := rfl

/-- In lenient work, a predicate with an error of its own is no group. -/
theorem leafClause_eq_error_of_clause {room : Nat} {path : Path} {p : Predicate} {e : Error}
    (hlenient : options.strict = false) (h : (clause options room path p).result = .error e)
    (hlocal : e.isLocal = true) : ∃ defect, leafClause p = .error defect := by
  cases room with
  | zero =>
    cases h
    cases hlocal
  | succ room =>
    cases p using Predicate.leaf_or_group with
    | leaf p hp =>
      rw [clause_of_leaf hp] at h
      cases hleaf : leafClause p with
      | ok text =>
        rw [hleaf] at h
        cases h
      | error defect => exact ⟨defect, rfl⟩
    | group connective negated conditions =>
      have hconditions := exists_of_map_eq_error h
      obtain ⟨child, -, i, hchild⟩ := Report.exists_of_each_error hconditions
      rw [Report.isLocal_eq_false_of_orDrop hlenient hchild] at hlocal
      cases hlocal

/-- A group has no error of its own, so it is not dropped. -/
theorem guardedClause_group (connective : Connective) (negated : Bool)
    (conditions : List Predicate) (room : Nat) (path : Path) :
    guardedClause options (room + 1) path (.group connective negated conditions) =
      (Report.each (fun i child => guardedClause options room (path.push (.condition i)) child)
        0 conditions).map (groupClause connective negated) := by
  rw [← clause_group, guardedClause, Report.orDrop]
  split
  · rfl
  · next e he =>
    refine if_neg fun hdrop => ?_
    obtain ⟨hlenient, hlocal⟩ := Bool.and_eq_true_iff.1 hdrop
    obtain ⟨defect, hdefect⟩ := leafClause_eq_error_of_clause (by simpa using hlenient) he hlocal
    cases hdefect

/-! ## One run -/

/-- What holds of the clauses of single predicates, and of the clause of a group if it holds of the
clauses of its conditions, holds of all clauses. In lenient work, a predicate with a defect has a
blank clause in its group. -/
theorem gives_clause {P : Predicate → String → Prop}
    (hdropped : ∀ p defect, options.strict = false → leafClause p = .error defect → P p "")
    (hleaf : ∀ p text, p.isGroup = false → leafClause p = .ok text → P p text)
    (hgroup : ∀ connective negated conditions clauses, List.Forall₂ P conditions clauses →
      P (.group connective negated conditions) (groupClause connective negated clauses))
    (room : Nat) (path : Path) (p : Predicate) : (clause options room path p).Gives (P p) := by
  induction room generalizing path p with
  | zero => exact Report.gives_fail _
  | succ room ih =>
    cases p using Predicate.leaf_or_group with
    | leaf p hp =>
      rw [clause_of_leaf hp]
      split
      · next text htext => exact Report.gives_ok (hleaf p text hp htext)
      · exact Report.gives_fail _
    | group connective negated conditions =>
      refine Gives.map (Gives.each (fun child _ i => ?_) 0) (hgroup connective negated conditions)
      refine (ih _ child).orDrop (fun e hlenient he hlocal => ?_) _ _
      obtain ⟨defect, hdefect⟩ := leafClause_eq_error_of_clause hlenient he hlocal
      exact hdropped child defect hlenient hdefect

/-- What holds of all clauses holds of those that a filter joins. -/
theorem gives_compile {P : Predicate → String → Prop}
    (hdropped : ∀ p defect, options.strict = false → leafClause p = .error defect → P p "")
    (hclause : ∀ room path p, (clause options room path p).Gives (P p)) (ps : List Predicate) :
    (compile options ps).Gives fun f => ∃ clauses, List.Forall₂ P ps clauses ∧
      f = conjunction clauses := by
  refine Gives.map (Gives.each (fun p _ i => ?_) 0) fun clauses h => ⟨clauses, h, rfl⟩
  refine (hclause _ _ p).orDrop (fun e hlenient he hlocal => ?_) _ _
  obtain ⟨defect, hdefect⟩ := leafClause_eq_error_of_clause hlenient he hlocal
  exact hdropped p defect hlenient hdefect

end SearchIndex.Filter
