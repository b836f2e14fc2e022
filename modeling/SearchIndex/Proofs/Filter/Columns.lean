import SearchIndex.Proofs.Filter.Shorthand

/-!
# Columns of a tree that was read

A tagged object must name its column, and a blank name is refused. An object without a tag is not
looked at in this way: it has its members' names for columns, whatever they are. So of the
predicates that are read from a filter those without a name for their column are the equalities of
members with blank names, and each such member gives one (`exists_blank_column_iff`).
-/

/-! ## Blank texts -/

namespace SearchIndex.Text

/-- A text is blank if nothing of it is left when it is trimmed. -/
theorem trim_eq_empty_iff (s : String) : trim s = "" ↔ isBlankText s = true := by
  have hsplit := List.takeWhile_append_dropWhile (p := isBlank) (l := s.toList)
  have hhead : (s.toList.takeWhile isBlank).all isBlank = true := List.all_takeWhile
  rw [trim, String.ofList_eq_empty_iff, trimEnd_eq_nil_iff, trimStart, isBlankText]
  conv_rhs => rw [← hsplit, List.all_append, hhead, Bool.true_and]

end SearchIndex.Text

namespace SearchIndex.Filter

open Json (Members)
open Predicate (nodesOf)

/-! ## Columns of an entry -/

section Entries

variable {path : Path} {members : Members} {p : Predicate}

/-- A field whose report has a result was read. -/
theorem eq_ok_of_result_ofField {α : Type} {r : Field α} {a : α}
    (h : (Report.ofField r).result = .ok a) : r = .ok a := by
  cases r with
  | error e => cases h
  | ok b => exact h

/-- A column that is read is not blank. -/
theorem isBlankText_of_readColumn {column : String} (h : readColumn path members = .ok column) :
    Text.isBlankText column = false := by
  unfold readColumn at h
  split at h
  · split at h
    · cases h
    · next hblank =>
      cases h
      exact Bool.eq_false_iff.2 hblank
  · cases h
  · cases h

/-- The column of a predicate is the one that its object names. -/
theorem readColumn_of_readLeaf {kind : Kind} (h : readLeaf path members kind = .ok p)
    {column : String} (hcolumn : column ∈ p.column?) : readColumn path members = .ok column := by
  cases kind with
  | basic =>
    obtain ⟨name, hname, h⟩ := exists_of_bind_eq_ok h
    obtain ⟨operator, -, h⟩ := exists_of_bind_eq_ok h
    obtain ⟨value, -, h⟩ := exists_of_bind_eq_ok h
    cases h
    cases hcolumn
    exact hname
  | pattern kind =>
    obtain ⟨name, hname, h⟩ := exists_of_bind_eq_ok h
    obtain ⟨value, -, h⟩ := exists_of_bind_eq_ok h
    obtain ⟨operator, -, h⟩ := exists_of_bind_eq_ok h
    cases h
    rcases operator with _ | _ | _ <;>
    · cases hcolumn
      exact hname
  | isNull | isNotNull =>
    obtain ⟨name, hname, rfl⟩ := exists_of_map_eq_ok h
    cases hcolumn
    exact hname
  | isIn | isNotIn | boolean =>
    obtain ⟨name, hname, h⟩ := exists_of_bind_eq_ok h
    obtain ⟨value, -, h⟩ := exists_of_bind_eq_ok h
    cases h
    cases hcolumn
    exact hname
  | raw =>
    obtain ⟨text, -, rfl⟩ := exists_of_map_eq_ok h
    cases hcolumn
  | group =>
    cases h
    cases hcolumn

/-- A predicate with a blank column comes from an object without a tag, all of whose members have
scalars. -/
theorem exists_of_blank_column {options : Options} {room : Nat} {entry : Json.Value}
    {ps : List Predicate} (h : readEntry options (room + 1) path entry = .ok ps) (hp : p ∈ ps)
    {column : String} (hcolumn : column ∈ p.column?) (hblank : Text.isBlankText column = true) :
    ∃ members, entry = .object members ∧ isTagged members = false ∧
      (∀ m ∈ members, isScalar m.2 = true) ∧ p ∈ equalities members := by
  cases entry with
  | object members =>
    cases htag : isTagged members with
    | false =>
      rw [readEntry_shorthand htag] at h
      have hread := eq_ok_of_result_ofField (congrArg Report.result h)
      obtain ⟨hscalars, rfl⟩ := readShorthand_eq_ok_iff.1 hread
      exact ⟨members, rfl, htag, hscalars, hp⟩
    | true =>
      cases hkind : readKind path members with
      | error e =>
        rw [readEntry_kind_error htag hkind] at h
        cases h
      | ok kind =>
        by_cases hgroup : kind = .group
        · subst hgroup
          cases hfields : readGroupFields path members with
          | error e =>
            rw [readEntry_group_error htag hkind hfields] at h
            cases h
          | ok fields =>
            rw [readEntry_group htag hkind hfields] at h
            obtain ⟨conditions, -, rfl⟩ := exists_of_map_eq_ok (congrArg Report.result h)
            obtain rfl := List.mem_singleton.1 hp
            cases hcolumn
        · rw [readEntry_leaf htag hkind hgroup] at h
          obtain ⟨q, hq, rfl⟩ := exists_of_map_eq_ok (congrArg Report.result h)
          obtain rfl := List.mem_singleton.1 hp
          -- A column that is read from a field is never blank.
          have hread := readColumn_of_readLeaf (eq_ok_of_result_ofField hq) hcolumn
          rw [isBlankText_of_readColumn hread] at hblank
          cases hblank
  | string text =>
    cases h
    obtain rfl := List.mem_singleton.1 hp
    cases hcolumn
  | null | bool _ | number _ | array _ => cases h

end Entries

/-! ## Columns of a tree -/

/-- The predicate is the equality of a member with a blank name, in an object without a tag that
stands in the filter and has scalars only. -/
inductive IsBlankMember (value : Json.Value) : Predicate → Prop
  | intro {members : Members} {column : String} {scalar : Scalar}
      (hstands : StandsIn value (.object members)) (htag : isTagged members = false)
      (hscalars : ∀ m ∈ members, isScalar m.2 = true)
      (hmem : (column, scalar.toJson) ∈ members) (hblank : Text.trim column = "") :
      IsBlankMember value (.basic column (.comparison .eq) scalar)

section Trees

variable {options : Options} {value : Json.Value} {ps : List Predicate} {p : Predicate}

/-- The equalities of an object are those of its members with scalars. -/
theorem mem_equalities_iff {members : Members} : p ∈ equalities members ↔
    ∃ column scalar, (column, Scalar.toJson scalar) ∈ members ∧
      p = .basic column (.comparison .eq) scalar := by
  rw [equalities, List.mem_filterMap]
  constructor
  · rintro ⟨⟨column, wanted⟩, hmem, hp⟩
    obtain ⟨scalar, hscalar, rfl⟩ := Option.map_eq_some_iff.1 hp
    refine ⟨column, scalar, ?_, rfl⟩
    cases wanted <;> cases hscalar <;> exact hmem
  · rintro ⟨column, scalar, hmem, rfl⟩
    exact ⟨_, hmem, by rw [equality?, Scalar.ofJson?_toJson, Option.map_some]⟩

/-- What is read in strict work is read in lenient work. -/
theorem readPredicates_lenient (h : (readPredicates options value).result = .ok ps) :
    (readPredicates ⟨options.maxDepth, false⟩ value).result = .ok ps := by
  obtain ⟨maxDepth, strict⟩ := options
  cases strict with
  | false => exact h
  | true => rw [readPredicates_refines maxDepth value ps h]; rfl

/-- If a filter is read, whether in strict or in lenient work, an object without a tag that has
scalars only has all its equalities in the tree. -/
theorem equalities_subset_nodesOf (h : (readPredicates options value).result = .ok ps)
    {members : Members} (hstands : StandsIn value (.object members))
    (htag : isTagged members = false) (hscalars : ∀ m ∈ members, isScalar m.2 = true) :
    equalities members ⊆ nodesOf ps := by
  obtain ⟨site, hopen, hvalue⟩ := hstands
  -- Sites of a filter belong to sites of the tree in lenient work, which reads no less.
  have hlenient := readPredicates_lenient h
  have hobject := standFor_shorthand options.maxDepth htag
  rw [keptEqualities, if_pos (List.all_eq_true.2 hscalars)] at hobject
  rcases exists_site hopen options.maxDepth with hdeep | ⟨tree, htree⟩
  · rw [hdeep value _ _ hvalue (List.cons_ne_nil _ _) hobject] at hlenient
    cases hlenient
  · rw [htree value _ _ hvalue hobject] at hlenient
    cases hlenient
    intro q hq
    exact tree.nodesOf_subset_withPredicates (Predicate.nodes_subset_nodesOf hq q.self_mem_nodes)

/-- In a tree that is read from a filter, in strict or in lenient work and at any depth, the
predicates without a name for their column are the equalities of members with blank names. -/
theorem exists_blank_column_iff (h : (readPredicates options value).result = .ok ps)
    (p : Predicate) :
    (p ∈ nodesOf ps ∧ ∃ column ∈ p.column?, Text.trim column = "") ↔ IsBlankMember value p := by
  constructor
  · rintro ⟨hp, column, hcolumn, htrim⟩
    have hleaf : p.isGroup = false := by
      cases p with
      | group => cases hcolumn
      | _ => rfl
    obtain ⟨entry, qs, hstands, hmem, hread⟩ := exists_standsIn_of_mem_nodesOf h hp hleaf
    obtain ⟨members, rfl, htag, hscalars, heq⟩ := exists_of_blank_column
      (hread options 0 Path.root) hmem hcolumn ((Text.trim_eq_empty_iff column).1 htrim)
    obtain ⟨name, scalar, hscalar, rfl⟩ := mem_equalities_iff.1 heq
    cases hcolumn
    exact .intro hstands htag hscalars hscalar htrim
  · rintro ⟨hstands, htag, hscalars, hmem, htrim⟩
    refine ⟨equalities_subset_nodesOf h hstands htag hscalars ?_, _, rfl, htrim⟩
    exact mem_equalities_iff.2 ⟨_, _, hmem, rfl⟩

/-- Beside a test for null, an object with a blank name gives an equality without a column. -/
theorem exists_blank_column_iff_beside :
    IsBlankMember (.array [.object [("type", .string "Null"), ("column", .string "a")],
        .object [(" ", .bool true)]]) (.basic " " (.comparison .eq) (.bool true)) ∧
      ¬IsBlankMember (.array [.object [("type", .string "Null"), ("column", .string "a")],
        .object [(" ", .bool true)]]) (.isNull "a") := by
  have hread : (readPredicates ⟨32, true⟩ (.array
      [.object [("type", .string "Null"), ("column", .string "a")],
        .object [(" ", .bool true)]])).result =
      .ok [.isNull "a", .basic " " (.comparison .eq) (.bool true)] := rfl
  constructor
  · refine (exists_blank_column_iff hread _).1 ⟨?_, " ", rfl, by decide⟩
    exact List.mem_cons_of_mem _ List.mem_cons_self
  · intro h
    obtain ⟨-, column, hcolumn, htrim⟩ := (exists_blank_column_iff hread _).2 h
    cases hcolumn
    exact absurd htrim (by decide)

/-- A blank name for a column is accepted from an object without a tag. -/
theorem exists_blank_column : ¬∀ options value ps, (readPredicates options value).result = .ok ps →
    ∀ p ∈ nodesOf ps, ∀ column ∈ p.column?, Text.trim column ≠ "" := by
  intro h
  exact h ⟨32, true⟩ (.array [.object [("", .bool true)]]) _ rfl
    (.basic "" (.comparison .eq) (.bool true)) List.mem_cons_self "" rfl rfl

end Trees

end SearchIndex.Filter
