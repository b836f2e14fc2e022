import SearchIndex.Proofs.Filter.Columns
import SearchIndex.Proofs.Filter.Depth
import SearchIndex.Proofs.Filter.Literals
import SearchIndex.Proofs.Filter.ShownNumbers
import SearchIndex.Proofs.Json.Numerals

/-!
# Numbers as operands

A number stands in a filter as the value of a comparison or a pattern, as the value of a column in
an object without a tag, or as a member of a membership list (`IsOperand`), in the conditions of
groups at any depth. If its entry is kept, what the filter compiles to shows the number in one place
(`exists_compileValue_operand`), and strict work keeps all entries (`kept_of_strict`).

So an integer in the text of a filter reaches the compiled filter as it was exactly if the number
that it is read as is written back as it was: if it fits a word of 64 bits, signed or not, and is no
zero with a minus sign (`compileText_operand`).
-/

namespace SearchIndex.Filter

open Json (Fits IsNumeral IsText Members Number isInteger)
open Decimal (signedDigits)

/-! ## Entries with an operand -/

/-- An entry with a number for an operand. -/
inductive IsOperand : (Number → Json.Value) → Prop
  /-- The number is the value of a comparison or a pattern. -/
  | value {members : Members} {kind : Kind} (hkind : kind? members = some kind)
      (hvalue : kind = .basic ∨ ∃ pattern, kind = .pattern pattern) :
      IsOperand fun n => .object (members.set "value" (.number n))
  /-- The number is the value of a column. -/
  | column {members : Members} {name : String} (htag : isTagged members = false)
      (htype : name ≠ "type") (hkind : name ≠ "kind") :
      IsOperand fun n => .object (members.set name (.number n))
  /-- The number is in the list of a membership test, under the name that is looked up first. -/
  | member {members : Members} {kind : Kind} {name : String} (hkind : kind? members = some kind)
      (htest : kind = .isIn ∨ kind = .isNotIn)
      (hname : name = "values" ∨ name = "value" ∧ members.get? "values" = none)
      (before after : List Json.Value) :
      IsOperand fun n => .object (members.set name (.array (before ++ .number n :: after)))

/-- The entry gives a predicate that shows the number, among others that do not depend on it. -/
def GivesOperand (operand : Number → Json.Value) : Prop :=
  ∃ (p : Number → Predicate) (as bs : List Predicate), (ShowsNumber fun n => clauseText (p n)) ∧
    ∀ n options room path, readEntry options (room + 1) path (operand n) = .ok (as ++ p n :: bs)

section Entries

variable {members : Members} {name : String}

/-- A member under another name is no matter to the tag. -/
theorem tag_set_ne (members : Members) (value : Json.Value) (htype : name ≠ "type")
    (hkind : name ≠ "kind") : isTagged (members.set name value) = isTagged members ∧
      kind? (members.set name value) = kind? members := by
  simp only [isTagged, kind?, Members.getEither?, Members.get?_set_ne members value htype.symm,
    Members.get?_set_ne members value hkind.symm, and_self]

/-- The column is read the same whatever stands under other names. -/
theorem column_set_ne (members : Members) (value : Json.Value) (hcolumn : name ≠ "column")
    (hfield : name ≠ "field") : columnFits (members.set name value) = columnFits members ∧
      ∀ path, readColumn path (members.set name value) = readColumn path members := by
  simp only [columnFits, readColumn, Members.getEither?,
    Members.get?_set_ne members value hcolumn.symm, Members.get?_set_ne members value hfield.symm,
    implies_true, and_self]

theorem operator_set_ne (members : Members) (value : Json.Value) (hoperator : name ≠ "operator") :
    operatorFits (members.set name value) = operatorFits members ∧
      ∀ path, readOperator path (members.set name value) = readOperator path members := by
  simp only [operatorFits, readOperator, Members.get?_set_ne members value hoperator.symm,
    implies_true, and_self]

/-- A tagged entry that is no group gives its predicate. -/
theorem givesOperand_of_readLeaf {fields : Number → Members} {kind : Kind} {p : Number → Predicate}
    (hkind : ∀ n, kind? (fields n) = some kind) (hgroup : kind ≠ .group)
    (hread : ∀ n path, readLeaf path (fields n) kind = .ok (p n))
    (hshows : ShowsNumber fun n => clauseText (p n)) :
    GivesOperand fun n => .object (fields n) := by
  refine ⟨p, [], [], hshows, fun n options room path => ?_⟩
  rw [readEntry_leaf (isTagged_of_kind? _ (hkind n)) (readKind_eq (hkind n) path) hgroup,
    hread n path]
  rfl

/-- The fields of a comparison or a pattern fit if its column, its operator and its value do. -/
theorem fieldsFit_of_value {kind : Kind}
    (hvalue : kind = .basic ∨ ∃ pattern, kind = .pattern pattern) :
    fieldsFit members kind = true ↔
      columnFits members = true ∧ operatorFits members = true ∧ valueFits members = true := by
  obtain rfl | ⟨pattern, rfl⟩ := hvalue <;>
  · simp only [fieldsFit, fieldsRead, delimiterFits, Bool.and_true, Bool.and_eq_true]
    tauto

/-- The fields of a membership test fit if its column does and its list, with no delimiter in it. -/
theorem fieldsFit_of_test {kind : Kind} (htest : kind = .isIn ∨ kind = .isNotIn) :
    fieldsFit members kind = true ↔
      (columnFits members = true ∧ listReads members = true) ∧ listParts members = true := by
  obtain rfl | rfl := htest <;>
    simp only [fieldsFit, fieldsRead, delimiterFits, Bool.and_eq_true]

/-- The value of a comparison or a pattern. -/
theorem givesOperand_value {kind : Kind} (hkind : kind? members = some kind)
    (hvalue : kind = .basic ∨ ∃ pattern, kind = .pattern pattern) {m : Number}
    (hfits : entryFits (.object (members.set "value" (.number m))) = true) :
    GivesOperand fun n => .object (members.set "value" (.number n)) := by
  have htag (n : Number) : kind? (members.set "value" (.number n)) = some kind :=
    (tag_set_ne members (.number n) (by decide) (by decide)).2.trans hkind
  -- The column and the operator are those that the entry has anyway.
  have hcolumn (n : Number) :=
    @column_set_ne "value" members (.number n) (by decide) (by decide)
  have hoperator (n : Number) := @operator_set_ne "value" members (.number n) (by decide)
  have hnumber (n : Number) (path : Path) :
      readValueField path (members.set "value" (.number n)) = .ok (.number n) := by
    simp only [readValueField, Members.get?_set_self]
    rfl
  rw [entryFits_eq (htag m), fieldsFit_of_value hvalue, (hcolumn m).1, (hoperator m).1] at hfits
  have hcolumns := checks_readColumn members
  have hoperators := checks_readOperator members
  rw [hfits.1] at hcolumns
  rw [hfits.2.1] at hoperators
  obtain ⟨column, -, hreadColumn⟩ := hcolumns.exists_ok
  obtain ⟨operator, -, hreadOperator⟩ := hoperators.exists_ok
  obtain rfl | ⟨pattern, rfl⟩ := hvalue
  · refine givesOperand_of_readLeaf htag (by decide) (fun n path => ?_)
      (showsNumber_basic column (operator.getD (.comparison .eq)))
    simp only [readLeaf, (hcolumn n).2, hreadColumn, (hoperator n).2, hreadOperator, hnumber]
    rfl
  · refine givesOperand_of_readLeaf htag (by rintro ⟨⟩) (fun n path => ?_)
      (showsNumber_patternWith column pattern operator)
    simp only [readLeaf, (hcolumn n).2, hreadColumn, (hoperator n).2, hreadOperator, hnumber]
    rfl

/-- The value of a column. -/
theorem givesOperand_column (htag : isTagged members = false) (htype : name ≠ "type")
    (hkind : name ≠ "kind") {m : Number}
    (hfits : entryFits (.object (members.set name (.number m))) = true) :
    GivesOperand fun n => .object (members.set name (.number n)) := by
  have huntagged (n : Number) : isTagged (members.set name (.number n)) = false :=
    (tag_set_ne members (.number n) htype hkind).1.trans htag
  obtain ⟨before, after, hset⟩ := Members.exists_set_eq members name
  -- The other columns have scalars, so all have.
  have hscalars (n : Number) : ∀ c ∈ members.set name (.number n), isScalar c.2 = true := by
    rw [entryFits_of_untagged (huntagged m), hset, List.all_eq_true] at hfits
    rw [hset]
    intro c hc
    rcases List.mem_append.1 hc with hc | hc
    · exact hfits c (List.mem_append_left _ hc)
    · rcases List.mem_cons.1 hc with rfl | hc
      · rfl
      · exact hfits c (List.mem_append_right _ (List.mem_cons_of_mem _ hc))
  refine ⟨fun n => .basic name (.comparison .eq) (.number n), equalities before, equalities after,
    showsNumber_basic name (.comparison .eq), fun n options room path => ?_⟩
  have hread : readShorthand path (members.set name (.number n)) = .ok _ :=
    readShorthand_eq_ok_iff.2 ⟨hscalars n, rfl⟩
  rw [readEntry_shorthand (huntagged n), hread, hset, equalities_append, equalities_cons]
  rfl

/-! ### Membership lists -/

/-- A number among the values is a member among the members. -/
theorem readMemberList_number {path : Path} {before after : List Json.Value}
    {list more : List Scalar} (hbefore : readMemberList path before = .ok list)
    (hafter : readMemberList path after = .ok more) (n : Number) :
    readMemberList path (before ++ .number n :: after) = .ok (list ++ .number n :: more) := by
  induction before generalizing list with
  | nil =>
    cases hbefore
    rw [List.nil_append, readMemberList, hafter]
    · rfl
    · exact nofun
  | cons value rest ih =>
    have hcons (values : List Json.Value) (hnull : value ≠ .null) :
        readMemberList path (value :: values) = readScalar path value >>= fun s =>
          (readMemberList path values).map (s :: ·) := by
      cases value with
      | null => exact absurd rfl hnull
      | _ => rfl
    have hnull : value ≠ .null := by
      rintro rfl
      cases hbefore
    rw [hcons rest hnull] at hbefore
    obtain ⟨s, hs, hbefore⟩ := exists_of_bind_eq_ok hbefore
    obtain ⟨ss, hss, rfl⟩ := exists_of_map_eq_ok hbefore
    rw [List.cons_append, hcons _ hnull, hs, ih hss]
    rfl

/-- A list of elements without the delimiter is read, and so it is with another number in it. -/
theorem exists_readMemberList {before after : List Json.Value} {m : Number}
    (hreads : (before ++ .number m :: after).all isElement = true)
    (hparts : (!(before ++ .number m :: after).any hasDelimiter) = true) :
    ∃ list more : List Scalar, (∀ s ∈ list, s.IsMember) ∧ (∀ s ∈ more, s.IsMember) ∧
      ∀ n path, readMemberList path (before ++ .number n :: after) =
        .ok (list ++ .number n :: more) := by
  have hpart {values : List Json.Value} (hreads : values.all isElement = true)
      (hparts : values.any hasDelimiter = false) : ∃ list : List Scalar,
        (∀ s ∈ list, s.IsMember) ∧ ∀ path, readMemberList path values = .ok list := by
    have hchecks := checks_readMemberList values
    rw [hreads] at hchecks
    obtain ⟨list, ⟨hnull, hdelimiter⟩, hlist⟩ := hchecks.exists_ok
    refine ⟨list, isMember_of_mem hnull fun s hs hmem => ?_, hlist⟩
    rw [hparts] at hdelimiter
    refine List.any_eq_false.1 hdelimiter _ hs ?_
    simpa [Scalar.hasDelimiter] using hmem
  simp only [List.all_append, List.all_cons, Bool.and_eq_true] at hreads
  simp only [List.any_append, List.any_cons, Bool.not_eq_true', Bool.or_eq_false_iff] at hparts
  obtain ⟨list, hlist, hbefore⟩ := hpart hreads.1 hparts.1
  obtain ⟨more, hmore, hafter⟩ := hpart hreads.2.2 hparts.2.2
  exact ⟨list, more, hlist, hmore, fun n path =>
    readMemberList_number (hbefore path) (hafter path) n⟩

/-- The list of a membership test is the one that is looked up first. -/
theorem list_set (hname : name = "values" ∨ name = "value" ∧ members.get? "values" = none)
    (values : List Json.Value) :
    listReads (members.set name (.array values)) = values.all isElement ∧
      listParts (members.set name (.array values)) = !values.any hasDelimiter ∧
      ∀ path, readMembersField path (members.set name (.array values)) =
        readMemberList path values := by
  have hlisted :
      Members.getEither? (members.set name (.array values)) "values" "value" =
        some (.array values) := by
    rcases hname with rfl | ⟨rfl, hnone⟩
    · simp only [Members.getEither?, Members.get?_set_self, Option.orElse_some]
    · have hvalues := Members.get?_set_ne members (.array values)
        (show "values" ≠ "value" by decide)
      simp only [Members.getEither?, hvalues, hnone, Members.get?_set_self, Option.orElse_none]
  simp only [listReads, listParts, listed?, readMembersField, hlisted, implies_true, and_self]

/-- A member of a membership list. -/
theorem givesOperand_member {kind : Kind} (hkind : kind? members = some kind)
    (htest : kind = .isIn ∨ kind = .isNotIn)
    (hname : name = "values" ∨ name = "value" ∧ members.get? "values" = none)
    {before after : List Json.Value} {m : Number}
    (hfits : entryFits
      (.object (members.set name (.array (before ++ .number m :: after)))) = true) :
    GivesOperand fun n => .object (members.set name (.array (before ++ .number n :: after))) := by
  have hnames : name ≠ "type" ∧ name ≠ "kind" ∧ name ≠ "column" ∧ name ≠ "field" := by
    rcases hname with rfl | ⟨rfl, -⟩ <;> decide
  obtain ⟨htype, hkindName, hcolumnName, hfieldName⟩ := hnames
  have htag (n : Number) :
      kind? (members.set name (.array (before ++ .number n :: after))) = some kind :=
    (tag_set_ne members _ htype hkindName).2.trans hkind
  -- Only the list changes: the kind and the column are found as before.
  have hcolumn (n : Number) :=
    column_set_ne members (.array (before ++ .number n :: after)) hcolumnName hfieldName
  have hlist (n : Number) := list_set hname (before ++ .number n :: after)
  rw [entryFits_eq (htag m), fieldsFit_of_test htest, (hcolumn m).1, (hlist m).1,
    (hlist m).2.1] at hfits
  obtain ⟨⟨hcolumnFits, hreads⟩, hparts⟩ := hfits
  have hcolumns := checks_readColumn members
  rw [hcolumnFits] at hcolumns
  obtain ⟨column, -, hreadColumn⟩ := hcolumns.exists_ok
  obtain ⟨list, more, hlistMembers, hmoreMembers, hread⟩ := exists_readMemberList hreads hparts
  have hmembers (n : Number) (path : Path) :
      readMembersField path (members.set name (.array (before ++ .number n :: after))) =
        .ok (list ++ .number n :: more) :=
    ((hlist n).2.2 path).trans (hread n path)
  obtain rfl | rfl := htest
  · refine givesOperand_of_readLeaf htag (by decide) (fun n path => ?_)
      (showsNumber_isIn column hlistMembers hmoreMembers)
    simp only [readLeaf, (hcolumn n).2, hreadColumn, hmembers]
    rfl
  · refine givesOperand_of_readLeaf htag (by decide) (fun n path => ?_)
      (showsNumber_isNotIn column hlistMembers hmoreMembers)
    simp only [readLeaf, (hcolumn n).2, hreadColumn, hmembers]
    rfl

/-- An entry with an operand gives a predicate that shows the number, if it is well-formed. -/
theorem IsOperand.givesOperand {operand : Number → Json.Value} (h : IsOperand operand) {m : Number}
    (hfits : entryFits (operand m) = true) : GivesOperand operand := by
  cases h with
  | value hkind hvalue => exact givesOperand_value hkind hvalue hfits
  | column htag htype hkind => exact givesOperand_column htag htype hkind hfits
  | member hkind htest hname before after =>
    exact givesOperand_member hkind htest hname hfits

end Entries

/-! ## What strict work keeps -/

/-- What is around the gap are groups. -/
def Site.OfGroups : Site Json.Value Members → Prop
  | .list _ _ => True
  | .inside _ members inner _ =>
    kind? members = some .group ∧ (conditions? members).isSome ∧ inner.OfGroups

section Kept

variable {maxDepth room : Nat} {site : Site Json.Value Members} {value entry : Json.Value}

/-- Entries yield the same predicates however they are derived. -/
theorem Yields.unique {entries : List Json.Value} {ps? qs? : Option (List Predicate)}
    (h : Yields maxDepth room entries ps?) (h' : Yields maxDepth room entries qs?) :
    ps? = qs? := by
  have heq := (h (fun _ => Path.root) 0).symm.trans (h' (fun _ => Path.root) 0)
  cases ps? <;> cases qs? <;> cases heq <;> rfl

/-- A well-formed group with other conditions was well-formed before. -/
theorem fieldsRead_of_withConditions {members : Members} {entries : List Json.Value}
    (hkind : kind? members = some .group) (hconditions : (conditions? members).isSome)
    (h : entryFits (withConditions members entries) = true) :
    fieldsRead members .group = true := by
  have hset := (tag_set members (.array entries)).2.trans hkind
  have hother (field : String) (hfield : field ≠ "conditions") :=
    Members.get?_set_ne members (.array entries) hfield
  rw [withConditions, entryFits_eq hset] at h
  simp only [fieldsFit, fieldsRead, delimiterFits, connectiveFits, negationFits,
    Members.getEither?, hother "connective" (by decide), hother "boolean" (by decide),
    hother "not" (by decide), Bool.and_true, Bool.and_eq_true] at h
  simp only [fieldsRead, connectiveFits, negationFits, Members.getEither?, hconditions,
    Bool.and_true, Bool.and_eq_true]
  exact h.1

/-- Without any room entries yield nothing. -/
theorem not_yields_zero {entries : List Json.Value} (hne : entries ≠ []) (ps : List Predicate) :
    ¬Yields maxDepth 0 entries (some ps) := by
  intro h
  cases h.unique (yields_zero hne)

/-- An entry that is not deleted is well-formed. -/
theorem entryFits_of_deletions (h : deletions (room + 1) entry = 0) : entryFits entry = true := by
  by_contra hfits
  rw [Bool.not_eq_true] at hfits
  rw [(prune_of_malformed room hfits).2] at h
  cases h

/-- If nothing is deleted from a list, nothing is deleted from any entry of it. -/
theorem deletions_of_mem {entries : List Json.Value}
    (hsum : (entries.map (deletions room)).sum = 0) (h : entry ∈ entries) :
    deletions room entry = 0 :=
  List.sum_eq_zero_iff_forall_eq_nat.1 hsum _ (List.mem_map_of_mem h)

/-- A group that is not deleted has well-formed fields. If it does not nest too deep, neither do its
conditions, and none of them is deleted. -/
theorem kept_group {members : Members} {before entries after : List Json.Value}
    {ps : List Predicate} (hkind : kind? members = some .group)
    (hconditions : (conditions? members).isSome)
    (hyields : Yields maxDepth (room + 1) (before ++ withConditions members entries :: after)
      (some ps))
    (hzero : deletions (room + 1) (withConditions members entries) = 0) :
    fieldsRead members .group = true ∧ (∃ qs, Yields maxDepth room entries (some qs)) ∧
      (entries.map (deletions room)).sum = 0 := by
  have hfits := entryFits_of_deletions hzero
  have hfields := fieldsRead_of_withConditions hkind hconditions hfits
  refine ⟨hfields, ?_, ?_⟩
  · -- If the conditions gave nothing, the list around the group would give nothing either.
    obtain ⟨label, hlabel⟩ := @exists_yields_group maxDepth members hkind hfields
    obtain ⟨bs?, hbefore⟩ := exists_yields maxDepth (room + 1) before
    obtain ⟨qs?, hqs⟩ := exists_yields maxDepth room entries
    obtain ⟨as?, hafter⟩ := exists_yields maxDepth (room + 1) after
    have hall := hbefore.between (hlabel room entries qs? hqs) hafter
    rw [List.append_assoc] at hall
    have heq := hyields.unique hall
    cases qs? with
    | none => cases bs? <;> cases heq
    | some qs => exact ⟨qs, hqs⟩
  · have hset := (tag_set members (.array entries)).2.trans hkind
    have hentries :
        conditions? (members.set "conditions" (.array entries)) = some entries := by
      simp only [conditions?, Members.get?_set_self]
    rw [withConditions, (prune_of_group room hfits hset hentries).2] at hzero
    exact hzero

/-- If entries do not nest too deep and none of them is deleted, an entry at a site of groups is
kept, and so are the groups. -/
theorem kept_of_deletions (hgroups : site.OfGroups) {ps : List Predicate}
    (hyields : Yields maxDepth room (site.withEntries [entry]) (some ps))
    (hsum : ((site.withEntries [entry]).map (deletions room)).sum = 0) :
    site.IsOpen ∧ entryFits entry = true := by
  induction site generalizing room ps with
  | list before after =>
    cases room with
    | zero => exact absurd hyields (not_yields_zero (by simp [Site.withEntries, Site.fill]) ps)
    | succ room =>
      have hzero : deletions (room + 1) entry = 0 :=
        deletions_of_mem hsum (by simp [Site.withEntries, Site.fill])
      exact ⟨trivial, entryFits_of_deletions hzero⟩
  | inside before members inner after ih =>
    obtain ⟨hkind, hconditions, hinner⟩ := hgroups
    cases room with
    | zero => exact absurd hyields (not_yields_zero (by simp [Site.withEntries, Site.fill]) ps)
    | succ room =>
      have hzero : deletions (room + 1) (withConditions members (inner.withEntries [entry])) = 0 :=
        deletions_of_mem hsum (List.mem_append_right _ List.mem_cons_self)
      obtain ⟨hfields, ⟨qs, hqs⟩, hentries⟩ := kept_group hkind hconditions hyields hzero
      obtain ⟨hopen, hentry⟩ := ih hinner hqs hentries
      exact ⟨⟨hkind, hfields, hopen⟩, hentry⟩

/-- Where strict work gives a filter, nothing is deleted. -/
theorem deletedEntries_of_strict {f : String}
    (h : (compileValue ⟨maxDepth, true⟩ value).result = .ok f) :
    deletedEntries maxDepth value = 0 := by
  have hrefines := compileValue_refines maxDepth value f h
  obtain hagrees | hfilter := agrees_readPredicates maxDepth value
  · have hlenient : (readPredicates ⟨maxDepth, false⟩ value).andThen
        (compile ⟨maxDepth, false⟩) = .ok f := hrefines
    obtain ⟨hdeep, -⟩ | ⟨g, -, -, hcount⟩ := hagrees.compile
    · rw [hlenient] at hdeep
      cases hdeep
    · rw [hlenient] at hcount
      exact hcount.symm
  · rw [compileValue, (hfilter ⟨maxDepth, true⟩).1] at h
    cases h

/-- What is compiled has been read. -/
theorem exists_of_compileValue {options : Options} {f : String}
    (h : (compileValue options value).result = .ok f) : ∃ ps,
      (readPredicates options value).result = .ok ps ∧ (compile options ps).result = .ok f := by
  unfold compileValue Report.andThen at h
  cases hread : (readPredicates options value).result with
  | error e =>
    rw [hread] at h
    cases h
  | ok ps =>
    rw [hread] at h
    exact ⟨ps, rfl, h⟩

/-- Strict work keeps each entry at a site of groups. -/
theorem kept_of_strict (hgroups : site.OfGroups)
    (hvalue : HasEntries value (site.withEntries [entry])) {f : String}
    (h : (compileValue ⟨maxDepth, true⟩ value).result = .ok f) :
    site.IsOpen ∧ entryFits entry = true := by
  have hdeleted := deletedEntries_of_strict h
  obtain ⟨ps, hread, -⟩ := exists_of_compileValue h
  have hlenient := readPredicates_lenient hread
  obtain ⟨qs?, hqs⟩ := exists_yields maxDepth maxDepth (site.withEntries [entry])
  rw [hqs.readPredicates hvalue] at hlenient
  cases qs? with
  | none => cases hlenient
  | some qs =>
    refine kept_of_deletions hgroups hqs ?_
    generalize site.withEntries [entry] = entries at hvalue
    cases hvalue with
    | list => exact hdeleted
    | single members => exact (Nat.add_zero _).trans hdeleted

end Kept

/-! ## What a filter shows of its operands -/

section Operands

variable {operand filter : Number → Json.Value} {site : Site Json.Value Members}

/-- What a filter compiles to shows an operand, if the entry of the operand is kept. -/
theorem exists_compileValue_operand (hoperand : IsOperand operand) (hopen : site.IsOpen)
    (hfilter : ∀ n, HasEntries (filter n) (site.withEntries [operand n])) (options : Options) :
    ∃ text, ShowsNumber text ∧ ∀ n f, entryFits (operand n) = true →
      (compileValue options (filter n)).result = .ok f → f = text n := by
  by_cases hsome : ∃ m, entryFits (operand m) = true
  · obtain ⟨m, hm⟩ := hsome
    obtain ⟨p, as, bs, hshows, hread⟩ := hoperand.givesOperand hm
    have hstands (n : Number) : StandFor options.maxDepth [operand n] (as ++ p n :: bs) :=
      fun room => yields_singleton fun path => by
        rw [guardedEntry_of_ok (hread n _ room path)]
        rfl
    rcases exists_site hopen options.maxDepth with hdeep | ⟨tree, htree⟩
    · refine ⟨_, showsNumber_self, fun n f _ hf => ?_⟩
      obtain ⟨ps, hps, -⟩ := exists_of_compileValue hf
      have herror := hdeep (filter n) _ _ (hfilter n) (List.cons_ne_nil _ _) (hstands n)
      cases (readPredicates_lenient hps).symm.trans herror
    · refine ⟨_, showsNumber_conjunction hshows tree as bs, fun n f _ hf => ?_⟩
      obtain ⟨ps, hps, hcompile⟩ := exists_of_compileValue hf
      have hok := htree (filter n) _ _ (hfilter n) (hstands n)
      obtain rfl := Except.ok.inj ((readPredicates_lenient hps).symm.trans hok)
      exact eq_conjunction_of_compile hcompile
  · exact ⟨_, showsNumber_self, fun n f hfits => absurd ⟨n, hfits⟩ hsome⟩

/-- A text that compiles to a filter does so as the value that it stands for. -/
theorem compileValue_of_compileText {options : Options} {levels : Nat} {value : Json.Value}
    {cs : List Char} {f : String} (htext : IsText levels (.value value) cs)
    (h : (compileText options (String.ofList cs)).result = .ok f) :
    (compileValue options value).result = .ok f := by
  have hchars : (String.ofList cs).toList = cs := String.toList_ofList
  rw [← hchars] at htext
  have hsize : (String.ofList cs).utf8ByteSize ≤ maxTextBytes := by
    by_contra hlarge
    rw [compileText, parsePredicates, if_pos (Nat.not_le.1 hlarge)] at h
    cases h
  have hlevels : levels ≤ Json.depthLimit := by
    by_contra hdeep
    obtain ⟨fault, hfail, -⟩ :=
      compileText_of_lt_levels options hsize htext (Nat.not_le.1 hdeep)
    rw [hfail] at h
    cases h
  rwa [compileText_of_levels_le options hsize htext hlevels] at h

/-- An integer stands in the text of a filter as an operand, in groups at any depth, and the text
compiles to a filter. If the entry of the operand is kept, as it is in strict work, the filter shows
the number that the integer is read as in one place, and the rest of it is the same for all
integers. What it shows is the integer as it was exactly if the integer fits a word and is written
the way that whole numbers are, so without a minus sign in front of a zero. -/
theorem compileText_operand {levels : Nat} {before after : List Char} {options : Options}
    (hoperand : IsOperand operand) (hgroups : site.OfGroups)
    (hfilter : ∀ n, HasEntries (filter n) (site.withEntries [operand n]))
    (htext : ∀ n numeral, IsNumeral n numeral →
      IsText levels (.value (filter n)) (before ++ numeral ++ after))
    (hkept : options.strict = true ∨ site.IsOpen ∧ ∀ n, entryFits (operand n) = true) :
    ∃ left right, ∀ n literal f, isInteger literal = true → IsNumeral n literal →
      (compileText options (String.ofList (before ++ literal ++ after))).result = .ok f →
        f = left ++ n.text ++ right ∧
          (n.text.toList = literal ↔ ∃ k, Fits k ∧ literal = signedDigits false k) := by
  have hcompile {n : Number} {literal : List Char} {f : String} (hnumeral : IsNumeral n literal)
      (h : (compileText options (String.ofList (before ++ literal ++ after))).result = .ok f) :
      (compileValue options (filter n)).result = .ok f :=
    compileValue_of_compileText (htext n literal hnumeral) h
  have hstrict {n : Number} {f : String} (h : (compileValue options (filter n)).result = .ok f) :
      site.IsOpen ∧ entryFits (operand n) = true := by
    rcases hkept with hstrict | ⟨hopen, hfits⟩
    · obtain ⟨maxDepth, strict⟩ := options
      obtain rfl : strict = true := hstrict
      exact kept_of_strict hgroups (hfilter n) h
    · exact ⟨hopen, hfits n⟩
  by_cases hopen : site.IsOpen
  · obtain ⟨text, ⟨left, right, hshows⟩, hoperands⟩ :=
      exists_compileValue_operand hoperand hopen hfilter options
    refine ⟨left, right, fun n literal f hinteger hnumeral h => ?_⟩
    have hvalue := hcompile hnumeral h
    refine ⟨?_, Json.text_eq_iff hinteger hnumeral⟩
    rw [hoperands n f (hstrict hvalue).2 hvalue, hshows]
  · -- A site that is not open gives no filter in strict work, so there is nothing to show.
    refine ⟨"", "", fun n literal f _ hnumeral h => ?_⟩
    exact absurd (hstrict (hcompile hnumeral h)).1 hopen

/-- A result that is there is the result of a success. -/
theorem eq_ok_of_toOption {ε α : Type} {r : Except ε α} {a : α} (h : r.toOption = some a) :
    r = .ok a := by
  cases r with
  | error e => cases h
  | ok b =>
    cases h
    rfl

/-- The text of an equality with a number. -/
theorem isText_equality {n : Number} {numeral : List Char} (h : IsNumeral n numeral) :
    IsText 1 (.value (.object [("id", .number n)]))
      ('\x7b' :: ("\"id\"".toList ++ ':' :: numeral) ++ ['\x7d']) := by
  have hname := Json.isName_self (show "id".toList.all Json.isPlain = true by decide)
  exact .object (.member hname (.number h))

/-- In a group, the largest and the least integer of a word are shown as they are. -/
theorem compileText_operand_group : ∃ left right,
    left ++ "18446744073709551615" ++ right = "(id eq 18446744073709551615)" ∧
      left ++ "-9223372036854775808" ++ right = "(id eq -9223372036854775808)" := by
  have htext (n : Number) (numeral : List Char) (h : IsNumeral n numeral) :
      IsText 4 (.value (.array [.object [("type", .string "group"),
          ("conditions", .array [.object [("id", .number n)]])]]))
        ("[\x7b\"type\":\"group\",\"conditions\":[\x7b\"id\":".toList ++ numeral ++
          "\x7d]\x7d]".toList) := by
    have htype := Json.isName_self (show "type".toList.all Json.isPlain = true by decide)
    have hconditions :=
      Json.isName_self (show "conditions".toList.all Json.isPlain = true by decide)
    have hgroup : IsText 0 (.value (.string "group")) "\"group\"".toList :=
      .string (Json.isBody_self (by decide))
    have hrow := IsText.members htype hgroup
      (.member hconditions (.array (.item (isText_equality h))))
    have hobject : IsText 3 (.value (.object [("type", .string "group"),
        ("conditions", .array [.object [("id", .number n)]])])) _ := .object hrow
    simpa using IsText.array (.item hobject)
  have hoperand : IsOperand fun n => .object (Members.set "id" (.number n) []) :=
    .column rfl (by decide) (by decide)
  have hgroups : (Site.inside [] [("type", .string "group"), ("conditions", .array [])]
      (.list [] []) []).OfGroups := ⟨rfl, rfl, trivial⟩
  obtain ⟨left, right, hshows⟩ := @compileText_operand _ _ _ _ _ _ ⟨2, true⟩ hoperand hgroups
    (fun n => .list _) htext (.inl rfl)
  have hlargest := hshows (.whole 18446744073709551615 (by decide))
    "18446744073709551615".toList "(id eq 18446744073709551615)" (by decide)
    (Json.isNumeral_signedDigits (by decide)) (eq_ok_of_toOption (by decide +kernel))
  have hleast := hshows (.whole (-9223372036854775808) (by decide))
    "-9223372036854775808".toList "(id eq -9223372036854775808)" (by decide)
    (Json.isNumeral_signedDigits (by decide)) (eq_ok_of_toOption (by decide +kernel))
  exact ⟨left, right, hlargest.1.symm, hleast.1.symm⟩

/-- An integer that is one more than the largest is shown as the nearest double. -/
theorem not_compileText_operand : ¬∀ (operand filter : Number → Json.Value)
    (site : Site Json.Value Members) (levels : Nat) (before after : List Char) (options : Options),
    IsOperand operand → site.OfGroups →
    (∀ n, HasEntries (filter n) (site.withEntries [operand n])) →
    (∀ n numeral, IsNumeral n numeral →
      IsText levels (.value (filter n)) (before ++ numeral ++ after)) →
    options.strict = true →
    ∃ left right, ∀ literal f, isInteger literal = true →
      (compileText options (String.ofList (before ++ literal ++ after))).result = .ok f →
        f = left ++ String.ofList literal ++ right := by
  intro h
  have htext (n : Number) (numeral : List Char) (hnumeral : IsNumeral n numeral) :
      IsText 2 (.value (.array [.object [("id", .number n)]]))
        ("[\x7b\"id\":".toList ++ numeral ++ "\x7d]".toList) := by
    simpa using IsText.array (.item (isText_equality hnumeral))
  obtain ⟨left, right, hshows⟩ := h (fun n => .object (Members.set "id" (.number n) [])) _
    (.list [] []) 2 _ _ ⟨32, true⟩ (.column rfl (by decide) (by decide)) trivial
    (fun n => .list _) htext rfl
  have hzero := hshows "0".toList "id eq 0" (by decide) (eq_ok_of_toOption (by decide +kernel))
  have hlarge := hshows "18446744073709551616".toList "id eq 1.8446744073709552e+19" (by decide)
    (eq_ok_of_toOption (by decide +kernel))
  -- What is around the two is as long, but the larger one has got two more characters.
  have hshort : "id eq 0".length = left.length + "0".length + right.length := by
    simpa using congrArg String.length hzero
  have hlong : "id eq 1.8446744073709552e+19".length =
      left.length + "18446744073709551616".length + right.length := by
    simpa using congrArg String.length hlarge
  have hlengths : "id eq 0".length = 7 ∧ "0".length = 1 ∧
      "id eq 1.8446744073709552e+19".length = 28 ∧ "18446744073709551616".length = 20 := by
    decide
  omega

end Operands

end SearchIndex.Filter
