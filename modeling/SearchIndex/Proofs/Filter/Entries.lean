import SearchIndex.Proofs.Filter.Pruning

/-!
# Readings of an entry

What reading an entry comes to, told once for all kinds of entries (`reading`): it is refused, it
gives predicates without groups, or it gives a group around what its conditions give. None of this
depends on the options, on the place of the entry or on the depth that is left, as long as there is
some.

A refusal names the place of the entry. Only the refusal of an object without a tag goes one step
further, to the column whose value is no scalar (`Points`).
-/

namespace SearchIndex.Filter

open Json (Members)

/-! ## Places that errors name -/

/-- The place that an error names. An error that concerns the filter as a whole names none. -/
def Error.path? : Error → Option Path
  | .malformed path _ | .unsupportedKind path _ | .unsupportedOperator path _ => some path
  | .tooDeep _ | .tooLarge _ | .invalidJson _ => none

/-- An error of the reader names the place where it reads. -/
def NamesPlace {α : Type} (read : Path → Field α) : Prop :=
  ∀ path e, read path = .error e → e.path? = some path

section Places

variable {α β : Type} {read : Path → Field α}

/-- Readers one after the other name the place if each of them does. -/
theorem NamesPlace.bind {next : α → Path → Field β} (h : NamesPlace read)
    (hnext : ∀ a, NamesPlace (next a)) :
    NamesPlace fun path => read path >>= fun a => next a path := by
  intro path e he
  cases hread : read path with
  | error e' =>
    simp only [hread] at he
    cases he
    exact h path e hread
  | ok a =>
    simp only [hread] at he
    exact hnext a path e he

/-- A reader names the place whatever is made of its value. -/
theorem NamesPlace.map (h : NamesPlace read) (f : α → β) :
    NamesPlace fun path => (read path).map f :=
  fun path e he => h path e (exists_of_map_eq_error he)

theorem namesPlace_ok (a : α) : NamesPlace fun _ => (.ok a : Field α) := nofun

/-- A defect is reported at the place. -/
theorem namesPlace_malformed (defect : Defect) :
    NamesPlace fun path => (malformed path defect : Field α) := by
  rintro path _ ⟨⟩
  rfl

end Places

section Readers

variable (members : Members)

/-- A value that is no scalar is reported at the place it has been given. -/
theorem namesPlace_readScalar (value : Json.Value) :
    NamesPlace fun path => readScalar path value := by
  unfold readScalar
  cases Scalar.ofJson? value with
  | some s => exact namesPlace_ok s
  | none => exact namesPlace_malformed _

/-- A missing or blank column is reported at the place of the object. -/
theorem namesPlace_readColumn : NamesPlace fun path => readColumn path members := by
  intro path e h
  unfold readColumn malformed at h
  split at h
  · split at h <;> cases h
    rfl
  all_goals
    cases h
    rfl

theorem namesPlace_readOperator : NamesPlace fun path => readOperator path members := by
  intro path e h
  unfold readOperator at h
  split at h
  · cases h
  · cases h
  · split at h <;> cases h
    rfl
  · cases h
    rfl

theorem namesPlace_readValueField : NamesPlace fun path => readValueField path members := by
  unfold readValueField
  cases members.get? "value" with
  | some value => exact namesPlace_readScalar value
  | none => exact namesPlace_malformed _

theorem namesPlace_readMemberList (values : List Json.Value) :
    NamesPlace fun path => readMemberList path values := by
  induction values with
  | nil => exact namesPlace_ok []
  | cons value rest ih =>
    have hread : NamesPlace fun path =>
        readScalar path value >>= fun s => (readMemberList path rest).map (s :: ·) :=
      (namesPlace_readScalar value).bind fun s => ih.map (s :: ·)
    cases value with
    | null => exact namesPlace_malformed _
    | _ => exact hread

theorem namesPlace_readMembersField : NamesPlace fun path => readMembersField path members := by
  unfold readMembersField
  cases members.getEither? "values" "value" with
  | none => exact namesPlace_malformed _
  | some value =>
    cases value with
    | array values => exact namesPlace_readMemberList values
    | _ => exact namesPlace_malformed _

theorem namesPlace_readBoolean : NamesPlace fun path => readBoolean path members := by
  intro path e h
  unfold readBoolean malformed at h
  split at h
  · cases h
  · split at h
    · cases h
    · split at h <;> cases h
      rfl
  all_goals
    cases h
    rfl

theorem namesPlace_readRawText : NamesPlace fun path => readRawText path members := by
  intro path e h
  unfold readRawText malformed at h
  split at h <;> cases h <;> rfl

theorem namesPlace_readConnective : NamesPlace fun path => readConnective path members := by
  intro path e h
  unfold readConnective malformed at h
  split at h
  · cases h
  · cases h
  · split at h <;> cases h
    rfl
  · cases h
    rfl

theorem namesPlace_readNegation : NamesPlace fun path => readNegation path members := by
  intro path e h
  unfold readNegation malformed at h
  split at h <;> cases h
  rfl

theorem namesPlace_readConditions : NamesPlace fun path => readConditions path members := by
  intro path e h
  unfold readConditions malformed at h
  split at h <;> cases h <;> rfl

theorem namesPlace_readKind : NamesPlace fun path => readKind path members := by
  intro path e h
  unfold readKind malformed at h
  split at h
  · split at h <;> cases h
    rfl
  · cases h
    rfl

/-- All fields of a predicate are reported at the place of its object. -/
theorem namesPlace_readLeaf (kind : Kind) : NamesPlace fun path => readLeaf path members kind := by
  have hcolumn := namesPlace_readColumn members
  have hmembers := namesPlace_readMembersField members
  cases kind with
  | basic =>
    refine hcolumn.bind fun column => (namesPlace_readOperator members).bind fun operator => ?_
    exact (namesPlace_readValueField members).map _
  | pattern kind =>
    refine hcolumn.bind fun column => (namesPlace_readValueField members).bind fun value => ?_
    exact (namesPlace_readOperator members).map _
  | isNull => exact hcolumn.map _
  | isNotNull => exact hcolumn.map _
  | isIn => exact hcolumn.bind fun column => hmembers.map _
  | isNotIn => exact hcolumn.bind fun column => hmembers.map _
  | boolean => exact hcolumn.bind fun column => (namesPlace_readBoolean members).map _
  | raw => exact (namesPlace_readRawText members).map _
  | group => exact namesPlace_ok _

theorem namesPlace_readGroupFields : NamesPlace fun path => readGroupFields path members :=
  (namesPlace_readConnective members).bind fun _ => (namesPlace_readNegation members).bind fun _ =>
    (namesPlace_readConditions members).map _

/-- An object without a tag is refused for one of its columns. -/
theorem exists_of_readShorthand_error {path : Path} {e : Error}
    (h : readShorthand path members = .error e) : ∃ column value, (column, value) ∈ members ∧
      isScalar value = false ∧
      e = .malformed (path.push (.member column)) (.scalarType value.typeName) := by
  induction members with
  | nil => cases h
  | cons m rest ih =>
    obtain ⟨column, value⟩ := m
    cases hvalue : Scalar.ofJson? value with
    | none =>
      refine ⟨column, value, List.mem_cons_self, by rw [isScalar, hvalue]; rfl, ?_⟩
      simp only [readShorthand, readScalar, hvalue] at h
      exact (Except.error.inj h).symm
    | some s =>
      have hrest : readShorthand path rest = .error e := by
        simp only [readShorthand, readScalar, hvalue] at h
        exact exists_of_map_eq_error h
      obtain ⟨other, wrong, hmem, hwrong, he⟩ := ih hrest
      exact ⟨other, wrong, List.mem_cons_of_mem _ hmem, hwrong, he⟩

/-- An object without a tag gives one predicate for each column. -/
theorem length_of_readShorthand {path : Path} {ps : List Predicate}
    (h : readShorthand path members = .ok ps) : ps.length = members.length := by
  induction members generalizing ps with
  | nil =>
    cases h
    rfl
  | cons m rest ih =>
    obtain ⟨column, value⟩ := m
    cases hvalue : Scalar.ofJson? value with
    | none =>
      simp only [readShorthand, readScalar, hvalue] at h
      cases h
    | some s =>
      simp only [readShorthand, readScalar, hvalue] at h
      obtain ⟨more, hmore, rfl⟩ := exists_of_map_eq_ok h
      rw [List.length_cons, List.length_cons, ih hmore]

end Readers

/-! ## Readings -/

/-- How many predicates an entry gives, if it gives any. -/
def width : Json.Value → Nat
  | .object members =>
    if isTagged members then if (kind? members).any (fieldsRead members) then 1 else 0
    else if members.all fun (_, value) => isScalar value then members.length else 0
  | .string _ => 1
  | _ => 0

/-- The error of an entry names its place, or the place of a column in it that has no scalar. -/
inductive Points (entry : Json.Value) (path : Path) : Error → Prop
  | here {e : Error} (h : e.path? = some path) : Points entry path e
  | member {members : Members} {column : String} {value : Json.Value}
      (hentry : entry = .object members) (htag : isTagged members = false)
      (hmem : (column, value) ∈ members) (hvalue : isScalar value = false) :
      Points entry path (.malformed (path.push (.member column)) (.scalarType value.typeName))

/-- An error that points at an entry is the entry's own. -/
theorem Points.isLocal {entry : Json.Value} {path : Path} {e : Error} (h : Points entry path e) :
    e.isLocal = true := by
  cases h with
  | here hpath =>
    cases e with
    | malformed _ _ | unsupportedKind _ _ | unsupportedOperator _ _ => rfl
    | tooDeep _ | tooLarge _ | invalidJson _ => cases hpath
  | member => rfl

/-- What reading an entry comes to. -/
inductive Reading (entry : Json.Value) : Prop
  /-- The entry is malformed, and refused where it is read. -/
  | refused (hfits : entryFits entry = false) (hwidth : width entry = 0)
      (hread : ∀ path, ∃ e, Points entry path e ∧
        ∀ options room, readEntry options (room + 1) path entry = .fail e)
  /-- The entry gives predicates without groups. If the compiler finds a defect in one of them, it
  is the only one, and the entry is malformed. -/
  | leaves (ps : List Predicate) (hwidth : width entry = ps.length)
      (hread : ∀ options room path, readEntry options (room + 1) path entry = .ok ps)
      (hleaf : ∀ p ∈ ps, p.isGroup = false)
      (hdefect : ∀ p ∈ ps, ∀ defect, leafClause p = .error defect →
        ps = [p] ∧ entryFits entry = false)
  /-- The entry gives a group of what its conditions give. -/
  | group {members : Members} (connective : Connective) (negated : Bool)
      {entries : List Json.Value} (hentry : entry = .object members)
      (hkind : kind? members = some .group) (hconditions : conditions? members = some entries)
      (hwidth : width entry = 1)
      (hread : ∀ options room path, readEntry options (room + 1) path entry =
        ((Report.each (fun i child => guardedEntry options room (path.push (.condition i)) child)
          0 entries).map List.flatten).map fun ps => [.group connective negated ps])

/-- A predicate without a delimiter in its list has a clause. -/
theorem leafClause_ne_error {p : Predicate} (h : IsLeaf p true) (defect : Defect) :
    leafClause p ≠ .error defect := by
  obtain ⟨text, htext⟩ := leafClause_ok h.noNull h.delimiter
  rw [htext]
  exact nofun

/-- An object without a tag gives an equality for each member, or an error at one of them. -/
theorem reading_untagged {members : Members} (htag : isTagged members = false) :
    Reading (.object members) := by
  have hchecks := checks_readShorthand members
  have hfits := entryFits_of_untagged htag
  have hwidth : width (.object members) =
      if members.all fun (_, value) => isScalar value then members.length else 0 := by
    simp only [width, htag, Bool.false_eq_true, if_false]
  cases hall : members.all fun (_, value) => isScalar value with
  | false =>
    rw [hall] at hchecks hfits hwidth
    refine .refused hfits hwidth fun path => ?_
    obtain ⟨e, he, -⟩ := hchecks.exists_error path
    obtain ⟨column, value, hmem, hvalue, rfl⟩ := exists_of_readShorthand_error members he
    refine ⟨_, .member rfl htag hmem hvalue, fun options room => ?_⟩
    rw [readEntry_shorthand htag, he]
    rfl
  | true =>
    rw [hall] at hchecks hwidth
    obtain ⟨ps, hps, hread⟩ := hchecks.exists_ok
    refine .leaves ps ?_ (fun options room path => ?_) (fun p hp => (hps p hp).isGroup)
      (fun p hp defect hdefect => absurd hdefect (leafClause_ne_error (hps p hp) defect))
    · rw [hwidth, length_of_readShorthand members (hread Path.root)]
      rfl
    · rw [readEntry_shorthand htag, hread path]
      rfl

section Tagged

variable {members : Members} {kind : Kind}

/-- A tagged object whose fields are read gives one predicate. -/
theorem width_of_kind? (hkind : kind? members = some kind) :
    width (.object members) = if fieldsRead members kind then 1 else 0 := by
  simp only [width, isTagged_of_kind? members hkind, if_true, hkind, Option.any_some]

/-- An object that gives a predicate has the fields of its kind. -/
theorem fieldsRead_of_width (hkind : kind? members = some kind)
    (hwidth : width (.object members) = 1) : fieldsRead members kind = true := by
  by_contra hnot
  rw [width_of_kind? hkind, if_neg hnot] at hwidth
  cases hwidth

/-- An object whose tag names no kind is refused. -/
theorem reading_unkind (htag : isTagged members = true) (hkind : kind? members = none) :
    Reading (.object members) := by
  have hchecks := checks_readKind members
  rw [hkind] at hchecks
  have hfits : entryFits (.object members) = false := by
    simp only [entryFits, htag, if_true, hkind]
  have hwidth : width (.object members) = 0 := by
    simp only [width, htag, if_true, hkind, Option.any_none, Bool.false_eq_true, if_false]
  refine .refused hfits hwidth fun path => ?_
  obtain ⟨e, he, -⟩ := hchecks.exists_error path
  exact ⟨e, .here (namesPlace_readKind members path e he),
    fun options room => readEntry_kind_error htag he⟩

/-- An object of any other kind is refused for one of its fields, or gives one predicate. -/
theorem reading_leaf (hkind : kind? members = some kind) (hgroup : kind ≠ .group) :
    Reading (.object members) := by
  have htag := isTagged_of_kind? members hkind
  have hchecks := checks_readLeaf members hgroup
  have hfits := entryFits_eq hkind
  rw [fieldsFit] at hfits
  have hwidth := width_of_kind? hkind
  cases hfields : fieldsRead members kind with
  | false =>
    rw [hfields] at hchecks hfits hwidth
    refine .refused hfits hwidth fun path => ?_
    obtain ⟨e, he, -⟩ := hchecks.exists_error path
    refine ⟨e, .here (namesPlace_readLeaf members kind path e he), fun options room => ?_⟩
    rw [readEntry_leaf htag (readKind_eq hkind path) hgroup, he]
    rfl
  | true =>
    rw [hfields] at hchecks hfits hwidth
    obtain ⟨p, hp, hread⟩ := hchecks.exists_ok
    refine .leaves [p] hwidth (fun options room path => ?_) (fun q hq => ?_)
      (fun q hq defect h => ?_)
    · rw [readEntry_leaf htag (readKind_eq hkind path) hgroup, hread path]
      rfl
    · obtain rfl := List.mem_singleton.1 hq
      exact hp.isGroup
    · obtain rfl := List.mem_singleton.1 hq
      -- Only a delimiter makes the clause of a leaf fail, and the entry shows it already.
      cases hdelimiter : delimiterFits members kind with
      | true =>
        rw [hdelimiter] at hp
        exact absurd h (leafClause_ne_error hp defect)
      | false =>
        rw [hdelimiter] at hfits
        exact ⟨rfl, hfits⟩

/-- A group is refused for one of its fields, or gives a group of what its conditions give. -/
theorem reading_group (hkind : kind? members = some .group) : Reading (.object members) := by
  have htag := isTagged_of_kind? members hkind
  have hchecks := checks_readGroupFields members
  have hfits := entryFits_eq hkind
  rw [fieldsFit] at hfits
  have hwidth := width_of_kind? hkind
  cases hfields : fieldsRead members .group with
  | false =>
    rw [hfields] at hchecks hfits hwidth
    refine .refused hfits hwidth fun path => ?_
    obtain ⟨e, he, -⟩ := hchecks.exists_error path
    exact ⟨e, .here (namesPlace_readGroupFields members path e he),
      fun options room => readEntry_group_error htag (readKind_eq hkind path) he⟩
  | true =>
    rw [hfields] at hchecks hwidth
    obtain ⟨⟨connective, negated, entries⟩, hconditions, hread⟩ := hchecks.exists_ok
    exact .group connective negated rfl hkind hconditions hwidth fun options room path =>
      readEntry_group htag (readKind_eq hkind path) (hread path)

end Tagged

/-- The reading of any entry. -/
theorem reading (entry : Json.Value) : Reading entry := by
  cases entry with
  | object members =>
    cases htag : isTagged members with
    | false => exact reading_untagged htag
    | true =>
      cases hkind : kind? members with
      | none => exact reading_unkind htag hkind
      | some kind =>
        by_cases hgroup : kind = .group
        · subst hgroup
          exact reading_group hkind
        · exact reading_leaf hkind hgroup
  | string text =>
    refine .leaves [.fragment text] rfl (fun options room path => rfl) (fun p hp => ?_)
      (fun p hp defect h => ?_)
    · obtain rfl := List.mem_singleton.1 hp
      rfl
    · obtain rfl := List.mem_singleton.1 hp
      cases h
  | null | bool _ | number _ | array _ =>
    exact .refused rfl rfl fun path => ⟨_, .here rfl, fun options room => rfl⟩

end SearchIndex.Filter
