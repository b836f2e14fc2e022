import SearchIndex.Filter.Reading
import SearchIndex.Proofs.Filter.Tree

/-!
# Well-formed entries

When the fields of an entry are as they should be, told apart from how they are read, and that
reading finds exactly that: a field that fits gives a result, which does not depend on the place of
the entry, and one that does not gives an error of the entry's own (`Checks`). Entries in a group are
no matter here; they have fields of their own.
-/

namespace SearchIndex.Filter

open Json (Members)

/-! ## Fields as they should be -/

/-- The value is no container. -/
def isScalar (value : Json.Value) : Bool :=
  (Scalar.ofJson? value).isSome

/-- The value is a scalar other than null. -/
def isElement : Json.Value → Bool
  | .null => false
  | value => isScalar value

/-- The value is a string with the delimiter of membership lists in it. -/
def hasDelimiter : Json.Value → Bool
  | .string s => s.toList.contains delimiter
  | _ => false

/-- The scalar is a string with that delimiter in it. -/
def Scalar.hasDelimiter : Scalar → Bool
  | .string s => s.toList.contains delimiter
  | _ => false

section Fields

variable (members : Members)

def columnFits : Bool :=
  match members.getEither? "column" "field" with
  | some (.string s) => !Text.isBlankText s
  | _ => false

/-- An operator may be left out. -/
def operatorFits : Bool :=
  match members.get? "operator" with
  | none | some .null => true
  | some (.string s) => (Operator.parse s).isOk
  | some _ => false

def valueFits : Bool :=
  match members.get? "value" with
  | some value => isScalar value
  | none => false

/-- The values of a membership list, if it is one. -/
def listed? : Option (List Json.Value) :=
  match members.getEither? "values" "value" with
  | some (.array values) => some values
  | _ => none

def listReads : Bool :=
  match listed? members with
  | some values => values.all isElement
  | none => false

/-- No value of the list has the delimiter in it. -/
def listParts : Bool :=
  match listed? members with
  | some values => !values.any hasDelimiter
  | none => false

def booleanFits : Bool :=
  match members.get? "value" with
  | some (.bool _) => true
  | some (.number n) => n.toNat? = some 0 || n.toNat? = some 1
  | _ => false

def rawTextFits : Bool :=
  match (members.get? "rawExpression").orElse fun _ => members.getEither? "sql" "expression" with
  | some (.string _) => true
  | _ => false

/-- A connective may be left out. -/
def connectiveFits : Bool :=
  match members.getEither? "connective" "boolean" with
  | none | some .null => true
  | some (.string s) => (Connective.parse s).isOk
  | some _ => false

/-- A negation may be left out. -/
def negationFits : Bool :=
  match members.get? "not" with
  | none | some .null | some (.bool _) => true
  | some _ => false

/-- The entries of a group. -/
def conditions? : Option (List Json.Value) :=
  match members.get? "conditions" with
  | some (.array entries) => some entries
  | _ => none

/-- The kind that the tag of an object names. -/
def kind? : Option Kind :=
  match members.getEither? "type" "kind" with
  | some (.string tag) => Kind.ofTag? tag
  | _ => none

/-- The fields of a predicate can be read. -/
def fieldsRead : Kind → Bool
  | .basic => columnFits members && operatorFits members && valueFits members
  | .pattern _ => columnFits members && valueFits members && operatorFits members
  | .isNull | .isNotNull => columnFits members
  | .isIn | .isNotIn => columnFits members && listReads members
  | .boolean => columnFits members && booleanFits members
  | .raw => rawTextFits members
  | .group => connectiveFits members && negationFits members && (conditions? members).isSome

/-- If the predicate is a membership test, no value of its list has the delimiter in it. -/
def delimiterFits : Kind → Bool
  | .isIn | .isNotIn => listParts members
  | _ => true

/-- The fields of a predicate are as they should be. -/
def fieldsFit (kind : Kind) : Bool :=
  fieldsRead members kind && delimiterFits members kind

end Fields

/-- The entry is well-formed by itself, whatever the entries are that are nested in it. -/
def entryFits : Json.Value → Bool
  | .object members =>
    if isTagged members then
      match kind? members with
      | some kind => fieldsFit members kind
      | none => false
    else members.all fun (_, value) => isScalar value
  | .string _ => true
  | _ => false

/-- An object without a tag has scalars for its columns. -/
theorem entryFits_of_untagged {members : Members} (htag : isTagged members = false) :
    entryFits (.object members) = members.all fun (_, value) => isScalar value := by
  simp only [entryFits, htag, Bool.false_eq_true, if_false]

/-! ## Reading of fields -/

/-- What is read at a place is the same at each, and as it should be if the field fits; otherwise it
is an error of the entry's own. -/
def Checks {α : Type} (fits : Bool) (read : Path → Field α) (Q : α → Prop) : Prop :=
  if fits then ∃ a, Q a ∧ ∀ path, read path = .ok a
  else ∀ path, ∃ e, read path = .error e ∧ e.isLocal = true

section Checks

variable {α β : Type} {fits fits' : Bool} {read : Path → Field α} {Q : α → Prop}

theorem checks_ok {a : α} (hread : ∀ path, read path = .ok a) (h : Q a) : Checks true read Q :=
  ⟨a, h, hread⟩

theorem checks_error (h : ∀ path, ∃ e, read path = .error e ∧ e.isLocal = true) :
    Checks false read Q := h

/-- A defect is an error of the entry's own. -/
theorem checks_malformed (defect : Defect) :
    Checks false (fun path => (malformed path defect : Field α)) Q :=
  fun path => ⟨.malformed path defect, rfl, rfl⟩

/-- What fits is read with the same value at every place. -/
theorem Checks.exists_ok (h : Checks true read Q) : ∃ a, Q a ∧ ∀ path, read path = .ok a := h

/-- What does not fit is an error of the entry's own. -/
theorem Checks.exists_error (h : Checks false read Q) (path : Path) :
    ∃ e, read path = .error e ∧ e.isLocal = true := h path

/-- What follows from a property of the value holds of it. -/
theorem Checks.mono {R : α → Prop} (h : Checks fits read Q) (hQ : ∀ a, Q a → R a) :
    Checks fits read R := by
  cases fits with
  | false => exact h
  | true =>
    obtain ⟨a, ha, hread⟩ := h
    exact ⟨a, hQ a ha, hread⟩

/-- A change of the value changes its property. -/
theorem Checks.map {f : α → β} {R : β → Prop} (h : Checks fits read Q) (hf : ∀ a, Q a → R (f a)) :
    Checks fits (fun path => (read path).map f) R := by
  cases fits with
  | false =>
    intro path
    obtain ⟨e, he, hlocal⟩ := h path
    refine ⟨e, ?_, hlocal⟩
    simp only [he, Except.map]
  | true =>
    obtain ⟨a, ha, hread⟩ := h
    refine ⟨f a, hf a ha, fun path => ?_⟩
    simp only [hread path, Except.map]

/-- The field may be read at another place. -/
theorem Checks.at (h : Checks fits read Q) (place : Path → Path) :
    Checks fits (fun path => read (place path)) Q := by
  cases fits with
  | false => exact fun path => h (place path)
  | true =>
    obtain ⟨a, ha, hread⟩ := h
    exact ⟨a, ha, fun path => hread (place path)⟩

/-- One field after the other. -/
theorem Checks.bind {next : α → Path → Field β} {R : β → Prop} (h : Checks fits read Q)
    (hnext : ∀ a, Q a → Checks fits' (next a) R) :
    Checks (fits && fits') (fun path => read path >>= fun a => next a path) R := by
  cases fits with
  | false =>
    intro path
    obtain ⟨e, he, hlocal⟩ := h path
    exact ⟨e, by simp only [he, bind, Except.bind], hlocal⟩
  | true =>
    obtain ⟨a, ha, hread⟩ := h
    have hsame : (fun path => read path >>= fun a => next a path) = next a := by
      funext path
      rw [hread path]
      rfl
    rw [hsame, Bool.true_and]
    exact hnext a ha

end Checks

/-! ## Each field -/

section Readers

variable (members : Members)

/-- A scalar is read where there is one. -/
theorem checks_readScalar (value : Json.Value) :
    Checks (isScalar value) (fun path => readScalar path value)
      fun s => Scalar.ofJson? value = some s := by
  simp only [isScalar, readScalar]
  cases Scalar.ofJson? value with
  | none => exact checks_malformed _
  | some s => exact checks_ok (fun _ => rfl) rfl

/-- A column is read if it is a text that is not blank. -/
theorem checks_readColumn :
    Checks (columnFits members) (fun path => readColumn path members) fun _ => True := by
  simp only [columnFits, readColumn]
  generalize members.getEither? "column" "field" = field
  cases field with
  | none => exact checks_malformed _
  | some value =>
    cases value with
    | string s =>
      cases hblank : Text.isBlankText s with
      | true => simpa only [hblank, Bool.not_true, if_true] using checks_malformed .emptyColumn
      | false =>
        simp only [hblank, Bool.not_false, Bool.false_eq_true, if_false]
        exact checks_ok (fun _ => rfl) trivial
    | _ => exact checks_malformed _

/-- An operator is read if there is none, or one that is known. -/
theorem checks_readOperator :
    Checks (operatorFits members) (fun path => readOperator path members) fun _ => True := by
  simp only [operatorFits, readOperator]
  generalize members.get? "operator" = field
  cases field with
  | none => exact checks_ok (fun _ => rfl) trivial
  | some value =>
    cases value with
    | null => exact checks_ok (fun _ => rfl) trivial
    | string s =>
      simp only
      cases Operator.parse s with
      | ok op => exact checks_ok (fun _ => rfl) trivial
      | error key => exact checks_error fun path => ⟨.unsupportedOperator path s, rfl, rfl⟩
    | _ => exact checks_error fun path => ⟨.unsupportedOperator path _, rfl, rfl⟩

/-- A value is read if it is a scalar. -/
theorem checks_readValueField :
    Checks (valueFits members) (fun path => readValueField path members) fun _ => True := by
  simp only [valueFits, readValueField]
  cases members.get? "value" with
  | none => exact checks_malformed _
  | some value => exact (checks_readScalar value).mono fun _ _ => trivial

/-- An element is read as a scalar that is like it. -/
theorem checks_readElement (value : Json.Value) (h : value ≠ .null) :
    Checks (isElement value) (fun path => readScalar path value) fun s =>
      s.isNull = false ∧ s.hasDelimiter = hasDelimiter value := by
  cases value with
  | null => exact absurd rfl h
  | bool _ | number _ | string _ => exact checks_ok (fun _ => rfl) ⟨rfl, rfl⟩
  | array _ | object _ => exact checks_malformed _

/-- A list is read if its values are scalars other than null, and keeps its delimiters. -/
theorem checks_readMemberList (values : List Json.Value) :
    Checks (values.all isElement) (fun path => readMemberList path values) fun list =>
      list.any Scalar.isNull = false ∧ list.any Scalar.hasDelimiter = values.any hasDelimiter := by
  induction values with
  | nil => exact checks_ok (fun _ => rfl) ⟨rfl, rfl⟩
  | cons value rest ih =>
    by_cases hnull : value = .null
    · subst hnull
      exact checks_malformed _
    · have hread : (fun path => readMemberList path (value :: rest)) = fun path =>
          readScalar path value >>= fun s => (readMemberList path rest).map (s :: ·) := by
        funext path
        cases value with
        | null => exact absurd rfl hnull
        | _ => rfl
      rw [hread, List.all_cons, List.any_cons]
      refine (checks_readElement value hnull).bind fun s hs => ih.map fun list hlist => ?_
      rw [List.any_cons, List.any_cons, hs.1, hs.2, hlist.1, hlist.2]
      exact ⟨rfl, rfl⟩

theorem checks_readMembersField :
    Checks (listReads members) (fun path => readMembersField path members) fun list =>
      list.any Scalar.isNull = false ∧ list.any Scalar.hasDelimiter = !listParts members := by
  simp only [listReads, listParts, listed?, readMembersField]
  generalize members.getEither? "values" "value" = field
  cases field with
  | none => exact checks_malformed _
  | some value =>
    cases value with
    | array values =>
      simp only [Bool.not_not]
      exact checks_readMemberList values
    | _ => exact checks_malformed _

/-- A truth value is read if it is one. -/
theorem checks_readBoolean :
    Checks (booleanFits members) (fun path => readBoolean path members) fun _ => True := by
  simp only [booleanFits, readBoolean]
  generalize members.get? "value" = field
  cases field with
  | none => exact checks_malformed _
  | some value =>
    cases value with
    | bool b => exact checks_ok (fun _ => rfl) trivial
    | number n =>
      simp only
      by_cases hzero : n.toNat? = some 0
      · simp only [hzero, decide_true, Bool.true_or, if_true]
        exact checks_ok (fun _ => rfl) trivial
      · by_cases hone : n.toNat? = some 1
        · simp only [hone, decide_true, Bool.or_true, if_true]
          exact checks_ok (fun _ => rfl) trivial
        · simp only [hzero, hone, decide_false, Bool.or_false, if_false]
          exact checks_malformed _
    | _ => exact checks_malformed _

/-- The text of a raw predicate is read if there is one. -/
theorem checks_readRawText :
    Checks (rawTextFits members) (fun path => readRawText path members) fun _ => True := by
  simp only [rawTextFits, readRawText]
  generalize ((members.get? "rawExpression").orElse fun _ =>
    members.getEither? "sql" "expression") = field
  cases field with
  | none => exact checks_malformed _
  | some value =>
    cases value with
    | string s => exact checks_ok (fun _ => rfl) trivial
    | _ => exact checks_malformed _

/-- A connective is read if there is none, or one that is known. -/
theorem checks_readConnective :
    Checks (connectiveFits members) (fun path => readConnective path members) fun _ => True := by
  simp only [connectiveFits, readConnective]
  generalize members.getEither? "connective" "boolean" = field
  cases field with
  | none => exact checks_ok (fun _ => rfl) trivial
  | some value =>
    cases value with
    | null => exact checks_ok (fun _ => rfl) trivial
    | string s =>
      simp only
      cases Connective.parse s with
      | ok c => exact checks_ok (fun _ => rfl) trivial
      | error key => exact checks_malformed _
    | _ => exact checks_malformed _

/-- A negation is read if there is none, or a truth value. -/
theorem checks_readNegation :
    Checks (negationFits members) (fun path => readNegation path members) fun _ => True := by
  simp only [negationFits, readNegation]
  generalize members.get? "not" = field
  cases field with
  | none => exact checks_ok (fun _ => rfl) trivial
  | some value =>
    cases value with
    | null | bool _ => exact checks_ok (fun _ => rfl) trivial
    | _ => exact checks_malformed _

/-- Conditions are read if they are a list. -/
theorem checks_readConditions :
    Checks (conditions? members).isSome (fun path => readConditions path members) fun entries =>
      conditions? members = some entries := by
  simp only [conditions?, readConditions]
  generalize members.get? "conditions" = field
  cases field with
  | none => exact checks_malformed _
  | some value =>
    cases value with
    | array entries => exact checks_ok (fun _ => rfl) rfl
    | _ => exact checks_malformed _

/-- A kind is read if the tag names one. -/
theorem checks_readKind :
    Checks (kind? members).isSome (fun path => readKind path members) fun kind =>
      kind? members = some kind := by
  simp only [kind?, readKind]
  generalize members.getEither? "type" "kind" = field
  cases field with
  | none => exact checks_malformed _
  | some value =>
    cases value with
    | string tag =>
      simp only
      cases Kind.ofTag? tag with
      | some kind => exact checks_ok (fun _ => rfl) rfl
      | none => exact checks_error fun path => ⟨.unsupportedKind path _, rfl, rfl⟩
    | _ => exact checks_malformed _

/-! ## Predicates and groups -/

/-- The predicate is no group, and its list, if it is a membership test, has no null. -/
structure IsLeaf (p : Predicate) (parts : Bool) : Prop where
  isGroup : p.isGroup = false
  noNull : p.members.any Scalar.isNull = false
  delimiter : p.members.any Scalar.hasDelimiter = !parts

/-- A pattern is no group and has no list, whatever its operator says. -/
theorem isLeaf_patternWith (column : String) (kind : PatternKind) (value : Scalar)
    (operator : Option Operator) : IsLeaf (patternWith column kind value operator) true := by
  match operator with
  | none | some (.pattern _) | some (.comparison _) => exact ⟨rfl, rfl, rfl⟩

/-- A predicate other than a group is read if all of its fields are. -/
theorem checks_readLeaf {kind : Kind} (hkind : kind ≠ .group) :
    Checks (fieldsRead members kind) (fun path => readLeaf path members kind) fun p =>
      IsLeaf p (delimiterFits members kind) := by
  have hcolumn := checks_readColumn members
  -- One case for each kind: the checks of its fields, in the order in which they are read.
  cases kind with
  | basic =>
    rw [fieldsRead, Bool.and_assoc]
    refine hcolumn.bind fun column _ => (checks_readOperator members).bind fun operator _ => ?_
    exact (checks_readValueField members).map fun value _ => ⟨rfl, rfl, rfl⟩
  | pattern kind =>
    rw [fieldsRead, Bool.and_assoc]
    refine hcolumn.bind fun column _ => (checks_readValueField members).bind fun value _ => ?_
    exact (checks_readOperator members).map fun operator _ =>
      isLeaf_patternWith column kind value operator
  | isNull => exact hcolumn.map fun column _ => ⟨rfl, rfl, rfl⟩
  | isNotNull => exact hcolumn.map fun column _ => ⟨rfl, rfl, rfl⟩
  | isIn =>
    refine hcolumn.bind fun column _ => ?_
    exact (checks_readMembersField members).map fun list hlist => ⟨rfl, hlist.1, hlist.2⟩
  | isNotIn =>
    refine hcolumn.bind fun column _ => ?_
    exact (checks_readMembersField members).map fun list hlist => ⟨rfl, hlist.1, hlist.2⟩
  | boolean =>
    refine hcolumn.bind fun column _ => ?_
    exact (checks_readBoolean members).map fun value _ => ⟨rfl, rfl, rfl⟩
  | raw => exact (checks_readRawText members).map fun text _ => ⟨rfl, rfl, rfl⟩
  | group => exact absurd rfl hkind

/-- A group is read if all of its fields are, conditions included. -/
theorem checks_readGroupFields :
    Checks (fieldsRead members .group) (fun path => readGroupFields path members) fun fields =>
      conditions? members = some fields.2.2 := by
  rw [fieldsRead, Bool.and_assoc]
  refine (checks_readConnective members).bind fun connective _ =>
    (checks_readNegation members).bind fun negated _ => ?_
  exact (checks_readConditions members).map fun entries h => h

/-- An object without a tag is read if all its values are scalars. -/
theorem checks_readShorthand :
    Checks (members.all fun (_, value) => isScalar value) (fun path => readShorthand path members)
      fun ps => ∀ p ∈ ps, IsLeaf p true := by
  induction members with
  | nil => exact checks_ok (fun _ => rfl) nofun
  | cons m rest ih =>
    obtain ⟨column, value⟩ := m
    refine ((checks_readScalar value).at (·.push (.member column))).bind fun s _ => ?_
    exact ih.map fun ps hps => List.forall_mem_cons.2 ⟨⟨rfl, rfl, rfl⟩, hps⟩

/-- The conditions of a group are its member of that name. -/
theorem get?_of_conditions? {entries : List Json.Value} (h : conditions? members = some entries) :
    members.get? "conditions" = some (.array entries) := by
  unfold conditions? at h
  split at h
  · next hfound =>
    cases h
    exact hfound
  · cases h

theorem readConditions_of_conditions? {entries : List Json.Value}
    (h : conditions? members = some entries) (path : Path) :
    readConditions path members = .ok entries := by
  simp only [readConditions, get?_of_conditions? members h]

/-- The entries of a group are those that its fields give. -/
theorem entries_of_readGroupFields {entries : List Json.Value} {path : Path}
    {fields : Connective × Bool × List Json.Value} (h : conditions? members = some entries)
    (hfields : readGroupFields path members = .ok fields) : fields.2.2 = entries := by
  rw [readGroupFields, readConditions_of_conditions? members h] at hfields
  cases hconnective : readConnective path members with
  | error e =>
    rw [hconnective] at hfields
    cases hfields
  | ok connective =>
    cases hnegation : readNegation path members with
    | error e =>
      rw [hconnective, hnegation] at hfields
      cases hfields
    | ok negated =>
      rw [hconnective, hnegation] at hfields
      cases hfields
      rfl

/-- A group with other conditions has the same fields beside them. -/
theorem readGroupFields_set {entries : List Json.Value} (h : conditions? members = some entries)
    (more : List Json.Value) (path : Path) :
    readGroupFields path (members.set "conditions" (.array more)) =
      (readGroupFields path members).map fun fields => (fields.1, fields.2.1, more) := by
  have hother (name : String) (hname : name ≠ "conditions") :
      Members.get? (members.set "conditions" (.array more)) name = members.get? name :=
    Members.get?_set_ne members _ hname
  have hconnective : readConnective path (members.set "conditions" (.array more)) =
      readConnective path members := by
    simp only [readConnective, Members.getEither?, hother "connective" (by decide),
      hother "boolean" (by decide)]
  have hnegation : readNegation path (members.set "conditions" (.array more)) =
      readNegation path members := by
    simp only [readNegation, hother "not" (by decide)]
  have hmore : readConditions path (members.set "conditions" (.array more)) = .ok more := by
    simp only [readConditions, Members.get?_set_self]
  unfold readGroupFields
  rw [hconnective, hnegation, hmore, readConditions_of_conditions? members h]
  cases readConnective path members with
  | error e => rfl
  | ok connective => cases readNegation path members <;> rfl

/-- A kind is known from a tag only. -/
theorem isTagged_of_kind? {kind : Kind} (h : kind? members = some kind) :
    isTagged members = true := by
  simp only [kind?] at h
  simp only [isTagged]
  split at h
  · next htag =>
    rw [htag]
    rfl
  · cases h

/-- A group with other conditions has the same tag. -/
theorem tag_set (more : Json.Value) :
    isTagged (members.set "conditions" more) = isTagged members ∧
      kind? (members.set "conditions" more) = kind? members := by
  have hother (name : String) (hname : name ≠ "conditions") :
      Members.get? (members.set "conditions" more) name = members.get? name :=
    Members.get?_set_ne members _ hname
  simp only [isTagged, kind?, Members.getEither?, hother "type" (by decide),
    hother "kind" (by decide), and_self]

end Readers

end SearchIndex.Filter
