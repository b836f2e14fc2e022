import SearchIndex.Proofs.Filter.Sites
import SearchIndex.Proofs.Filter.Spelling

/-!
# Objects without a tag

An object without a tag says of each of its members that a column equals a value. Each member could
have been an entry of its own instead, with the tag `Basic` (`equalityEntry`). As long as each of
them is fit for that, the two forms are read as the same predicates.

They part where a member is not fit. As an entry of its own it is dropped by itself. In the object,
a member whose value is no scalar takes all the others with it, although the drop names that member
only; and a blank column is no reason to drop anything (`readPredicates_shorthand`).
-/

namespace SearchIndex.Filter

open Json (Members)

/-! ## Members and their equalities -/

/-- The equality that a member stands for, if its value is a scalar. -/
def equality? (m : String × Json.Value) : Option Predicate :=
  (Scalar.ofJson? m.2).map (.basic m.1 (.comparison .eq))

/-- The equalities that members stand for. -/
def equalities (members : Members) : List Predicate :=
  members.filterMap equality?

/-- What lenient work gives for an object without a tag. -/
def keptEqualities (members : Members) : List Predicate :=
  if members.all fun m => isScalar m.2 then equalities members else []

/-- What lenient work drops for an object without a tag: all of it, for the first of its members
that has no scalar. -/
def shorthandDrops (path : Path) (members : Members) : List Dropped :=
  ((members.find? fun m => !isScalar m.2).map fun m =>
    ⟨path, none, .malformed (path.push (.member m.1)) (.scalarType m.2.typeName)⟩).toList

/-- The fields of a member that is an entry of its own. -/
def equalityFields (m : String × Json.Value) : Members :=
  [("type", .string "Basic"), ("column", .string m.1), ("value", m.2)]

/-- A member as an entry of its own. -/
def equalityEntry (m : String × Json.Value) : Json.Value :=
  .object (equalityFields m)

/-- The member is fit for an entry of its own. -/
def isEquality (m : String × Json.Value) : Bool :=
  !Text.isBlankText m.1 && isScalar m.2

section Equalities

variable {m : String × Json.Value} {members : Members}

/-- A member stands for an equality if it has a scalar. -/
theorem isSome_equality? : (equality? m).isSome = isScalar m.2 := by
  rw [equality?, isScalar, Option.isSome_map]

theorem equalities_cons (m : String × Json.Value) (rest : Members) :
    equalities (m :: rest) = (equality? m).toList ++ equalities rest := by
  rw [equalities, List.filterMap_cons]
  cases equality? m <;> rfl

/-- The equalities of two lists of members follow each other. -/
theorem equalities_append (members more : Members) :
    equalities (members ++ more) = equalities members ++ equalities more :=
  List.filterMap_append

/-- Members stand for no equality if none of them has a scalar. -/
theorem equalities_eq_nil_iff :
    equalities members = [] ↔ ∀ m ∈ members, isScalar m.2 = false := by
  rw [equalities, List.filterMap_eq_nil_iff]
  refine forall₂_congr fun m _ => ?_
  rw [← isSome_equality?, Option.isSome_eq_false_iff, Option.isNone_iff_eq_none]

/-- There is one equality for each member that has a scalar. -/
theorem length_equalities : (equalities members).length = members.countP fun m => isScalar m.2 := by
  rw [equalities, List.length_filterMap_eq_countP]
  refine List.countP_congr fun m _ => ?_
  rw [isSome_equality?]

/-- Both forms give the same if all members are fit to be entries of their own, and if the object is
lost where none of its members is. -/
theorem keptEqualities_eq_iff : keptEqualities members = equalities (members.filter isEquality) ↔
    (∀ m ∈ members, isEquality m = true) ∨
      (∃ m ∈ members, isScalar m.2 = false) ∧ ∀ m ∈ members, isEquality m = false := by
  have hscalar (m : String × Json.Value) (hm : isEquality m = true) : isScalar m.2 = true :=
    (Bool.and_eq_true_iff.1 hm).2
  -- The one list is part of the other, so it is enough to count.
  have hlength : (equalities (members.filter isEquality)).length = members.countP isEquality := by
    rw [length_equalities, List.countP_filter]
    refine List.countP_congr fun m _ => ?_
    rw [Bool.and_eq_true_iff, and_iff_right_of_imp (hscalar m)]
  unfold keptEqualities
  by_cases hall : ∀ m ∈ members, isScalar m.2 = true
  · have hnone : ¬∃ m ∈ members, isScalar m.2 = false := by
      rintro ⟨m, hm, hfalse⟩
      rw [hall m hm] at hfalse
      cases hfalse
    rw [if_pos (List.all_eq_true.2 hall), or_iff_left fun h => hnone h.1]
    constructor
    · intro h
      have hcount := congrArg List.length h
      rw [hlength, length_equalities, List.countP_eq_length.2 hall] at hcount
      exact List.countP_eq_length.1 hcount.symm
    · intro h
      rw [List.filter_eq_self.2 h]
  · have hsome : ∃ m ∈ members, isScalar m.2 = false := by simpa using hall
    rw [if_neg (mt List.all_eq_true.1 hall), and_iff_right hsome,
      or_iff_right fun h => hall fun m hm => hscalar m (h m hm), eq_comm,
      ← List.length_eq_zero_iff, hlength, List.countP_eq_zero]
    simp only [Bool.not_eq_true]

/-- All equalities of the scalars are kept if the object has nothing else, or no scalar at all. -/
theorem keptEqualities_eq_equalities_iff : keptEqualities members = equalities members ↔
    (∀ m ∈ members, isScalar m.2 = true) ∨ ∀ m ∈ members, isScalar m.2 = false := by
  unfold keptEqualities
  by_cases hall : ∀ m ∈ members, isScalar m.2 = true
  · rw [if_pos (List.all_eq_true.2 hall)]
    exact ⟨fun _ => .inl hall, fun _ => rfl⟩
  · rw [if_neg (mt List.all_eq_true.1 hall), eq_comm, equalities_eq_nil_iff,
      or_iff_right hall]

end Equalities

/-! ## Reading of the two forms -/

section Reading

variable {maxDepth room : Nat} {members : Members}

/-- The first member that has no scalar ends the reading of an object without a tag. -/
theorem readShorthand_eq (path : Path) (members : Members) : readShorthand path members =
    ((members.find? fun m => !isScalar m.2).map fun m => Error.malformed
      (path.push (.member m.1)) (.scalarType m.2.typeName)).elim (.ok (equalities members))
        .error := by
  induction members with
  | nil => rfl
  | cons m rest ih =>
    rw [List.find?_cons, readShorthand, readScalar]
    cases hvalue : Scalar.ofJson? m.2 with
    | none =>
      have hwrong : isScalar m.2 = false := by rw [isScalar, hvalue]; rfl
      rw [hwrong]
      rfl
    | some s =>
      have hright : isScalar m.2 = true := by rw [isScalar, hvalue]; rfl
      simp only [hright, ih, equalities_cons, equality?, hvalue]
      cases rest.find? fun m => !isScalar m.2 <;> rfl

/-- An object without a tag that is read has scalars only, and gives all their equalities. -/
theorem readShorthand_eq_ok_iff {path : Path} {ps : List Predicate} :
    readShorthand path members = .ok ps ↔
      (∀ m ∈ members, isScalar m.2 = true) ∧ equalities members = ps := by
  have hfind : (members.find? fun m => !isScalar m.2) = none ↔
      ∀ m ∈ members, isScalar m.2 = true := by simp
  rw [readShorthand_eq, ← hfind]
  cases members.find? fun m => !isScalar m.2 with
  | none => simp
  | some m => simp

/-- Lenient work takes an object without a tag as a whole, or drops it as a whole. -/
theorem guardedEntry_shorthand (htag : isTagged members = false) (path : Path) :
    guardedEntry ⟨maxDepth, false⟩ (room + 1) path (.object members) =
      ⟨shorthandDrops path members, .ok (keptEqualities members)⟩ := by
  rw [guardedEntry, readEntry_shorthand htag, readShorthand_eq, shorthandDrops, keptEqualities]
  cases hfind : members.find? fun m => !isScalar m.2 with
  | none =>
    have hall : (members.all fun m => isScalar m.2) = true := by simpa using hfind
    rw [hall]
    rfl
  | some m =>
    have hall : (members.all fun m => isScalar m.2) = false := by
      rw [List.all_eq_false]
      exact ⟨m, List.mem_of_find?_eq_some hfind, by simpa using List.find?_some hfind⟩
    rw [hall]
    rfl

/-- An object without a tag stands for the equalities that are kept of it. -/
theorem standFor_shorthand (maxDepth : Nat) (htag : isTagged members = false) :
    StandFor maxDepth [.object members] (keptEqualities members) :=
  fun room => yields_singleton fun path => by rw [guardedEntry_shorthand htag]; rfl

/-- The fields of an equality are read as it, unless its column is blank. -/
theorem readLeaf_equalityFields (path : Path) (m : String × Json.Value) :
    readLeaf path (equalityFields m) .basic =
      if Text.isBlankText m.1 then malformed path .emptyColumn
      else (readScalar path m.2).map (.basic m.1 (.comparison .eq)) := by
  have hcolumn : (equalityFields m).getEither? "column" "field" = some (.string m.1) := rfl
  have hoperator : (equalityFields m).get? "operator" = none := rfl
  have hvalue : (equalityFields m).get? "value" = some m.2 := rfl
  simp only [readLeaf, readColumn, readOperator, readValueField, hcolumn, hoperator, hvalue]
  split
  · rfl
  · cases readScalar path m.2 <;> rfl

/-- An entry for one member gives the equality, or is dropped. -/
theorem yields_equalityEntry (m : String × Json.Value) :
    Yields maxDepth (room + 1) [equalityEntry m] (some (equalities ([m].filter isEquality))) := by
  refine yields_singleton fun path => ?_
  have hkind : readKind path (equalityFields m) = .ok .basic := by
    have htag : Kind.ofTag? "Basic" = some .basic :=
      Kind.ofTag?_of_isSpelling (Kind.isSpelling_of_mem_tags (by decide))
    have hget : (equalityFields m).getEither? "type" "kind" = some (.string "Basic") := rfl
    simp only [readKind, hget, htag]
  have hgroup : Kind.basic ≠ .group := by decide
  rw [guardedEntry, equalityEntry, readEntry_leaf rfl hkind hgroup, readLeaf_equalityFields]
  cases hblank : Text.isBlankText m.1 with
  | true =>
    have hunfit : isEquality m = false := by rw [isEquality, hblank]; rfl
    rw [List.filter_cons, hunfit]
    rfl
  | false =>
    cases hvalue : Scalar.ofJson? m.2 with
    | none =>
      have hunfit : isEquality m = false := by rw [isEquality, isScalar, hblank, hvalue]; rfl
      rw [List.filter_cons, hunfit, readScalar, hvalue]
      rfl
    | some s =>
      have hfit : isEquality m = true := by rw [isEquality, isScalar, hblank, hvalue]; rfl
      rw [List.filter_cons, hfit, if_pos rfl, equalities_cons, equality?, readScalar, hvalue]
      rfl

/-- Entries for the members give the equalities of those that are fit to be entries. -/
theorem standFor_equalityEntries (maxDepth : Nat) (members : Members) :
    StandFor maxDepth (members.map equalityEntry) (equalities (members.filter isEquality)) := by
  intro room
  induction members with
  | nil => exact yields_nil
  | cons m rest ih =>
    have hall := (yields_equalityEntry m).append ih
    rwa [Option.bind_some, Option.map_some, ← equalities_append, ← List.filter_append] at hall

end Reading

/-! ## The two forms in a filter -/

section Forms

variable {members : Members} {site : Site Json.Value Members} {value itemized : Json.Value}

/-- An object without a tag stands at a site of one filter, and an entry for each of its members at
the same site of another. Lenient work takes the object as a whole or drops it as a whole, and it
takes or drops each of the entries by itself. So the object keeps the equalities of its scalars
unless it has scalars and containers, and the two filters are read alike unless some of its members
are fit for entries of their own and others are not, or blank columns are all that is wrong. -/
theorem readPredicates_shorthand (htag : isTagged members = false) (hopen : site.IsOpen)
    (hvalue : HasEntries value (site.withEntries [.object members]))
    (hitemized : HasEntries itemized (site.withEntries (members.map equalityEntry)))
    (maxDepth : Nat) :
    (∀ room path, guardedEntry ⟨maxDepth, false⟩ (room + 1) path (.object members) =
      ⟨shorthandDrops path members, .ok (keptEqualities members)⟩) ∧
    ((readPredicates ⟨maxDepth, false⟩ value).result = .error (.tooDeep maxDepth) ∧
        (members ≠ [] →
          (readPredicates ⟨maxDepth, false⟩ itemized).result = .error (.tooDeep maxDepth)) ∨
      ∃ tree : Site Predicate (Connective × Bool),
        (readPredicates ⟨maxDepth, false⟩ value).result =
          .ok (tree.withPredicates (keptEqualities members)) ∧
        (readPredicates ⟨maxDepth, false⟩ itemized).result =
          .ok (tree.withPredicates (equalities (members.filter isEquality))) ∧
        ((readPredicates ⟨maxDepth, false⟩ value).result =
            .ok (tree.withPredicates (equalities members)) ↔
          (∀ m ∈ members, isScalar m.2 = true) ∨ ∀ m ∈ members, isScalar m.2 = false) ∧
        ((readPredicates ⟨maxDepth, false⟩ value).result =
            (readPredicates ⟨maxDepth, false⟩ itemized).result ↔
          (∀ m ∈ members, isEquality m = true) ∨
            (∃ m ∈ members, isScalar m.2 = false) ∧ ∀ m ∈ members, isEquality m = false)) := by
  refine ⟨fun room path => guardedEntry_shorthand htag path, ?_⟩
  have hobject := standFor_shorthand maxDepth htag
  have hentries := standFor_equalityEntries maxDepth members
  -- What is around the entry is read the same in both: it is too deep, or it is a tree with a gap.
  rcases exists_site hopen maxDepth with hdeep | ⟨tree, htree⟩
  · refine .inl ⟨hdeep value _ _ hvalue (List.cons_ne_nil _ _) hobject, fun hne => ?_⟩
    exact hdeep itemized _ _ hitemized (mt List.map_eq_nil_iff.1 hne) hentries
  · have hkept := htree value _ _ hvalue hobject
    have hsingle := htree itemized _ _ hitemized hentries
    refine .inr ⟨tree, hkept, hsingle, ?_, ?_⟩
    · rw [hkept, Except.ok.injEq, tree.withPredicates_inj, keptEqualities_eq_equalities_iff]
    · rw [hkept, hsingle, Except.ok.injEq, tree.withPredicates_inj, keptEqualities_eq_iff]

/-- In a group that is negated, an equality is lost along with a member that has a list. -/
theorem readPredicates_shorthand_group :
    ∃ tree : Site Predicate (Connective × Bool),
      (readPredicates ⟨2, false⟩ (.object [("type", .string "Group"), ("not", .bool true),
        ("conditions", .array [.object [("a", .bool true), ("b", .array [])]])])).result =
          .ok (tree.withPredicates []) ∧
      (readPredicates ⟨2, false⟩ (.array [.object [("type", .string "Group"), ("not", .bool true),
        ("conditions", .array [equalityEntry ("a", .bool true),
          equalityEntry ("b", .array [])])]])).result =
          .ok (tree.withPredicates [.basic "a" (.comparison .eq) (.bool true)]) := by
  have hkind : kind? [("type", .string "Group"), ("not", .bool true), ("conditions", .array [])] =
      some .group := Kind.ofTag?_of_isSpelling (Kind.isSpelling_of_mem_tags (by decide))
  have hopen : (Site.inside [] [("type", .string "Group"), ("not", .bool true),
      ("conditions", .array [])] (.list [] []) []).IsOpen := ⟨hkind, rfl, trivial⟩
  have hread : (readPredicates ⟨2, false⟩ (.object [("type", .string "Group"), ("not", .bool true),
      ("conditions", .array [.object [("a", .bool true), ("b", .array [])]])])).result =
      .ok [.group .and true []] := rfl
  have htag : isTagged [("a", .bool true), ("b", .array [])] = false := rfl
  obtain ⟨hdeep, -⟩ | ⟨tree, hvalue, hitemized, -⟩ :=
    (readPredicates_shorthand htag hopen (.single _) (.list _) 2).2
  · cases hread.symm.trans hdeep
  · exact ⟨tree, hvalue, hitemized⟩

/-- One column with a list is enough to lose the equality of another one. -/
theorem readPredicates_shorthand_lost : ∃ members : Members, isTagged members = false ∧
    equalities members = [.basic "a" (.comparison .eq) (.bool true)] ∧
    (readPredicates ⟨32, false⟩ (.array (members.map equalityEntry))).result =
      .ok (equalities members) ∧
    (readPredicates ⟨32, false⟩ (.array [.object members])).result = .ok [] :=
  ⟨[("a", .bool true), ("b", .array [])], rfl, rfl, rfl, rfl⟩

end Forms

end SearchIndex.Filter
