import SearchIndex.Proofs.Filter.Pruning

/-!
# Trees that were read

The reader counts levels over JSON entries and the compiler over predicates, each by itself. What the
reader gives is never too deep for the compiler, and has no list with a null in it. The one defect
that the compiler can still find is a string with the delimiter in a membership test
(`compile_of_readPredicates`).

`FitsIn` says so by recursion on the levels that are left. To say it of the nodes of a tree, each of
them gets its depth (`LiesAt`), and the two agree (`forall_fitsIn_iff`).
-/

namespace SearchIndex.Filter

namespace Predicate

/-! ## Depth -/

/-- The predicate is a node of the trees, at this depth: the trees are at depth one, and the
conditions of a group one deeper than the group. -/
inductive LiesAt (ps : List Predicate) : (depth : Nat) → Predicate → Prop
  | top {p : Predicate} (h : p ∈ ps) : LiesAt ps 1 p
  | condition {depth : Nat} {connective : Connective} {negated : Bool} {conditions : List Predicate}
      {p : Predicate} (h : LiesAt ps depth (.group connective negated conditions))
      (hp : p ∈ conditions) : LiesAt ps (depth + 1) p

section LiesAt

variable {ps : List Predicate} {p : Predicate} {depth room : Nat}

/-- The nodes with a depth are the nodes. -/
theorem LiesAt.mem_nodesOf (h : LiesAt ps depth p) : p ∈ nodesOf ps := by
  induction h with
  | top hp => exact nodes_subset_nodesOf hp (self_mem_nodes _)
  | condition _ hp ih =>
    exact nodes_subset_of_mem_nodesOf ih (nodes_subset_nodes_group hp _ _ (self_mem_nodes _))

/-- What lies in the conditions of a group lies one level deeper in its trees. -/
theorem LiesAt.of_conditions {connective : Connective} {negated : Bool}
    {conditions : List Predicate} (hgroup : .group connective negated conditions ∈ ps)
    (h : LiesAt conditions depth p) : LiesAt ps (depth + 1) p := by
  induction h with
  | top hp => exact .condition (.top hgroup) hp
  | condition _ hp ih => exact .condition ih hp

/-- A node of trees that fit has at most the depth of the room, and fits in what is left of it. -/
theorem exists_fitsIn_of_liesAt (hfits : ∀ q ∈ ps, FitsIn room q) (h : LiesAt ps depth p) :
    ∃ rest, room = depth + rest ∧ FitsIn (rest + 1) p := by
  induction h with
  | @top p hp =>
    have hroom := hfits p hp
    cases room with
    | zero => exact hroom.elim
    | succ room => exact ⟨room, Nat.add_comm room 1, hroom⟩
  | @condition depth connective negated conditions p _ hp ih =>
    obtain ⟨rest, rfl, hgroup⟩ := ih
    have hroom : FitsIn rest p := hgroup p hp
    cases rest with
    | zero => exact hroom.elim
    | succ rest => exact ⟨rest, by omega, hroom⟩

/-- A membership test in a tree that fits has no null. -/
theorem not_mem_members_of_fitsIn (h : FitsIn (room + 1) p) : .null ∉ p.members := by
  intro hnull
  cases p using Predicate.leaf_or_group with
  | leaf p hp =>
    have hany := (fitsIn_of_leaf hp).1 h
    exact List.any_eq_false.1 hany _ hnull rfl
  | group connective negated conditions => cases hnull

/-- Trees fit if each of their nodes is at most as deep as the room, and no list has a null. -/
theorem forall_fitsIn_iff : (∀ p ∈ ps, FitsIn room p) ↔
    ∀ depth p, LiesAt ps depth p → depth ≤ room ∧ .null ∉ p.members := by
  refine ⟨fun hfits depth p h => ?_, fun h => ?_⟩
  · obtain ⟨rest, rfl, hp⟩ := exists_fitsIn_of_liesAt hfits h
    exact ⟨Nat.le_add_right depth rest, not_mem_members_of_fitsIn hp⟩
  · induction room generalizing ps with
    | zero =>
      intro p hp
      cases (h 1 p (.top hp)).1
    | succ room ih =>
      intro p hp
      cases p using Predicate.leaf_or_group with
      | leaf p hgroup =>
        refine (fitsIn_of_leaf hgroup).2 (List.any_eq_false.2 fun m hm hnull => ?_)
        cases m with
        | null => exact (h 1 p (.top hp)).2 hm
        | _ => cases hnull
      | group connective negated conditions =>
        refine ih fun depth q hq => ?_
        obtain ⟨hdepth, hmembers⟩ := h (depth + 1) q (hq.of_conditions hp)
        exact ⟨Nat.le_of_succ_le_succ hdepth, hmembers⟩

end LiesAt

/-! ## Membership tests with a delimiter -/

/-- A membership test among the predicates has the delimiter in one of its strings. -/
def HasDelimiter (ps : List Predicate) : Prop :=
  ∃ p ∈ ps, ∃ s, .string s ∈ p.members ∧ ',' ∈ s.toList

/-- A member with the delimiter is a string with a comma in it. -/
theorem any_hasDelimiter_iff {members : List Scalar} :
    members.any Scalar.hasDelimiter = true ↔ ∃ s, .string s ∈ members ∧ ',' ∈ s.toList := by
  rw [List.any_eq_true]
  constructor
  · rintro ⟨m, hm, hdelimiter⟩
    cases m with
    | string s => exact ⟨s, hm, by simpa [Scalar.hasDelimiter, delimiter] using hdelimiter⟩
    | null | bool _ | number _ => cases hdelimiter
  · rintro ⟨s, hs, hdelimiter⟩
    exact ⟨.string s, hs, by simpa [Scalar.hasDelimiter, delimiter] using hdelimiter⟩

/-- A sift leaves nothing out of a list if it leaves nothing out of any predicate of it. -/
theorem rejectionsOf_eq_zero {ps : List Predicate} :
    rejectionsOf ps = 0 ↔ ∀ p ∈ ps, rejections p = 0 := by
  induction ps with
  | nil => exact ⟨fun _ => nofun, fun _ => rfl⟩
  | cons p rest ih => rw [rejectionsOf, Nat.add_eq_zero_iff, ih, List.forall_mem_cons]

/-- What a sift leaves as it is, it leaves as it is in a list. -/
theorem siftOf_eq_self {ps : List Predicate} (h : ∀ p ∈ ps, sift p = [p]) : siftOf ps = ps := by
  induction ps with
  | nil => rfl
  | cons p rest ih =>
    obtain ⟨hp, hrest⟩ := List.forall_mem_cons.1 h
    rw [siftOf, hp, ih hrest, List.singleton_append]

/-- A sift leaves nothing out of a tree if no node has the delimiter. -/
theorem rejections_eq_zero_iff (p : Predicate) :
    rejections p = 0 ↔ ∀ q ∈ p.nodes, q.members.any Scalar.hasDelimiter = false := by
  induction p using Predicate.induction with
  | leaf p hleaf =>
    cases p with
    | group connective negated conditions => cases hleaf
    | _ => simp [rejections, nodes]
  | group connective negated conditions ih =>
    rw [rejections, rejectionsOf_eq_zero, nodes, List.forall_mem_cons, forall_mem_nodesOf]
    exact (forall₂_congr ih).trans ⟨fun h => ⟨rfl, h⟩, And.right⟩

/-- A sift leaves nothing out of a list of trees if no node of them has the delimiter. -/
theorem rejectionsOf_eq_zero_iff {ps : List Predicate} :
    rejectionsOf ps = 0 ↔ ∀ q ∈ nodesOf ps, q.members.any Scalar.hasDelimiter = false := by
  rw [rejectionsOf_eq_zero, forall_mem_nodesOf]
  exact forall₂_congr fun p _ => rejections_eq_zero_iff p

/-- A predicate of which nothing is left out is sifted to itself. -/
theorem sift_of_rejections_eq_zero (p : Predicate) : rejections p = 0 → sift p = [p] := by
  induction p using Predicate.induction with
  | leaf p hleaf =>
    cases p with
    | group connective negated conditions => cases hleaf
    | _ => simp [rejections, sift]
  | group connective negated conditions ih =>
    intro h
    rw [rejections, rejectionsOf_eq_zero] at h
    rw [sift, siftOf_eq_self fun p hp => ih p hp (h p hp)]

/-- Nothing changes in a list out of which nothing is left. -/
theorem siftOf_of_rejectionsOf_eq_zero {ps : List Predicate} (h : rejectionsOf ps = 0) :
    siftOf ps = ps :=
  siftOf_eq_self fun p hp => sift_of_rejections_eq_zero p (rejectionsOf_eq_zero.1 h p hp)

/-- A sift leaves something out if a membership test in the trees has the delimiter. -/
theorem rejectionsOf_ne_zero_iff {ps : List Predicate} :
    rejectionsOf ps ≠ 0 ↔ HasDelimiter (nodesOf ps) := by
  simp only [Ne, rejectionsOf_eq_zero_iff, HasDelimiter, ← any_hasDelimiter_iff, not_forall,
    Bool.not_eq_false, exists_prop]

end Predicate

open Predicate (nodesOf FitsIn HasDelimiter LiesAt rejectionsOf)

/-! ## Errors of the compiler -/

/-- The error is about a string with the delimiter in a membership test among the predicates. -/
inductive RefusesDelimiter (ps : List Predicate) : Error → Prop
  | mk (path : Path) {p : Predicate} (hp : p ∈ ps) {column s : String}
      (hcolumn : p.column? = some column) (hs : .string s ∈ p.members) (hdelimiter : ',' ∈ s.toList) :
      RefusesDelimiter ps (.malformed path (.delimiterInMembership s column))

section Errors

variable {options : Options} {room : Nat} {path : Path} {p : Predicate} {ps qs : List Predicate}
  {e : Error}

/-- What is refused of some predicates is refused of more. -/
theorem RefusesDelimiter.mono (h : RefusesDelimiter ps e) (hsubset : ps ⊆ qs) :
    RefusesDelimiter qs e := by
  cases h with
  | mk path hp hcolumn hs hdelimiter => exact .mk path (hsubset hp) hcolumn hs hdelimiter

/-- Without a null, members are refused for a string with a comma only. -/
theorem exists_of_memberTexts_error {column : String} {members : List Scalar} {defect : Defect}
    (hnull : .null ∉ members) (h : memberTexts column members = .error defect) :
    ∃ s, .string s ∈ members ∧ ',' ∈ s.toList ∧ defect = .delimiterInMembership s column := by
  induction members with
  | nil => cases h
  | cons m rest ih =>
    rw [List.mem_cons, not_or] at hnull
    rw [memberTexts] at h
    cases hm : memberText column m with
    | error defect' =>
      rw [hm] at h
      cases h
      cases m with
      | null => exact absurd rfl hnull.1
      | string s =>
        rw [memberText] at hm
        split at hm
        · next hdelimiter =>
          cases hm
          exact ⟨s, List.mem_cons_self, by simpa [delimiter] using hdelimiter, rfl⟩
        · cases hm
      | bool _ | number _ => cases hm
    | ok text =>
      rw [hm] at h
      obtain ⟨s, hs, hdefect⟩ := ih hnull.2 (exists_of_map_eq_error h)
      exact ⟨s, List.mem_cons_of_mem m hs, hdefect⟩

/-- The defect of a predicate that is no group, if no list has a null. -/
theorem refusesDelimiter_of_leafClause {defect : Defect} (hnull : .null ∉ p.members)
    (h : leafClause p = .error defect) (path : Path) :
    RefusesDelimiter [p] (.malformed path defect) := by
  have hmembership {column : String} (hcolumn : p.column? = some column)
      (herror : membershipClause column p.members = .error defect) :
      RefusesDelimiter [p] (.malformed path defect) := by
    obtain ⟨s, hs, hdelimiter, rfl⟩ :=
      exists_of_memberTexts_error hnull (exists_of_map_eq_error herror)
    exact .mk path (List.mem_singleton_self p) hcolumn hs hdelimiter
  cases p with
  | isIn column members => exact hmembership rfl h
  | isNotIn column members => exact hmembership rfl (exists_of_map_eq_error h)
  | pattern column kind value => cases value <;> cases h
  | _ => cases h

/-- An error that lenient work does not drop is the error there was. -/
theorem result_of_orDrop_error {α : Type} {r : Report α} {kind : Option String} {instead : α}
    (h : (r.orDrop options path kind instead).result = .error e) : r.result = .error e := by
  obtain ⟨dropped, result⟩ := r
  cases result with
  | ok a => cases h
  | error e' =>
    simp only [Report.orDrop] at h
    split at h
    · cases h
    · exact h

/-- The one error of the clause of a tree that fits. -/
theorem refusesDelimiter_of_clause (hfits : FitsIn room p)
    (h : (clause options room path p).result = .error e) : RefusesDelimiter p.nodes e := by
  induction room generalizing path p with
  | zero => exact hfits.elim
  | succ room ih =>
    cases p using Predicate.leaf_or_group with
    | leaf p hp =>
      rw [clause_of_leaf hp] at h
      cases hleaf : leafClause p with
      | ok text =>
        rw [hleaf] at h
        cases h
      | error defect =>
        rw [hleaf] at h
        cases h
        have hrefuses := refusesDelimiter_of_leafClause
          (Predicate.not_mem_members_of_fitsIn hfits) hleaf path
        exact hrefuses.mono (List.cons_subset.2 ⟨p.self_mem_nodes, List.nil_subset _⟩)
    | group connective negated conditions =>
      obtain ⟨child, hchild, i, herror⟩ :=
        Report.exists_of_each_error (exists_of_map_eq_error h)
      exact (ih (hfits child hchild) (result_of_orDrop_error herror)).mono
        (Predicate.nodes_subset_nodes_group hchild connective negated)

theorem refusesDelimiter_of_compile (hfits : ∀ p ∈ ps, FitsIn options.maxDepth p)
    (h : (compile options ps).result = .error e) : RefusesDelimiter (nodesOf ps) e := by
  obtain ⟨p, hp, i, herror⟩ := Report.exists_of_each_error (exists_of_map_eq_error h)
  exact (refusesDelimiter_of_clause (hfits p hp) (result_of_orDrop_error herror)).mono
    (Predicate.nodes_subset_nodesOf hp)

end Errors

/-! ## Strict compilation -/

/-- Strict compilation of trees that fit succeeds if a sift leaves nothing out. -/
theorem exists_compile_ok_iff {maxDepth : Nat} {ps : List Predicate}
    (hfits : ∀ p ∈ ps, FitsIn maxDepth p) :
    (∃ f, (compile ⟨maxDepth, true⟩ ps).result = .ok f) ↔ rejectionsOf ps = 0 := by
  obtain ⟨f, -, hcount, hstrict⟩ := compile_sift maxDepth hfits
  constructor
  · -- What strict work gives, lenient work gives with nothing dropped.
    rintro ⟨g, hg⟩
    rw [← hcount, compile_refines maxDepth ps g hg]
    rfl
  · intro hzero
    rw [Predicate.siftOf_of_rejectionsOf_eq_zero hzero] at hstrict
    exact ⟨f, hstrict⟩

/-! ## Readings -/

/-- What lenient work reads fits in the room that it was read with. -/
theorem Agrees.fitsIn {maxDepth room count : Nat} {r s : Report (List Predicate)}
    {ps : List Predicate} (h : Agrees maxDepth room count r s) (hr : r.result = .ok ps) :
    ∀ p ∈ ps, FitsIn room p := by
  cases h with
  | ok hfits _ =>
    cases hr
    exact hfits
  | tooDeep => cases hr

/-- What is read fits in the levels that the options allow. -/
theorem fitsIn_of_readPredicates {options : Options} {value : Json.Value} {ps : List Predicate}
    (h : (readPredicates options value).result = .ok ps) :
    ∀ p ∈ ps, FitsIn options.maxDepth p := by
  obtain ⟨maxDepth, strict⟩ := options
  have hlenient : (readPredicates ⟨maxDepth, false⟩ value).result = .ok ps := by
    cases strict with
    | false => exact h
    | true =>
      rw [readPredicates_refines maxDepth value ps h]
      rfl
  rcases agrees_readPredicates maxDepth value with hagrees | hfilter
  · exact hagrees.fitsIn hlenient
  · rw [(hfilter ⟨maxDepth, false⟩).1] at hlenient
    cases hlenient

/-- What is read can be compiled. Its nodes are no deeper than the options allow, and no membership
test has a null. So the compiler never finds it too deep; lenient compilation gives a filter, and
strict compilation fails if and only if a membership test in it has the delimiter in a string, for
that reason. -/
theorem compile_of_readPredicates {options : Options} {value : Json.Value} {ps : List Predicate}
    (h : (readPredicates options value).result = .ok ps) :
    (∀ depth p, LiesAt ps depth p → depth ≤ options.maxDepth ∧ .null ∉ p.members) ∧
      (∀ n, (compile options ps).result ≠ .error (.tooDeep n)) ∧
      (options.strict = false → ∃ f, (compile options ps).result = .ok f) ∧
      (options.strict = true →
        ((∃ e, (compile options ps).result = .error e) ↔ HasDelimiter (nodesOf ps)) ∧
          ∀ e, (compile options ps).result = .error e → RefusesDelimiter (nodesOf ps) e) := by
  have hfits := fitsIn_of_readPredicates h
  refine ⟨Predicate.forall_fitsIn_iff.1 hfits, fun n hdeep => ?_, fun hlenient => ?_,
    fun hstrict => ⟨?_, fun e => refusesDelimiter_of_compile hfits⟩⟩
  · cases refusesDelimiter_of_compile hfits hdeep
  · obtain ⟨maxDepth, strict⟩ := options
    obtain rfl : strict = false := hlenient
    obtain ⟨f, hf, -, -⟩ := compile_sift maxDepth hfits
    exact ⟨f, hf⟩
  · obtain ⟨maxDepth, strict⟩ := options
    obtain rfl : strict = true := hstrict
    rw [← Predicate.rejectionsOf_ne_zero_iff, Ne, ← exists_compile_ok_iff hfits]
    cases (compile ⟨maxDepth, true⟩ ps).result with
    | ok f => exact ⟨nofun, fun hnone => absurd ⟨f, rfl⟩ hnone⟩
    | error e => exact ⟨fun _ => nofun, fun _ => ⟨e, rfl⟩⟩

/-- The test in the group is read, two levels deep, and not compiled. -/
theorem compile_of_readPredicates_delimiter :
    (∃ e, (compile ⟨2, true⟩ [.group .and false [.isIn "a" [.string "x,y"]]]).result = .error e) ∧
      ∀ n, (compile ⟨2, true⟩ [.group .and false [.isIn "a" [.string "x,y"]]]).result ≠
        .error (.tooDeep n) := by
  have h := @compile_of_readPredicates ⟨2, true⟩ (.array [.object [("type", .string "group"),
    ("conditions", .array [.object [("type", .string "in"), ("column", .string "a"),
      ("values", .array [.string "x,y"])]])]]) _ rfl
  refine ⟨(h.2.2.2 rfl).1.2 ⟨.isIn "a" [.string "x,y"], ?_, "x,y", ?_, by decide⟩, h.2.1⟩
  · exact .tail _ (.head _)
  · exact .head _

end SearchIndex.Filter
