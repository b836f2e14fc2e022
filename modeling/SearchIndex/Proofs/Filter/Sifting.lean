import SearchIndex.Proofs.Filter.ClauseRun
import SearchIndex.Proofs.Filter.Fields
import SearchIndex.Proofs.Filter.Literals

/-!
# What lenient compilation drops

A tree that was read has one defect left that the compiler finds: a membership test with the
delimiter in one of its strings. Lenient compilation of the tree is strict compilation of the tree
without such tests, and each of them is noted once (`compile_sift`).
-/

namespace SearchIndex.Filter

namespace Predicate

/-! ## Sifted trees -/

mutual

/-- The predicate without the membership tests in it that have the delimiter in a string; nothing is
left if it is one of them. -/
def sift : Predicate → List Predicate
  | .group connective negated conditions => [.group connective negated (siftOf conditions)]
  | p => if p.members.any Scalar.hasDelimiter then [] else [p]

/-- The predicates without such membership tests. -/
def siftOf : List Predicate → List Predicate
  | [] => []
  | p :: rest => sift p ++ siftOf rest

end

mutual

/-- How many membership tests a sift leaves out. -/
def rejections : Predicate → Nat
  | .group _ _ conditions => rejectionsOf conditions
  | p => if p.members.any Scalar.hasDelimiter then 1 else 0

/-- How many membership tests a sift leaves out of predicates. -/
def rejectionsOf : List Predicate → Nat
  | [] => 0
  | p :: rest => rejections p + rejectionsOf rest

end

/-- A sift leaves out a membership test with the delimiter, and keeps any other predicate that is no
group. -/
theorem sift_of_leaf {p : Predicate} (h : p.isGroup = false) :
    p.sift = if p.members.any Scalar.hasDelimiter then [] else [p] := by
  cases p with
  | group connective negated conditions => cases h
  | _ => rfl

theorem rejections_of_leaf {p : Predicate} (h : p.isGroup = false) :
    p.rejections = if p.members.any Scalar.hasDelimiter then 1 else 0 := by
  cases p with
  | group connective negated conditions => cases h
  | _ => rfl

theorem siftOf_append (ps qs : List Predicate) : siftOf (ps ++ qs) = siftOf ps ++ siftOf qs := by
  induction ps with
  | nil => rfl
  | cons p rest ih => rw [List.cons_append, siftOf, siftOf, ih, List.append_assoc]

/-- What is left out of them is counted together. -/
theorem rejectionsOf_append (ps qs : List Predicate) :
    rejectionsOf (ps ++ qs) = rejectionsOf ps + rejectionsOf qs := by
  induction ps with
  | nil => rw [List.nil_append, rejectionsOf, Nat.zero_add]
  | cons p rest ih => rw [List.cons_append, rejectionsOf, rejectionsOf, ih, Nat.add_assoc]

/-- The tree is no deeper than the room, and no list in it has a null. -/
def FitsIn : (room : Nat) → Predicate → Prop
  | 0, _ => False
  | room + 1, .group _ _ conditions => ∀ p ∈ conditions, FitsIn room p
  | _ + 1, p => p.members.any Scalar.isNull = false

/-- A predicate that is no group fits at any depth, unless its list has a null. -/
theorem fitsIn_of_leaf {p : Predicate} (h : p.isGroup = false) {room : Nat} :
    FitsIn (room + 1) p ↔ p.members.any Scalar.isNull = false := by
  cases p with
  | group connective negated conditions => cases h
  | _ => exact Iff.rfl

end Predicate

open Predicate (sift siftOf rejections rejectionsOf FitsIn)

/-! ## Clauses of single predicates -/

section Leaves

variable {p : Predicate}

/-- Members without the delimiter have it in no string. -/
theorem delimiter_not_mem {members : List Scalar}
    (h : members.any Scalar.hasDelimiter = false) :
    ∀ s, .string s ∈ members → delimiter ∉ s.toList := by
  intro s hs hmem
  refine List.any_eq_false.1 h _ hs ?_
  simpa [Scalar.hasDelimiter] using hmem

/-- A list without nulls and delimiters has a clause. -/
theorem membershipClause_ok {column : String} {members : List Scalar}
    (hnull : members.any Scalar.isNull = false)
    (hdelimiter : members.any Scalar.hasDelimiter = false) :
    ∃ text, membershipClause column members = .ok text :=
  ⟨_, membershipClause_eq_ok_iff.2 ⟨isMember_of_mem hnull (delimiter_not_mem hdelimiter), rfl⟩⟩

/-- A list with the delimiter has none. -/
theorem membershipClause_error {column : String} {members : List Scalar}
    (hdelimiter : members.any Scalar.hasDelimiter = true) :
    ∃ defect, membershipClause column members = .error defect := by
  cases h : membershipClause column members with
  | error defect => exact ⟨defect, rfl⟩
  | ok text =>
    obtain ⟨m, hm, hcontains⟩ := List.any_eq_true.1 hdelimiter
    have hmember := (membershipClause_eq_ok_iff.1 h).1 m hm
    cases m with
    | string s => exact absurd (by simpa [Scalar.hasDelimiter] using hcontains) (hmember.2 s rfl)
    | null | bool _ | number _ => cases hcontains

theorem leafClause_ok (hnull : p.members.any Scalar.isNull = false)
    (hdelimiter : p.members.any Scalar.hasDelimiter = false) :
    ∃ text, leafClause p = .ok text := by
  cases p with
  | isIn column members => exact membershipClause_ok hnull hdelimiter
  | isNotIn column members =>
    obtain ⟨text, htext⟩ := @membershipClause_ok column members hnull hdelimiter
    exact ⟨_, congrArg (Except.map ("not " ++ ·)) htext⟩
  | pattern column kind value => cases value <;> exact ⟨_, rfl⟩
  | _ => exact ⟨_, rfl⟩

/-- A predicate with the delimiter in its list has none. -/
theorem leafClause_error (hdelimiter : p.members.any Scalar.hasDelimiter = true) :
    ∃ defect, leafClause p = .error defect := by
  cases p with
  | isIn column members => exact membershipClause_error hdelimiter
  | isNotIn column members =>
    obtain ⟨defect, hdefect⟩ := @membershipClause_error column members hdelimiter
    exact ⟨defect, congrArg (Except.map ("not " ++ ·)) hdefect⟩
  | _ => cases hdelimiter

end Leaves

/-! ## Lists of clauses -/

/-- The report on a predicate notes what a sift leaves out of it. Its text is blank or the one that
the other run gives for what is left. -/
def Sifts (p : Predicate) (r : Report String) (other : Predicate → Report String) : Prop :=
  ∃ text, r.result = .ok text ∧ r.dropped.length = rejections p ∧
    (sift p = [] ∧ text = "" ∨ ∃ q, sift p = [q] ∧ (other q).result = .ok text)

/-- Over a list, what is noted is what the sift leaves out, and the clauses that say something are
those of the sifted list. -/
theorem each_sift {f g : Nat → Predicate → Report String} {ps : List Predicate}
    (h : ∀ p ∈ ps, ∀ i j, Sifts p (f i p) (g j)) (start start' : Nat) :
    ∃ texts texts', (Report.each f start ps).result = .ok texts ∧
      (Report.each f start ps).dropped.length = rejectionsOf ps ∧
      (Report.each g start' (siftOf ps)).result = .ok texts' ∧ solid texts = solid texts' := by
  induction ps generalizing start start' with
  | nil => exact ⟨[], [], rfl, rfl, rfl, rfl⟩
  | cons p rest ih =>
    have hrest (start start' : Nat) := ih (fun q hq => h q (List.mem_cons_of_mem p hq)) start start'
    obtain ⟨text, htext, hdropped, hcases⟩ := h p List.mem_cons_self start start'
    obtain ⟨hsift, rfl⟩ | ⟨q, hsift, hq⟩ := hcases
    · obtain ⟨texts, texts', hok, hcount, hok', hsolid⟩ := hrest (start + 1) start'
      obtain ⟨hall, halldropped⟩ := Report.each_cons_ok htext hok
      refine ⟨_, texts', hall, ?_, by rw [siftOf, hsift]; exact hok', hsolid⟩
      rw [halldropped, List.length_append, hdropped, hcount, rejectionsOf]
    · obtain ⟨texts, texts', hok, hcount, hok', hsolid⟩ := hrest (start + 1) (start' + 1)
      obtain ⟨hall, halldropped⟩ := Report.each_cons_ok htext hok
      refine ⟨_, text :: texts', hall, ?_, ?_, ?_⟩
      · rw [halldropped, List.length_append, hdropped, hcount, rejectionsOf]
      · rw [siftOf, hsift]
        exact (Report.each_cons_ok hq hok').1
      · simp only [solid, List.filter_cons] at hsolid ⊢
        rw [hsolid]

/-! ## Runs -/

/-- A group looks at those clauses only that say something. -/
theorem groupClause_congr (connective : Connective) (negated : Bool) {texts texts' : List String}
    (h : solid texts = solid texts') :
    groupClause connective negated texts = groupClause connective negated texts' := by
  rw [groupClause, groupClause, h]

/-- A predicate without conditions is left out just if it has the delimiter, and then its clause is
empty. -/
theorem sifts_of_leaf {maxDepth room : Nat} {path path' : Path} {p : Predicate}
    (hleaf : p.isGroup = false) (hnull : p.members.any Scalar.isNull = false) :
    Sifts p (guardedClause ⟨maxDepth, false⟩ (room + 1) path p) fun q =>
      guardedClause ⟨maxDepth, true⟩ (room + 1) path' q := by
  unfold Sifts
  rw [Predicate.sift_of_leaf hleaf, Predicate.rejections_of_leaf hleaf]
  simp only [guardedClause]
  cases hdelimiter : p.members.any Scalar.hasDelimiter with
  | true =>
    obtain ⟨defect, hdefect⟩ := leafClause_error hdelimiter
    rw [clause_of_leaf hleaf, hdefect]
    exact ⟨"", rfl, rfl, .inl ⟨rfl, rfl⟩⟩
  | false =>
    obtain ⟨text, htext⟩ := leafClause_ok hnull hdelimiter
    refine ⟨text, ?_, ?_, .inr ⟨p, rfl, ?_⟩⟩
    all_goals
      rw [clause_of_leaf hleaf, htext]
      rfl

/-- Lenient work gives the text that strict work gives for what is left after the sift. -/
theorem clause_sift (maxDepth : Nat) {room : Nat} (path path' : Path) {p : Predicate}
    (h : FitsIn room p) :
    Sifts p (guardedClause ⟨maxDepth, false⟩ room path p) fun q =>
      guardedClause ⟨maxDepth, true⟩ room path' q := by
  induction room generalizing path path' p with
  | zero => exact h.elim
  | succ room ih =>
    cases p using Predicate.leaf_or_group with
    | leaf p hleaf => exact sifts_of_leaf hleaf ((Predicate.fitsIn_of_leaf hleaf).1 h)
    | group connective negated conditions =>
      have hconditions : ∀ q ∈ conditions, FitsIn room q := h
      -- The clauses of the two rows differ by empty ones only, which the join leaves out.
      obtain ⟨texts, texts', hok, hcount, hok', hsolid⟩ := each_sift
        (fun q hq i j => ih (path.push (.condition i)) (path'.push (.condition j))
          (hconditions q hq)) 0 0
      unfold Sifts
      rw [guardedClause_group]
      refine ⟨groupClause connective negated texts, ?_, hcount, .inr ⟨_, rfl, ?_⟩⟩
      · rw [Report.map, hok]
        rfl
      · dsimp only
        rw [guardedClause_group, Report.map, hok', groupClause_congr connective negated hsolid]
        rfl

/-- Lenient compilation is strict compilation of what a sift leaves. -/
theorem compile_sift (maxDepth : Nat) {ps : List Predicate} (h : ∀ p ∈ ps, FitsIn maxDepth p) :
    ∃ f, (compile ⟨maxDepth, false⟩ ps).result = .ok f ∧
      (compile ⟨maxDepth, false⟩ ps).dropped.length = rejectionsOf ps ∧
      (compile ⟨maxDepth, true⟩ (siftOf ps)).result = .ok f := by
  obtain ⟨texts, texts', hok, hcount, hok', hsolid⟩ := each_sift (fun p hp i j =>
    clause_sift maxDepth (Path.root.push (.entry i)) (Path.root.push (.entry j)) (h p hp)) 0 0
  refine ⟨conjunction texts, ?_, hcount, ?_⟩
  · rw [compile, Report.map, hok]
    rfl
  · rw [compile, Report.map, hok', conjunction, hsolid]
    rfl

end SearchIndex.Filter
