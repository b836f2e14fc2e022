import SearchIndex.Proofs.Filter.ClauseRun

/-!
# A filter as a group

The predicates of a filter are joined by `and`, and so are the conditions of a conjunctive group.
The two joins have loops of their own: each leaves out blank clauses, counts levels and names places
by itself. They compose alike all the same. A filter that is put into a group, with one more level
of depth, gives the same text in parentheses, drops the same predicates and fails for the same
reason (`compile_regrouped`); each place is found one level further down.

`Report.Regrouped` compares the two runs, with one lemma for each operation on reports.
-/

namespace SearchIndex.Filter

/-! ## Places in the group -/

/-- The place of a predicate in a filter, and its place once the filter stands in a group:
`wheres[0].conditions[i]…` for `wheres[i]…`. -/
inductive Path.Regrouped : Path → Path → Prop
  | mk (i : Nat) (rest : List PathStep) :
      Regrouped ⟨"wheres", .entry i :: rest⟩ ⟨"wheres", .entry 0 :: .condition i :: rest⟩

section Places

variable {path path' : Path}

/-- What is nested in a predicate moves with it. -/
theorem Path.Regrouped.push (h : path.Regrouped path') (step : PathStep) :
    (path.push step).Regrouped (path'.push step) := by
  obtain ⟨i, rest⟩ := h
  exact .mk i (rest ++ [step])

end Places

/-- Both are the same error, the second at the place in the group, where one more level is
allowed. -/
inductive Error.Regrouped (maxDepth : Nat) : Error → Error → Prop
  | malformed {path path' : Path} (h : path.Regrouped path') (defect : Defect) :
      Regrouped maxDepth (.malformed path defect) (.malformed path' defect)
  | tooDeep : Regrouped maxDepth (.tooDeep maxDepth) (.tooDeep (maxDepth + 1))

/-- An error that moves stays an entry's own, or does not become one. -/
theorem Error.Regrouped.isLocal_eq {maxDepth : Nat} {e e' : Error} (h : e.Regrouped maxDepth e') :
    e'.isLocal = e.isLocal := by
  cases h <;> rfl

/-- Both drop the same predicate, the second at the place in the group. -/
structure Dropped.Regrouped (maxDepth : Nat) (d d' : Dropped) : Prop where
  path : d.path.Regrouped d'.path
  kind : d'.kind = d.kind
  error : d.error.Regrouped maxDepth d'.error

/-! ## Two runs -/

namespace Report

variable {α β γ δ : Type} {maxDepth : Nat}

/-- The reports of a filter and of the filter in a group: what is dropped in the one is dropped in
the other, and both have an error, or results that are related by `R`. -/
inductive Regrouped (maxDepth : Nat) (R : α → β → Prop) : Report α → Report β → Prop
  | ok {dropped dropped' : List Dropped} {a : α} {b : β}
      (hdropped : List.Forall₂ (Dropped.Regrouped maxDepth) dropped dropped') (h : R a b) :
      Regrouped maxDepth R ⟨dropped, .ok a⟩ ⟨dropped', .ok b⟩
  | error {dropped dropped' : List Dropped} {e e' : Error}
      (hdropped : List.Forall₂ (Dropped.Regrouped maxDepth) dropped dropped')
      (he : e.Regrouped maxDepth e') :
      Regrouped maxDepth R ⟨dropped, .error e⟩ ⟨dropped', .error e'⟩

section Regrouped

variable {R : α → β → Prop} {S : γ → δ → Prop} {r : Report α} {s : Report β}

/-- Results that are related stay so when they are mapped in related ways. -/
theorem Regrouped.map {f : α → γ} {g : β → δ} (h : Regrouped maxDepth R r s)
    (hfg : ∀ a b, R a b → S (f a) (g b)) : Regrouped maxDepth S (r.map f) (s.map g) := by
  cases h with
  | ok hdropped h => exact .ok hdropped (hfg _ _ h)
  | error hdropped he => exact .error hdropped he

/-- Reports that are related stay so when they go on in related ways. -/
theorem Regrouped.andThen {next : α → Report γ} {next' : β → Report δ}
    (h : Regrouped maxDepth R r s)
    (hnext : ∀ a b, R a b → Regrouped maxDepth S (next a) (next' b)) :
    Regrouped maxDepth S (r.andThen next) (s.andThen next') := by
  cases h with
  | error hdropped he => exact .error hdropped he
  | @ok _ _ a b hdropped h =>
    have hrest := hnext a b h
    simp only [Report.andThen]
    generalize next a = t, next' b = u at hrest ⊢
    cases hrest with
    | ok hmore h => exact .ok (List.rel_append hdropped hmore) h
    | error hmore he => exact .error (List.rel_append hdropped hmore) he

/-- What is dropped of the one is dropped of the other, since whether an error is a predicate's own
does not depend on the place. -/
theorem Regrouped.orDrop {instead : α} {instead' : β} {options options' : Options}
    {path path' : Path} (h : Regrouped maxDepth R r s) (hi : R instead instead')
    (hstrict : options'.strict = options.strict) (hpath : path.Regrouped path')
    (kind : Option String) :
    Regrouped maxDepth R (r.orDrop options path kind instead)
      (s.orDrop options' path' kind instead') := by
  cases h with
  | ok hdropped h => exact .ok hdropped h
  | error hdropped he =>
    simp only [Report.orDrop, hstrict, he.isLocal_eq]
    split
    · exact .ok (List.rel_append hdropped (.cons ⟨hpath, rfl, he⟩ .nil)) hi
    · exact .error hdropped he

/-- Working through the same list. -/
theorem Regrouped.each {f : Nat → γ → Report α} {g : Nat → γ → Report β} {l : List γ}
    (h : ∀ i, ∀ c ∈ l, Regrouped maxDepth R (f i c) (g i c)) (start : Nat) :
    Regrouped maxDepth (List.Forall₂ R) (each f start l) (each g start l) := by
  induction l generalizing start with
  | nil => exact .ok .nil .nil
  | cons c rest ih =>
    rw [each_cons, each_cons]
    refine (h start c List.mem_cons_self).andThen fun a b hab => ?_
    refine (ih (fun i d hd => ?_) (start + 1)).map fun as bs hbs => .cons hab hbs
    exact h i d (List.mem_cons_of_mem c hd)

end Regrouped

end Report

open Report (Regrouped)

section Compiling

variable {maxDepth : Nat} {strict : Bool}

/-- A predicate of the filter and of the group, with the same number of levels left. -/
theorem clause_regrouped (room : Nat) {path path' : Path} (hpath : path.Regrouped path')
    (p : Predicate) :
    Regrouped maxDepth Eq (clause ⟨maxDepth, strict⟩ room path p)
      (clause ⟨maxDepth + 1, strict⟩ room path' p) := by
  induction room generalizing path path' p with
  | zero => exact .error .nil .tooDeep
  | succ room ih =>
    cases p using Predicate.leaf_or_group with
    | leaf p hp =>
      rw [clause_of_leaf hp, clause_of_leaf hp]
      cases leafClause p with
      | ok text => exact .ok .nil rfl
      | error defect => exact .error .nil (.malformed hpath defect)
    | group connective negated conditions =>
      rw [clause_group, clause_group]
      refine (Regrouped.each (R := Eq) (fun i child _ => ?_) 0).map fun texts texts' h => ?_
      · exact (ih (hpath.push _) child).orDrop rfl rfl (hpath.push _) _
      · rw [List.forall₂_eq_eq_eq] at h
        rw [h]

/-- The filter of a single group has the clause of the group. -/
theorem compile_group (connective : Connective) (negated : Bool) (conditions : List Predicate) :
    compile ⟨maxDepth + 1, strict⟩ [.group connective negated conditions] =
      (Report.each (fun i child => guardedClause ⟨maxDepth + 1, strict⟩ maxDepth
          ((Path.root.push (.entry 0)).push (.condition i)) child) 0 conditions).map
        fun clauses => conjunction [groupClause connective negated clauses] := by
  rw [compile, Report.each_cons, guardedClause_group]
  generalize Report.each _ 0 conditions = r
  obtain ⟨dropped, result⟩ := r
  cases result with
  | error e => rfl
  | ok clauses => simp only [Report.andThen, Report.map, Report.each, Report.ok, Except.map,
      List.append_nil]

end Compiling

/-! ## The two joins -/

/-- A conjunction is empty if no clause says something. -/
theorem conjunction_eq_empty_iff {clauses : List String} :
    conjunction clauses = "" ↔ solid clauses = [] := by
  constructor
  · intro hempty
    by_contra hsolid
    obtain ⟨c, rest, hcons⟩ := List.exists_cons_of_ne_nil hsolid
    have hc : c ∈ solid clauses := hcons ▸ List.mem_cons_self
    have hblank : Text.isBlankText c = false := by simpa [solid] using (List.mem_filter.1 hc).2
    rw [conjunction, hcons] at hempty
    obtain rfl : c = "" := by
      cases rest with
      | nil => exact hempty
      | cons d rest =>
        rw [Text.joinWith_cons_cons, String.append_assoc] at hempty
        exact (String.append_eq_empty_iff.1 hempty).1
    exact absurd hblank (by decide)
  · intro hsolid
    rw [conjunction, hsolid, Text.joinWith_nil]

/-- A conjunctive group is the conjunction of its clauses in parentheses. -/
theorem groupClause_and (clauses : List String) :
    groupClause .and false clauses =
      if conjunction clauses = "" then "" else "(" ++ conjunction clauses ++ ")" := by
  by_cases hempty : conjunction clauses = ""
  · rw [if_pos hempty, groupClause, conjunction_eq_empty_iff.1 hempty]
  · obtain ⟨c, rest, hsolid⟩ :=
      List.exists_cons_of_ne_nil fun hnil => hempty (conjunction_eq_empty_iff.2 hnil)
    rw [if_neg hempty, groupClause, conjunction, hsolid]
    rfl

/-- A clause in parentheses is not left out of a join. -/
theorem conjunction_enclosed (text : String) :
    conjunction ["(" ++ text ++ ")"] = "(" ++ text ++ ")" := by
  have hblank : Text.isBlankText ("(" ++ text ++ ")") = false := by
    rw [Text.isBlankText, String.toList_append, String.toList_append, List.all_append,
      List.all_append]
    rfl
  rw [conjunction, solid, List.filter_singleton, hblank]
  rfl

/-- The top-level join and a conjunctive group compose alike. With one more level of depth, a filter
in a group gives the text of the filter in parentheses, or nothing if the filter is empty; it drops
the same predicates and has the same error, each at its place in the group. -/
theorem compile_regrouped (maxDepth : Nat) (strict : Bool) (ps : List Predicate) :
    Regrouped maxDepth (fun f g => g = if f = "" then "" else "(" ++ f ++ ")")
      (compile ⟨maxDepth, strict⟩ ps)
      (compile ⟨maxDepth + 1, strict⟩ [.group .and false ps]) := by
  rw [compile_group, compile]
  refine (Regrouped.each (R := Eq) (fun i p _ => ?_) 0).map fun texts texts' htexts => ?_
  · have hpath : (Path.root.push (.entry i)).Regrouped
        ((Path.root.push (.entry 0)).push (.condition i)) := .mk i []
    exact (clause_regrouped maxDepth hpath p).orDrop rfl rfl hpath _
  · rw [List.forall₂_eq_eq_eq] at htexts
    rw [← htexts, groupClause_and]
    split
    · rfl
    · exact conjunction_enclosed _

end SearchIndex.Filter
