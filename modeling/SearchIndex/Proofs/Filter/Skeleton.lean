import SearchIndex.Proofs.Filter.Literals

/-!
# Strings stay in their literals

Two trees of the same shape differ in the contents of their strings only. They both fail to compile
or give filters that differ in the contents of their literals only (`compile_sameSkeleton`), so no
string can change what a filter asks for. Each tree is compared with its shape, in which all strings
are empty.
-/

namespace SearchIndex.Filter

open Report (Rel)

/-! ## Shapes of trees -/

/-- The scalar, with a string made empty. -/
def Scalar.shape : Scalar → Scalar
  | .string _ => .string ""
  | value => value

namespace Predicate

mutual

/-- The predicate, with all strings made empty. Columns and texts of callers are kept. -/
def shape : Predicate → Predicate
  | .basic column operator value => .basic column operator value.shape
  | .pattern column kind value => .pattern column kind value.shape
  | .isIn column members => .isIn column (members.map Scalar.shape)
  | .isNotIn column members => .isNotIn column (members.map Scalar.shape)
  | .group connective negated conditions => .group connective negated (shapeOf conditions)
  | p => p

/-- The predicates, with all strings made empty. -/
def shapeOf : List Predicate → List Predicate
  | [] => []
  | p :: rest => shape p :: shapeOf rest

end

theorem isGroup_shape (p : Predicate) : p.shape.isGroup = p.isGroup := by
  cases p <;> simp only [shape, isGroup]

theorem kindName_shape (p : Predicate) : p.shape.kindName = p.kindName := by
  cases p <;> simp only [shape, kindName]

/-- Each predicate has its shape at the same place. -/
theorem forall₂_shapeOf (ps : List Predicate) :
    List.Forall₂ (fun p q => q = p.shape) ps (shapeOf ps) := by
  induction ps with
  | nil => exact .nil
  | cons p rest ih => exact .cons rfl ih

end Predicate

/-! ## Skeletons of texts -/

/-- The segment, with the text of a literal made empty. -/
def Segment.erase : Segment → Segment
  | .literal _ => .literal []
  | .plain c => .plain c

theorem Segment.isBlank_erase (s : Segment) : s.erase.isBlank = s.isBlank := by
  cases s <;> rfl

/-- The segments of a text with closed literals, where the same placeholder stands for each literal. -/
def skeleton? (text : String) : Option (List Segment) :=
  (Segment.cut text.toList).map fun ss => ss.map Segment.erase

/-- Both texts close their literals, and they are the same but for the contents of literals. -/
def SameSkeleton (s t : String) : Prop :=
  ∃ sk, skeleton? s = some sk ∧ skeleton? t = some sk

section Texts

variable {s s' t t' : String}

/-- Texts have the same skeleton if their segments are the same but for the contents of literals. -/
theorem sameSkeleton_iff : SameSkeleton s t ↔ ∃ ss ts, Cuts s.toList ss ∧ Cuts t.toList ts ∧
    ss.map Segment.erase = ts.map Segment.erase := by
  simp only [SameSkeleton, skeleton?, Option.map_eq_some_iff, cut_eq_some_iff]
  constructor
  · rintro ⟨sk, ⟨ss, hss, rfl⟩, ts, hts, h⟩
    exact ⟨ss, ts, hss, hts, h.symm⟩
  · rintro ⟨ss, ts, hss, hts, h⟩
    exact ⟨_, ⟨ss, hss, rfl⟩, ts, hts, h.symm⟩

/-- A text with closed literals has the skeleton of itself. -/
theorem HasLiterals.sameSkeleton {ls : List (List Char)} (h : HasLiterals s ls) :
    SameSkeleton s s := by
  obtain ⟨ss, hss, -⟩ := hasLiterals_iff.1 h
  exact sameSkeleton_iff.2 ⟨ss, ss, hss, hss, rfl⟩

theorem sameSkeleton_plain (h : '\'' ∉ s.toList) : SameSkeleton s s :=
  (hasLiterals_nil h).sameSkeleton

theorem sameSkeleton_empty : SameSkeleton "" "" :=
  sameSkeleton_plain nofun

theorem SameSkeleton.symm (h : SameSkeleton s t) : SameSkeleton t s := by
  obtain ⟨sk, hs, ht⟩ := h
  exact ⟨sk, ht, hs⟩

/-- Texts with the skeleton of a third one have the same skeleton. -/
theorem SameSkeleton.trans {u : String} (hs : SameSkeleton s t) (ht : SameSkeleton t u) :
    SameSkeleton s u := by
  obtain ⟨sk, hs, hst⟩ := hs
  obtain ⟨sk', htu, hu⟩ := ht
  rw [hst] at htu
  cases htu
  exact ⟨sk, hs, hu⟩

/-- Texts with the same skeletons one for one have the same skeleton together, unless quotes meet.
-/
theorem SameSkeleton.append (hs : SameSkeleton s s') (ht : SameSkeleton t t')
    (hquote : '\'' ∉ s.toList ∨ t.toList.head? ≠ some '\'')
    (hquote' : '\'' ∉ s'.toList ∨ t'.toList.head? ≠ some '\'') :
    SameSkeleton (s ++ t) (s' ++ t') := by
  obtain ⟨ss, ss', hss, hss', hs⟩ := sameSkeleton_iff.1 hs
  obtain ⟨ts, ts', hts, hts', ht⟩ := sameSkeleton_iff.1 ht
  refine sameSkeleton_iff.2 ⟨ss ++ ts, ss' ++ ts', cuts_append hss hts hquote,
    cuts_append hss' hts' hquote', ?_⟩
  rw [List.map_append, List.map_append, hs, ht]

/-- Words of the grammar may stand around the texts. -/
theorem SameSkeleton.enclosed (h : SameSkeleton t t') {before after : String}
    (hbefore : '\'' ∉ before.toList) (hafter : '\'' ∉ after.toList) :
    SameSkeleton (before ++ t ++ after) (before ++ t' ++ after) := by
  have hhead : after.toList.head? ≠ some '\'' := fun hhead => hafter (List.mem_of_mem_head? hhead)
  have hfront := (sameSkeleton_plain hbefore).append h (.inl hbefore) (.inl hbefore)
  exact hfront.append (sameSkeleton_plain hafter) (.inr hhead) (.inr hhead)

/-- Texts with the same skeleton are both blank or both not. -/
theorem SameSkeleton.isBlankText_eq (h : SameSkeleton s t) :
    Text.isBlankText s = Text.isBlankText t := by
  obtain ⟨ss, ts, hss, hts, h⟩ := sameSkeleton_iff.1 h
  have herased := congrArg (List.all · Segment.isBlank) h
  simp only [List.all_map, Function.comp_def, Segment.isBlank_erase] at herased
  rw [Text.isBlankText, Text.isBlankText, all_isBlank_of_cuts hss, all_isBlank_of_cuts hts]
  exact herased

end Texts

/-! ## Clauses of single predicates -/

/-- The clauses of two predicates: the same defect, or texts with the same skeleton. -/
inductive SameClause : Except Defect String → Except Defect String → Prop
  | ok {s t : String} (h : SameSkeleton s t) : SameClause (.ok s) (.ok t)
  | error (defect : Defect) : SameClause (.error defect) (.error defect)

/-- Clauses with the same skeleton keep it in what is made of them. -/
theorem SameClause.map {f : String → String} {r r' : Except Defect String} (h : SameClause r r')
    (hf : ∀ {s t}, SameSkeleton s t → SameSkeleton (f s) (f t)) :
    SameClause (r.map f) (r'.map f) := by
  cases h with
  | ok h => exact .ok (hf h)
  | error defect => exact .error defect

section Clauses

variable {column : String}

/-- The skeleton of a pattern does not depend on its value. -/
theorem sameSkeleton_patternClause (hcol : '\'' ∉ column.toList) (kind : PatternKind)
    (value value' : Scalar) :
    SameSkeleton (patternClause column kind value) (patternClause column kind value') := by
  refine sameSkeleton_iff.2 ⟨_, _, cuts_patternClause hcol kind value,
    cuts_patternClause hcol kind value', ?_⟩
  simp only [List.map_append, List.map_cons, Segment.erase]

/-- The skeleton of a comparison does not depend on its string. -/
theorem sameSkeleton_stringComparison (hcol : '\'' ∉ column.toList) (c : Comparison)
    (s t : String) :
    SameSkeleton (comparisonClause column (.comparison c) (.string s))
      (comparisonClause column (.comparison c) (.string t)) := by
  refine sameSkeleton_iff.2 ⟨_, _, cuts_stringComparison hcol c s,
    cuts_stringComparison hcol c t, ?_⟩
  simp only [List.map_append, List.map_cons, Segment.erase]

/-- The null of a list is found, if no delimiter comes before it. -/
theorem membershipClause_eq_error {members : List Scalar}
    (hstrings : ∀ s, .string s ∈ members → delimiter ∉ s.toList)
    (hnull : members.any Scalar.isNull = true) :
    membershipClause column members = .error (.nullInMembership column) := by
  have htexts : memberTexts column members = .error (.nullInMembership column) := by
    induction members with
    | nil => cases hnull
    | cons m rest ih =>
      by_cases hm : m = .null
      · subst hm
        rfl
      · have hmember : m.IsMember := ⟨hm, fun s hs => hstrings s (hs ▸ List.mem_cons_self)⟩
        have hrest : rest.any Scalar.isNull = true := by
          cases m with
          | null => exact absurd rfl hm
          | _ => exact hnull
        have hok : memberText column m = .ok _ := memberText_eq_ok_iff.2 ⟨hmember, rfl⟩
        rw [memberTexts, hok]
        simp only [ih (fun s hs => hstrings s (List.mem_cons_of_mem _ hs)) hrest]
        rfl
  rw [membershipClause, htexts]
  rfl

/-- The shapes of members have a null if the members have one. -/
theorem any_isNull_map_shape (members : List Scalar) :
    (members.map Scalar.shape).any Scalar.isNull = members.any Scalar.isNull := by
  rw [List.any_map]
  refine congrArg members.any (funext fun m => ?_)
  cases m <;> rfl

/-- Empty strings have no delimiter in them. -/
theorem not_mem_of_mem_map_shape {members : List Scalar} {s : String}
    (h : .string s ∈ members.map Scalar.shape) : delimiter ∉ s.toList := by
  obtain ⟨m, -, hm⟩ := List.mem_map.1 h
  cases m with
  | string t =>
    cases hm
    nofun
  | _ => cases hm

/-- A membership test has the same skeleton, or the same defect, with empty strings. -/
theorem sameClause_membershipClause (hcol : '\'' ∉ column.toList) {members : List Scalar}
    (hstrings : ∀ s, .string s ∈ members → delimiter ∉ s.toList) :
    SameClause (membershipClause column members)
      (membershipClause column (members.map Scalar.shape)) := by
  cases hnull : members.any Scalar.isNull with
  | true =>
    rw [membershipClause_eq_error hstrings hnull, membershipClause_eq_error
      (fun _ => not_mem_of_mem_map_shape) ((any_isNull_map_shape members).trans hnull)]
    exact .error _
  | false =>
    have hnull' := (any_isNull_map_shape members).trans hnull
    have hok : membershipClause column members = .ok _ :=
      membershipClause_eq_ok_iff.2 ⟨isMember_of_mem hnull hstrings, rfl⟩
    have hok' : membershipClause column (members.map Scalar.shape) = .ok _ :=
      membershipClause_eq_ok_iff.2
        ⟨isMember_of_mem hnull' fun _ => not_mem_of_mem_map_shape, rfl⟩
    have hsame := sameSkeleton_iff.2 ⟨_, _, cuts_membershipClause hcol hok,
      cuts_membershipClause hcol hok', by simp only [List.map_append, List.map_cons, Segment.erase]⟩
    rw [hok, hok']
    exact .ok hsame

/-- A predicate that is no group and its shape have the same clause. -/
theorem sameClause_leafClause {p : Predicate} (hp : p.IsClosed) (hleaf : p.isGroup = false) :
    SameClause (leafClause p) (leafClause p.shape) := by
  -- A shape differs in strings only, so all other leaves are compared with themselves.
  have hself (h : p.shape = p) : SameClause (leafClause p) (leafClause p.shape) := by
    rw [h]
    cases hclause : leafClause p with
    | error defect => exact .error defect
    | ok text => exact .ok (hasLiterals_leafClause hp (leafText_of_leafClause hleaf hclause)).sameSkeleton
  cases p with
  | basic column operator value =>
    cases value with
    | string s =>
      cases operator with
      | comparison c => exact .ok (sameSkeleton_stringComparison (hp.column column rfl) c s "")
      | pattern kind => exact .ok (sameSkeleton_patternClause (hp.column column rfl) kind _ _)
    | _ => exact hself rfl
  | pattern column kind value =>
    cases value with
    | string s => exact .ok (sameSkeleton_patternClause (hp.column column rfl) kind _ _)
    | _ => exact hself rfl
  | isIn column members => exact sameClause_membershipClause (hp.column column rfl) hp.members
  | isNotIn column members =>
    exact (sameClause_membershipClause (hp.column column rfl) hp.members).map fun h =>
      (sameSkeleton_plain (by decide)).append h (.inl (by decide)) (.inl (by decide))
  | group connective negated conditions => cases hleaf
  | _ => exact hself rfl

end Clauses

/-! ## Joins -/

section Joins

variable {texts texts' : List String}

/-- Joined texts have the same skeleton if they have it one for one. -/
theorem sameSkeleton_joinWith {separator : String} (hspace : separator.toList.head? = some ' ')
    (hquote : '\'' ∉ separator.toList) (h : List.Forall₂ SameSkeleton texts texts') :
    SameSkeleton (Text.joinWith separator texts) (Text.joinWith separator texts') := by
  induction h with
  | nil => exact sameSkeleton_empty
  | @cons s s' rest rest' hs hrest ih =>
    cases hrest with
    | nil => exact hs
    | @cons t t' rest rest' ht hrest =>
      rw [Text.joinWith_cons_cons, Text.joinWith_cons_cons, String.append_assoc,
        String.append_assoc]
      have htail := (sameSkeleton_plain hquote).append ih (.inl hquote) (.inl hquote)
      refine hs.append htail (.inr ?_) (.inr ?_)
      all_goals rw [head?_separator_append hspace]; decide

/-- The same clauses are left out of both joins. -/
theorem sameSkeleton_solid (h : List.Forall₂ SameSkeleton texts texts') :
    List.Forall₂ SameSkeleton (solid texts) (solid texts') := by
  refine List.rel_filter (fun s t hst => ?_) h
  show (!Text.isBlankText s) = true ↔ (!Text.isBlankText t) = true
  rw [hst.isBlankText_eq]

theorem sameSkeleton_conjunction (h : List.Forall₂ SameSkeleton texts texts') :
    SameSkeleton (conjunction texts) (conjunction texts') :=
  sameSkeleton_joinWith rfl (by decide) (sameSkeleton_solid h)

theorem sameSkeleton_groupClause (connective : Connective) (negated : Bool)
    (h : List.Forall₂ SameSkeleton texts texts') :
    SameSkeleton (groupClause connective negated texts)
      (groupClause connective negated texts') := by
  have hsolid := sameSkeleton_solid h
  have hquote : '\'' ∉ (" " ++ connective.word ++ " ").toList := by cases connective <;> decide
  have hjoined := sameSkeleton_joinWith (by cases connective <;> rfl) hquote hsolid
  unfold groupClause
  generalize solid texts = clauses, solid texts' = clauses' at hsolid hjoined
  cases hsolid with
  | nil => exact sameSkeleton_empty
  | cons _ _ =>
    cases negated with
    | false => exact hjoined.enclosed (by decide) (by decide)
    | true => exact hjoined.enclosed (by decide) (by decide)

end Joins

/-! ## Two runs -/

/-- The clauses of a tree and of its shape. -/
theorem clause_sameSkeleton (options : Options) (room : Nat) (path : Path) {p : Predicate}
    (hclosed : ∀ q ∈ p.nodes, q.IsClosed) :
    Rel SameSkeleton (clause options room path p) (clause options room path p.shape) := by
  induction room generalizing path p with
  | zero => exact .error [] _
  | succ room ih =>
    cases p using Predicate.leaf_or_group with
    | leaf p hp =>
      rw [clause_of_leaf hp, clause_of_leaf ((Predicate.isGroup_shape p).trans hp)]
      have hleaf := sameClause_leafClause (hclosed p p.self_mem_nodes) hp
      generalize leafClause p = r, leafClause p.shape = r' at hleaf
      cases hleaf with
      | ok h => exact .ok [] h
      | error defect => exact .error [] _
    | group connective negated conditions =>
      refine Rel.map (Rel.each (Predicate.forall₂_shapeOf conditions) ?_ 0)
        fun _ _ h => sameSkeleton_groupClause connective negated h
      rintro i child hchild _ - rfl
      have hnodes := Predicate.nodes_subset_nodes_group hchild connective negated
      rw [Predicate.kindName_shape]
      exact (ih _ fun q hq => hclosed q (hnodes hq)).orDrop sameSkeleton_empty _ _ _

/-- The filters of predicates and of their shapes. -/
theorem compile_shapeOf (options : Options) {ps : List Predicate}
    (hclosed : ∀ p ∈ Predicate.nodesOf ps, p.IsClosed) :
    Rel SameSkeleton (compile options ps) (compile options (Predicate.shapeOf ps)) := by
  refine Rel.map (Rel.each (Predicate.forall₂_shapeOf ps) ?_ 0)
    fun _ _ h => sameSkeleton_conjunction h
  rintro i p hp _ - rfl
  rw [guardedClause, guardedClause, Predicate.kindName_shape]
  refine (clause_sameSkeleton options _ _ fun q hq => ?_).orDrop sameSkeleton_empty _ _ _
  exact hclosed q (Predicate.nodes_subset_nodesOf hp hq)

/-- Trees that differ in the contents of their strings only both fail to compile, or give filters
that differ in the contents of their literals only. The literals are those of the trees. -/
theorem compile_sameSkeleton {options : Options} {ps qs : List Predicate}
    (hshape : Predicate.shapeOf ps = Predicate.shapeOf qs)
    (hps : ∀ p ∈ Predicate.nodesOf ps, p.IsClosed)
    (hqs : ∀ q ∈ Predicate.nodesOf qs, q.IsClosed) :
    (∃ e, (compile options ps).result = .error e ∧ (compile options qs).result = .error e) ∨
      ∃ f g, (compile options ps).result = .ok f ∧ (compile options qs).result = .ok g ∧
        SameSkeleton f g ∧ HasLiterals f (Predicate.literalsOf ps) ∧
        HasLiterals g (Predicate.literalsOf qs) := by
  -- Both runs are compared with that of the one shape, in which the literals are empty.
  have hp := compile_shapeOf options hps
  have hq := compile_shapeOf options hqs
  rw [← hshape] at hq
  obtain ⟨e, hpe, hse⟩ | ⟨f, sf, hpf, hsf, hf⟩ := hp.result
  · obtain ⟨e', hqe, hse'⟩ | ⟨g, sg, hqg, hsg, -⟩ := hq.result
    · rw [hse] at hse'
      cases hse'
      exact .inl ⟨e, hpe, hqe⟩
    · rw [hse] at hsg
      cases hsg
  · obtain ⟨e', hqe, hse'⟩ | ⟨g, sg, hqg, hsg, hg⟩ := hq.result
    · rw [hsf] at hse'
      cases hse'
    · rw [hsf] at hsg
      cases hsg
      exact .inr ⟨f, g, hpf, hqg, hf.trans hg.symm, compile_hasLiterals hps hpf,
        compile_hasLiterals hqs hqg⟩

/-- A string that tries to close its literal, next to a harmless one. -/
theorem compile_sameSkeleton_quotes :
    SameSkeleton "not (search.in(a, 'x''', ',') or b eq ''') or (c eq ''')"
      "not (search.in(a, 'y', ',') or b eq 'z')" := by
  have hclosed (s t : String) (hs : delimiter ∉ s.toList) :
      ∀ p ∈ Predicate.nodesOf [.group .or true [.isIn "a" [.string s],
        .basic "b" (.comparison .eq) (.string t)]], p.IsClosed := by
    intro p hp
    simp only [Predicate.nodesOf, Predicate.nodes, List.cons_append, List.nil_append,
      List.append_nil, List.mem_cons, List.not_mem_nil, or_false] at hp
    rcases hp with rfl | rfl | rfl
    · exact ⟨by rintro _ ⟨⟩, by rintro _ ⟨⟩, by rintro _ ⟨⟩⟩
    · exact ⟨by rintro _ ⟨⟩; decide, by rintro _ ⟨⟩, by simpa [Predicate.members] using hs⟩
    · exact ⟨by rintro _ ⟨⟩; decide, by rintro _ ⟨⟩, by rintro _ ⟨⟩⟩
  obtain ⟨e, he, -⟩ | ⟨f, g, hf, hg, hsame, -, -⟩ := @compile_sameSkeleton {} _ _ (by rfl)
    (hclosed "x'" "') or (c eq '" (by decide)) (hclosed "y" "z" (by decide))
  · cases he
  · cases hf
    cases hg
    exact hsame

end SearchIndex.Filter
