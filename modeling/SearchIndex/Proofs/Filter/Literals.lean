import SearchIndex.Proofs.Filter.CallerText
import SearchIndex.Proofs.Filter.ClauseRun
import SearchIndex.Proofs.Filter.ClauseSegments

/-!
# The literals of a filter

Which literals a filter has is known from its tree: the string of a comparison, the value and the
column of a pattern, the list of a membership test, and the literals of texts that callers wrote, in
the order of the predicates (`compile_hasLiterals`). So no string ends its literal early or takes up
what follows.
-/

namespace SearchIndex.Filter

/-! ## Literals of a tree -/

/-- The literals of a text, if they are closed. -/
def literalsIn? (text : String) : Option (List (List Char)) :=
  (Segment.cut text.toList).map Segment.literals

/-- The literals of a pattern: first the value with its wildcard. -/
def patternLiterals (column : String) (kind : PatternKind) (value : Scalar) : List (List Char) :=
  if value.isNull then [] else [(kind.wildcard value.text).toList, column.toList]

/-- The literals of a membership test: the members and the delimiter. A list with a null has no
clause. -/
def membershipLiterals (members : List Scalar) : List (List Char) :=
  if members.any Scalar.isNull then [] else [(memberList members).toList, [delimiter]]

namespace Predicate

mutual

/-- The literals that stand in the clause of the predicate. -/
def literals : Predicate → List (List Char)
  | .basic _ (.comparison _) (.string s) => [s.toList]
  | .basic _ (.comparison _) _ => []
  | .basic column (.pattern kind) value | .pattern column kind value =>
    patternLiterals column kind value
  | .isNull _ | .isNotNull _ | .boolean _ _ => []
  | .isIn _ members | .isNotIn _ members => membershipLiterals members
  | .raw text | .fragment text => (literalsIn? text).getD []
  | .group _ _ conditions => literalsOf conditions

/-- The literals of a list of predicates, in order. -/
def literalsOf : List Predicate → List (List Char)
  | [] => []
  | p :: rest => literals p ++ literalsOf rest

end

/-- The column has no quote, the caller's text closes its literals, and no string among the members
has the delimiter in it. -/
structure IsClosed (p : Predicate) : Prop where
  column : ∀ column ∈ p.column?, '\'' ∉ column.toList
  text : ∀ text ∈ p.callerText?, (Segment.cut text.toList).isSome
  members : ∀ s, .string s ∈ p.members → delimiter ∉ s.toList

/-- The literals of a list are those of its predicates in turn. -/
theorem literalsOf_eq_flatMap (ps : List Predicate) : literalsOf ps = ps.flatMap literals := by
  induction ps with
  | nil => rfl
  | cons p rest ih => rw [literalsOf, ih, List.flatMap_cons]

end Predicate

/-! ## Texts with given literals -/

/-- The literals of the text are closed, and these they are. -/
def HasLiterals (text : String) (ls : List (List Char)) : Prop :=
  literalsIn? text = some ls

section Texts

variable {s t : String} {ls ms : List (List Char)}

/-- The literals of a text are those of the segments that it is cut into. -/
theorem hasLiterals_iff :
    HasLiterals s ls ↔ ∃ ss, Cuts s.toList ss ∧ Segment.literals ss = ls := by
  simp only [HasLiterals, literalsIn?, Option.map_eq_some_iff, cut_eq_some_iff]

/-- A text that is cut has the literals among its segments. -/
theorem Cuts.hasLiterals {ss : List Segment} (h : Cuts s.toList ss) :
    HasLiterals s (Segment.literals ss) :=
  hasLiterals_iff.2 ⟨ss, h, rfl⟩

theorem hasLiterals_nil (h : '\'' ∉ s.toList) : HasLiterals s [] :=
  hasLiterals_iff.2 ⟨_, .ofPlain h, Segment.literals_plains _⟩

/-- The literals of two texts follow each other, unless two of their quotes meet. -/
theorem HasLiterals.append (hs : HasLiterals s ls) (ht : HasLiterals t ms)
    (hquote : '\'' ∉ s.toList ∨ t.toList.head? ≠ some '\'') : HasLiterals (s ++ t) (ls ++ ms) := by
  obtain ⟨ss, hss, rfl⟩ := hasLiterals_iff.1 hs
  obtain ⟨ts, hts, rfl⟩ := hasLiterals_iff.1 ht
  rw [← Segment.literals_append]
  exact (cuts_append hss hts hquote).hasLiterals

/-- Words of the grammar may stand around a text. -/
theorem HasLiterals.enclosed (h : HasLiterals t ls) {before after : String}
    (hbefore : '\'' ∉ before.toList) (hafter : '\'' ∉ after.toList) :
    HasLiterals (before ++ t ++ after) ls := by
  have hfront := (hasLiterals_nil hbefore).append h (.inl hbefore)
  have hall := hfront.append (hasLiterals_nil hafter) (.inr fun hhead =>
    hafter (List.mem_of_mem_head? hhead))
  simpa using hall

/-- Blank texts have no literals. -/
theorem HasLiterals.eq_nil_of_isBlankText (h : HasLiterals s ls)
    (hblank : Text.isBlankText s = true) : ls = [] := by
  have hquote : '\'' ∉ s.toList := fun hm =>
    absurd (List.all_eq_true.1 hblank '\'' hm) (by decide)
  have hnil := hasLiterals_nil hquote
  rw [HasLiterals] at h hnil
  exact Option.some_inj.1 (h.symm.trans hnil)

end Texts

/-! ## Clauses -/

section Clauses

variable {p : Predicate} {text : String}

/-- A pattern has its value with the wildcards as a literal, and its column. -/
theorem hasLiterals_patternClause {column : String} (hcol : '\'' ∉ column.toList)
    (kind : PatternKind) {value : Scalar} (hnull : value ≠ .null) :
    HasLiterals (patternClause column kind value) (patternLiterals column kind value) := by
  have hvalue : value.isNull = false := by
    cases value with
    | null => exact absurd rfl hnull
    | _ => rfl
  rw [patternLiterals, hvalue]
  simpa using (cuts_patternClause hcol kind value).hasLiterals

/-- A comparison has its value as a literal if it is a string. -/
theorem hasLiterals_comparisonClause {column : String} (hcol : '\'' ∉ column.toList)
    (operator : Operator) (value : Scalar) :
    HasLiterals (comparisonClause column operator value)
      (Predicate.basic column operator value).literals := by
  by_cases hnull : value = .null
  · subst hnull
    have hclause : HasLiterals (nullClause column) [] := by
      simpa using (cuts_nullClause hcol).hasLiterals
    cases operator <;> exact hclause
  · cases operator with
    | pattern kind =>
      rw [comparisonClause_pattern hnull]
      exact hasLiterals_patternClause hcol kind hnull
    | comparison c =>
      by_cases hstring : value.IsString
      · obtain ⟨s, rfl⟩ := hstring
        simpa [Predicate.literals] using (cuts_stringComparison hcol c s).hasLiterals
      · have hnone : (Predicate.basic column (.comparison c) value).literals = [] := by
          rw [Predicate.literals]
          exact fun s hs => hstring ⟨s, hs⟩
        rw [hnone]
        simpa using (cuts_plainComparison hcol c hnull hstring).hasLiterals

/-- A membership test has its list and the delimiter as literals. -/
theorem hasLiterals_membershipClause {column : String} (hcol : '\'' ∉ column.toList)
    {members : List Scalar} (h : membershipClause column members = .ok text) :
    HasLiterals text (membershipLiterals members) := by
  have hnulls : members.any Scalar.isNull = false := by
    rw [List.any_eq_false]
    intro m hm
    have hmember := ((membershipClause_eq_ok_iff.1 h).1 m hm).1
    cases m with
    | null => exact absurd rfl hmember
    | _ => exact Bool.false_ne_true
  rw [membershipLiterals, hnulls]
  simpa [delimiter] using (cuts_membershipClause hcol h).hasLiterals

/-- Parentheses around a text add no literals. -/
theorem hasLiterals_encloseText {ls : List (List Char)} (h : HasLiterals text ls) :
    HasLiterals (encloseText text) ls := by
  obtain ⟨ss, hss, rfl⟩ := hasLiterals_iff.1 h
  obtain ⟨ts, hts, hcases⟩ := exists_cuts_enclose hss
  refine hasLiterals_iff.2 ⟨ts, by rwa [encloseText, String.toList_ofList], ?_⟩
  obtain ⟨rfl, -⟩ | rfl := hcases
  · rfl
  · simp

/-- The normal form of a text has its literals. -/
theorem hasLiterals_normalizeText {ls : List (List Char)} (h : HasLiterals text ls) :
    HasLiterals (normalizeText text) ls := by
  obtain ⟨ss, hss, rfl⟩ := hasLiterals_iff.1 h
  obtain ⟨ts, hts, hframe⟩ := hasFrame_normalize hss
  refine hasLiterals_iff.2 ⟨ts, by rwa [normalizeText, String.toList_ofList], ?_⟩
  rw [← literals_frame, hframe, literals_frame]

/-- The text of a caller has its own literals. -/
theorem hasLiterals_self (h : (Segment.cut text.toList).isSome) :
    HasLiterals text ((literalsIn? text).getD []) := by
  obtain ⟨ss, hss⟩ := Option.isSome_iff_exists.1 h
  simp only [HasLiterals, literalsIn?, hss, Option.map_some, Option.getD_some]

/-- The literals of the clause of a predicate that is no group. -/
theorem hasLiterals_leafClause (hp : p.IsClosed) (h : LeafText p text) :
    HasLiterals text p.literals := by
  cases h with
  | basic column operator value =>
    exact hasLiterals_comparisonClause (hp.column column rfl) operator value
  | nullPattern column kind =>
    exact hasLiterals_comparisonClause (hp.column column rfl) (.pattern kind) .null
  | pattern column kind hvalue => exact hasLiterals_patternClause (hp.column column rfl) kind hvalue
  | isNull column => exact hasLiterals_nil (by simp [nullClause, hp.column column rfl])
  | isNotNull column => exact hasLiterals_nil (by simp [hp.column column rfl])
  | isIn hcall => exact hasLiterals_membershipClause (hp.column _ rfl) hcall
  | isNotIn hcall =>
    have hnot : HasLiterals "not " [] := hasLiterals_nil (by decide)
    exact hnot.append (hasLiterals_membershipClause (hp.column _ rfl) hcall) (.inl (by decide))
  | boolean column value =>
    refine hasLiterals_nil ?_
    cases value <;> simp [hp.column column rfl]
  | raw text =>
    exact hasLiterals_encloseText (hasLiterals_normalizeText (hasLiterals_self (hp.text text rfl)))
  | fragment text => exact hasLiterals_encloseText (hasLiterals_self (hp.text text rfl))

/-- Scalars other than null are members, if no string among them has the delimiter in it. -/
theorem isMember_of_mem {members : List Scalar} (hnulls : members.any Scalar.isNull = false)
    (hstrings : ∀ s, .string s ∈ members → delimiter ∉ s.toList) : ∀ m ∈ members, m.IsMember := by
  intro m hm
  refine ⟨?_, fun s hs => hstrings s (hs ▸ hm)⟩
  rintro rfl
  exact List.any_eq_false.1 hnulls _ hm rfl

/-- A membership test that is refused for a null has no literals. -/
theorem membershipLiterals_of_error {column : String} {members : List Scalar} {defect : Defect}
    (hstrings : ∀ s, .string s ∈ members → delimiter ∉ s.toList)
    (h : membershipClause column members = .error defect) : membershipLiterals members = [] := by
  cases hnulls : members.any Scalar.isNull with
  | true => rw [membershipLiterals, hnulls, if_pos rfl]
  | false =>
    have hok : membershipClause column members = .ok _ :=
      membershipClause_eq_ok_iff.2 ⟨isMember_of_mem hnulls hstrings, rfl⟩
    rw [h] at hok
    cases hok

/-- A predicate without a clause has no literals, since its list has a null. -/
theorem literals_of_leafClause_error (hp : p.IsClosed) {defect : Defect}
    (h : leafClause p = .error defect) : p.literals = [] := by
  cases p with
  | isIn column members => exact membershipLiterals_of_error hp.members h
  | isNotIn column members =>
    exact membershipLiterals_of_error hp.members (exists_of_map_eq_error h)
  | pattern column kind value => cases value <;> cases h
  | _ => cases h

end Clauses

/-! ## Joins -/

/-- The literals of joined texts are those of the texts in turn. -/
theorem hasLiterals_joinWith {separator : String} (hspace : separator.toList.head? = some ' ')
    (hquote : '\'' ∉ separator.toList) {texts : List String} {lists : List (List (List Char))}
    (h : List.Forall₂ HasLiterals texts lists) :
    HasLiterals (Text.joinWith separator texts) lists.flatten := by
  induction h with
  | nil => exact hasLiterals_nil nofun
  | @cons s ls rest lists hs hrest ih =>
    cases hrest with
    | nil => simpa using hs
    | @cons t ms rest lists ht hrest =>
      rw [Text.joinWith_cons_cons, String.append_assoc, List.flatten_cons]
      have htail := (hasLiterals_nil hquote).append ih (.inl hquote)
      refine hs.append htail (.inr ?_)
      rw [head?_separator_append hspace]
      decide

/-- The literals of a join are not changed when blank texts are left out. -/
theorem exists_hasLiterals_solid {texts : List String} {lists : List (List (List Char))}
    (h : List.Forall₂ HasLiterals texts lists) :
    ∃ more, List.Forall₂ HasLiterals (solid texts) more ∧ more.flatten = lists.flatten := by
  induction h with
  | nil => exact ⟨[], .nil, rfl⟩
  | @cons s ls rest lists hs _ ih =>
    obtain ⟨more, hmore, hflatten⟩ := ih
    rw [List.flatten_cons, ← hflatten]
    cases hblank : Text.isBlankText s with
    | true =>
      refine ⟨more, ?_, ?_⟩
      · rwa [solid, List.filter_cons_of_neg (by simp [hblank])]
      · rw [hs.eq_nil_of_isBlankText hblank, List.nil_append]
    | false =>
      refine ⟨ls :: more, ?_, rfl⟩
      rw [solid, List.filter_cons_of_pos (by simp [hblank])]
      exact .cons hs hmore

theorem hasLiterals_conjunction {texts : List String} {lists : List (List (List Char))}
    (h : List.Forall₂ HasLiterals texts lists) :
    HasLiterals (conjunction texts) lists.flatten := by
  obtain ⟨more, hmore, hflatten⟩ := exists_hasLiterals_solid h
  rw [← hflatten]
  exact hasLiterals_joinWith rfl (by decide) hmore

theorem hasLiterals_groupClause (connective : Connective) (negated : Bool) {texts : List String}
    {lists : List (List (List Char))} (h : List.Forall₂ HasLiterals texts lists) :
    HasLiterals (groupClause connective negated texts) lists.flatten := by
  obtain ⟨more, hmore, hflatten⟩ := exists_hasLiterals_solid h
  rw [← hflatten]
  unfold groupClause
  split
  · next hsolid =>
    rw [hsolid] at hmore
    cases hmore
    exact hasLiterals_nil nofun
  · next c rest hsolid =>
    rw [hsolid] at hmore
    have hquote : '\'' ∉ (" " ++ connective.word ++ " ").toList := by cases connective <;> decide
    have hjoined := hasLiterals_joinWith (by cases connective <;> rfl) hquote hmore
    cases negated with
    | false => exact hjoined.enclosed (by decide) (by decide)
    | true => exact hjoined.enclosed (by decide) (by decide)

/-! ## Filters -/

/-- In the clause of a tree stand the literals of the tree. -/
def ShowsLiterals (p : Predicate) (text : String) : Prop :=
  (∀ q ∈ p.nodes, q.IsClosed) → HasLiterals text p.literals

/-- Texts that show the literals of trees with closed literals have them. -/
theorem forall₂_hasLiterals {ps : List Predicate} {texts : List String}
    (h : List.Forall₂ ShowsLiterals ps texts) (hclosed : ∀ q ∈ Predicate.nodesOf ps, q.IsClosed) :
    List.Forall₂ HasLiterals texts (ps.map Predicate.literals) := by
  induction h with
  | nil => exact .nil
  | @cons p text rest texts hp _ ih =>
    simp only [Predicate.nodesOf, List.mem_append] at hclosed
    exact .cons (hp fun q hq => hclosed q (.inl hq)) (ih fun q hq => hclosed q (.inr hq))

/-- A predicate without a clause has no literals to show. -/
theorem showsLiterals_of_error {p : Predicate} {defect : Defect}
    (h : leafClause p = .error defect) : ShowsLiterals p "" := by
  intro hclosed
  rw [literals_of_leafClause_error (hclosed p p.self_mem_nodes) h]
  exact hasLiterals_nil nofun

/-- The clause of a predicate shows its literals, with any options and any levels left. -/
theorem clause_showsLiterals (options : Options) (room : Nat) (path : Path) (p : Predicate) :
    (clause options room path p).Gives (ShowsLiterals p) := by
  refine gives_clause (fun p defect _ h => showsLiterals_of_error h)
    (fun p text hleaf htext hclosed => ?_)
    (fun connective negated conditions clauses hclauses hclosed => ?_) room path p
  · exact hasLiterals_leafClause (hclosed p p.self_mem_nodes) (leafText_of_leafClause hleaf htext)
  · have hconditions : ∀ q ∈ Predicate.nodesOf conditions, q.IsClosed := fun q hq =>
      hclosed q (List.mem_cons_of_mem _ hq)
    have hgroup := hasLiterals_groupClause connective negated
      (forall₂_hasLiterals hclauses hconditions)
    rwa [← List.flatMap_def, ← Predicate.literalsOf_eq_flatMap] at hgroup

/-- The literals of a filter are those of its predicates, in order. -/
theorem compile_hasLiterals {options : Options} {ps : List Predicate} {f : String}
    (hclosed : ∀ p ∈ Predicate.nodesOf ps, p.IsClosed)
    (hf : (compile options ps).result = .ok f) : HasLiterals f (Predicate.literalsOf ps) := by
  obtain ⟨clauses, hclauses, rfl⟩ := gives_compile (fun p defect _ h => showsLiterals_of_error h)
    (clause_showsLiterals options) ps f hf
  have hjoined := hasLiterals_conjunction (forall₂_hasLiterals hclauses hclosed)
  rwa [← List.flatMap_def, ← Predicate.literalsOf_eq_flatMap] at hjoined

end SearchIndex.Filter
