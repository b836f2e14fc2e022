import SearchIndex.Proofs.Filter.CallerText
import SearchIndex.Proofs.Filter.ClauseRun
import SearchIndex.Proofs.Filter.ClauseSegments

/-!
# Clauses are conjuncts

A filter is a conjunction of clauses, and so is a group with the connective `and`. Each clause has to
stay one condition of the conjunction, or it would let in records that another condition keeps out.
`compile_isConjunct`: a filter and the clause of each node of its tree close their literals and
parentheses and have no `or` outside of them, provided that columns are identifiers and that texts
of callers close what they open.
-/

namespace SearchIndex.Filter

open Segment (plains plains_append depthFrom Sealed)

/-- Literals and parentheses of the text are closed. -/
def IsBalanced (text : String) : Prop :=
  ∃ ss, Segment.cut text.toList = some ss ∧ depthFrom 0 ss = some 0

/-- The text is balanced and has no `or` outside of literals and parentheses. -/
def IsConjunct (text : String) : Prop :=
  ∃ ss, Segment.cut text.toList = some ss ∧ Sealed ss

/-- The column is an identifier, and the text of the caller is balanced. -/
structure Predicate.IsOrderly (p : Predicate) : Prop where
  column : ∀ column ∈ p.column?, isIdentifier column.toList = true
  text : ∀ text ∈ p.callerText?, IsBalanced text

/-! ## Texts in a row -/

/-- A text whose segments are sealed is a conjunct. -/
theorem Cuts.isConjunct {text : String} {ss : List Segment} (h : Cuts text.toList ss)
    (hsealed : Sealed ss) : IsConjunct text :=
  ⟨ss, cut_of_cuts h, hsealed⟩

section Rows

variable {s t : String}

/-- A conjunct is balanced. -/
theorem IsConjunct.isBalanced (h : IsConjunct s) : IsBalanced s := by
  obtain ⟨ss, hcut, hsealed⟩ := h
  exact ⟨ss, hcut, hsealed.1⟩

/-- Balanced texts make one, unless two of their quotes meet. -/
theorem IsBalanced.append (hs : IsBalanced s) (ht : IsBalanced t)
    (hquote : '\'' ∉ s.toList ∨ t.toList.head? ≠ some '\'') : IsBalanced (s ++ t) := by
  obtain ⟨ss, hss, hs⟩ := hs
  obtain ⟨ts, hts, ht⟩ := ht
  refine ⟨ss ++ ts, cut_of_cuts ?_, ?_⟩
  · exact cuts_append (cut_eq_some_iff.1 hss) (cut_eq_some_iff.1 hts) hquote
  · rw [Segment.depthFrom_append, hs]
    exact ht

/-- Conjuncts make one, unless two of their quotes or two of their names meet. -/
theorem IsConjunct.append (hs : IsConjunct s) (ht : IsConjunct t)
    (hquote : '\'' ∉ s.toList ∨ t.toList.head? ≠ some '\'')
    (hseam : s.toList.getLast?.any RawText.inName = false ∨
      t.toList.head?.any RawText.inName = false) : IsConjunct (s ++ t) := by
  obtain ⟨ss, hss, hs⟩ := hs
  obtain ⟨ts, hts, ht⟩ := ht
  rw [cut_eq_some_iff] at hss hts
  refine (cuts_append hss hts hquote).isConjunct (hs.append ht ?_)
  refine hseam.imp (fun hlast => ?_) (fun hhead => ?_)
  · exact hss.getLast?_inName (Text.eq_false_of_any_eq_false hlast)
  · exact hts.head?_inName (Text.eq_false_of_any_eq_false hhead)

/-- Words of the grammar other than `or`. -/
theorem isConjunct_of_not_mem (hquote : '\'' ∉ s.toList) (hopen : '(' ∉ s.toList)
    (hclose : ')' ∉ s.toList)
    (h : 'o' ∉ s.toList.map Char.toLower ∨ 'r' ∉ s.toList.map Char.toLower) : IsConjunct s :=
  (Cuts.ofPlain hquote).isConjunct (Segment.sealed_plains hopen hclose h)

/-- Parentheses around a balanced text make it a conjunct. -/
theorem IsBalanced.enclosed (h : IsBalanced s) : IsConjunct ("(" ++ s ++ ")") := by
  obtain ⟨ss, hss, hdepth⟩ := h
  have hclose : Cuts (s ++ ")").toList (ss ++ plains ")".toList) :=
    cuts_append (cut_eq_some_iff.1 hss) (.ofPlain (by decide)) (.inr (by decide))
  have hboth : Cuts ("(" ++ (s ++ ")")).toList (plains "(".toList ++ (ss ++ plains ")".toList)) :=
    cuts_append (.ofPlain (by decide)) hclose (.inl (by decide))
  rw [String.append_assoc]
  exact hboth.isConjunct (Segment.sealed_enclosed hdepth)

end Rows

/-! ### Joins -/

/-- Balanced texts are joined to one by a balanced separator that starts with a blank. -/
theorem IsBalanced.joinWith {separator : String} {texts : List String}
    (hseparator : IsBalanced separator) (hquote : '\'' ∉ separator.toList)
    (hspace : separator.toList.head? = some ' ')
    (h : ∀ text ∈ texts, IsBalanced text) : IsBalanced (Text.joinWith separator texts) := by
  refine Text.joinWith_induction ⟨[], rfl, rfl⟩ (fun s t hs ht => ?_) h
  refine hs.append (hseparator.append ht (.inl hquote)) (.inr ?_)
  rw [head?_separator_append hspace]
  decide

/-- Conjuncts in a conjunction are one conjunct. -/
theorem IsConjunct.joinWith {separator : String} {texts : List String}
    (hseparator : IsConjunct separator) (hquote : '\'' ∉ separator.toList)
    (hhead : separator.toList.head? = some ' ') (hlast : separator.toList.getLast? = some ' ')
    (h : ∀ text ∈ texts, IsConjunct text) : IsConjunct (Text.joinWith separator texts) := by
  have hseam : separator.toList.getLast?.any RawText.inName = false := by
    rw [hlast]
    rfl
  refine Text.joinWith_induction ⟨[], rfl, Segment.sealed_nil⟩ (fun s t hs ht => ?_) h
  have htail := hseparator.append ht (.inl hquote) (.inl hseam)
  refine hs.append htail (.inr ?_) (.inr ?_)
  all_goals rw [head?_separator_append hhead]; decide

/-! ## Identifiers -/

section Columns

variable {column : String}

/-- What stands next to a word of an identifier is a slash. -/
theorem slash_of_not_inName {c : Char} (h : (RawText.continuesWord c || c == '/') = true)
    (hc : RawText.inName c = false) : (c == '/') = true := by
  simp only [RawText.continuesWord, RawText.inName, Bool.or_eq_true, Bool.or_eq_false_iff] at h hc
  exact h.resolve_left fun hword => hword.elim (by simp [hc.1.1]) (by simp [hc.1.2])

/-- An identifier is sealed, as no part of it is a reserved word. -/
theorem sealed_identifier (h : isIdentifier column.toList = true) :
    Sealed (plains column.toList) := by
  refine ⟨Segment.depthFrom_plains (not_mem_identifier h (by decide))
    (not_mem_identifier h (by decide)) 0, ?_⟩
  rintro ⟨before, word, after, heq, hword, -, hor⟩
  obtain ⟨front, back, hcolumn, hfront, rfl⟩ := List.map_eq_append_iff.1 heq
  obtain ⟨first, middle, rfl, rfl, hmiddle⟩ := List.map_eq_append_iff.1 hfront
  obtain rfl : middle = word :=
    List.map_injective_iff.2 (fun _ _ hcd => Segment.plain.inj hcd) hmiddle
  have hchars := continuesWord_of_mem_identifier h
  rw [hcolumn] at hchars
  simp only [List.mem_append] at hchars
  -- A word of an identifier is one of its pieces, and none of these is a keyword.
  have hpart : middle ∈ Text.pieces (· == '/') column.toList := by
    rw [hcolumn]
    refine Text.mem_pieces (fun c hc => ?_) (fun c hc => ?_) (fun c hc => ?_)
    · have hin := hword.inName c hc
      rw [beq_eq_false_iff_ne]
      rintro rfl
      revert hin
      decide
    · refine slash_of_not_inName (hchars c (.inl (.inl (List.mem_of_mem_getLast? hc)))) ?_
      exact hword.starts (.plain c) (by simp [Option.mem_def.1 hc])
    · refine slash_of_not_inName (hchars c (.inr (List.mem_of_mem_head? hc))) ?_
      exact hword.ends (.plain c) (by simp [Option.mem_def.1 hc])
  refine not_keyword_of_mem_pieces h hpart ?_
  have hletters : middle.map Char.toLower = ['o', 'r'] := by simpa [RawText.isOr] using hor
  rw [hletters]
  decide

end Columns

/-! ## Texts of callers -/

/-- A balanced text is a conjunct once it is enclosed. -/
theorem isConjunct_encloseText {text : String} (h : IsBalanced text) :
    IsConjunct (encloseText text) := by
  obtain ⟨ss, hss, hdepth⟩ := h
  obtain ⟨ts, hts, hsealed⟩ := exists_sealed_enclose (cut_eq_some_iff.1 hss) hdepth
  refine Cuts.isConjunct ?_ hsealed
  rwa [encloseText, String.toList_ofList]

/-- The normal form of a balanced text is balanced. -/
theorem isBalanced_normalizeText {text : String} (h : IsBalanced text) :
    IsBalanced (normalizeText text) := by
  obtain ⟨ss, hss, hdepth⟩ := h
  obtain ⟨ts, hts, hframe⟩ := hasFrame_normalize (cut_eq_some_iff.1 hss)
  refine ⟨ts, cut_of_cuts ?_, ?_⟩
  · rwa [normalizeText, String.toList_ofList]
  · rw [← depthFrom_frame, hframe, depthFrom_frame, hdepth]

/-! ## Clauses of single predicates -/

/-- The call of a pattern is sealed. -/
theorem sealed_patternCall (value column : List Char) :
    Sealed (plains "search.ismatch(".toList ++ .literal value ::
      (plains ", ".toList ++ .literal column :: plains ")".toList)) := by
  have hname : Sealed (plains "search.ismatch".toList) :=
    Segment.sealed_plains (by decide) (by decide) (.inl (by decide))
  have harguments : depthFrom 0 [.literal value, .plain ',', .plain ' ', .literal column] =
      some 0 := rfl
  simpa [plains] using Segment.sealed_call hname harguments

/-- The call of a membership test is sealed if its column is. -/
theorem sealed_membershipCall {column : List Char} (h : Sealed (plains column))
    (list : List Char) :
    Sealed (plains ("search.in(".toList ++ (column ++ ", ".toList)) ++
      .literal list :: (plains ", ".toList ++ .literal [','] :: plains ")".toList)) := by
  have hname : Sealed (plains "search.in".toList) :=
    Segment.sealed_plains (by decide) (by decide) (.inl (by decide))
  have harguments : depthFrom 0 (plains column ++
      [.plain ',', .plain ' ', .literal list, .plain ',', .plain ' ', .literal [',']]) = some 0 := by
    rw [Segment.depthFrom_append, h.1]
    rfl
  simpa [plains] using Segment.sealed_call hname harguments

/-- The word of a comparison is sealed between blanks. -/
theorem sealed_word (c : Comparison) : Sealed (plains (' ' :: (c.word.toList ++ [' ']))) := by
  refine Segment.sealed_plains ?_ ?_ (.inl ?_) <;> cases c <;> decide

/-- The text of a scalar other than a string is sealed. -/
theorem sealed_text {value : Scalar} (h : ¬ value.IsString) :
    Sealed (plains value.text.toList) := by
  match value with
  | .null => exact Segment.sealed_plains (by decide) (by decide) (.inl (by decide))
  | .bool true => exact Segment.sealed_plains (by decide) (by decide) (.inl (by decide))
  | .bool false => exact Segment.sealed_plains (by decide) (by decide) (.inl (by decide))
  | .number n =>
    have hmem {c : Char} (hc : Decimal.inNumber c = false) : c ∉ n.text.toList := by
      intro hm
      rw [n.inNumber_of_mem_text c hm] at hc
      cases hc
    have hlower : n.text.toList.map Char.toLower = n.text.toList :=
      (List.map_congr_left fun c hc =>
        Decimal.toLower_of_inNumber (n.inNumber_of_mem_text c hc)).trans (List.map_id _)
    refine Segment.sealed_plains (hmem (by decide)) (hmem (by decide)) (.inl ?_)
    rw [Scalar.text, hlower]
    exact hmem (by decide)
  | .string s => exact absurd ⟨s, rfl⟩ h

section Columns

variable {column : String}

/-- A column that is an identifier is a conjunct. -/
theorem isConjunct_column (h : isIdentifier column.toList = true) : IsConjunct column :=
  (Cuts.ofPlain (quote_not_mem_identifier h)).isConjunct (sealed_identifier h)

/-- A column may be followed by words of the grammar. -/
theorem isConjunct_column_append (h : isIdentifier column.toList = true) {words : String}
    (hwords : IsConjunct words) (hspace : words.toList.head? = some ' ') :
    IsConjunct (column ++ words) := by
  refine (isConjunct_column h).append hwords (.inl (quote_not_mem_identifier h)) (.inr ?_)
  rw [hspace]
  decide

/-- A test for null is a conjunct. -/
theorem isConjunct_nullClause (h : isIdentifier column.toList = true) :
    IsConjunct (nullClause column) :=
  isConjunct_column_append h
    (isConjunct_of_not_mem (by decide) (by decide) (by decide) (.inl (by decide))) rfl

/-- A pattern is a conjunct. -/
theorem isConjunct_patternClause (h : isIdentifier column.toList = true) (kind : PatternKind)
    (value : Scalar) : IsConjunct (patternClause column kind value) :=
  (cuts_patternClause (quote_not_mem_identifier h) kind value).isConjunct (sealed_patternCall _ _)

/-- A comparison is a conjunct, whatever the operator and the value. -/
theorem isConjunct_comparisonClause (h : isIdentifier column.toList = true) (operator : Operator)
    (value : Scalar) : IsConjunct (comparisonClause column operator value) := by
  have hquote := quote_not_mem_identifier h
  by_cases hnull : value = .null
  · subst hnull
    exact isConjunct_nullClause h
  · cases operator with
    | pattern kind =>
      rw [comparisonClause_pattern hnull]
      exact isConjunct_patternClause h kind value
    | comparison c =>
      have hfront : Sealed (plains (column.toList ++ ' ' :: (c.word.toList ++ [' ']))) := by
        rw [plains_append]
        exact (sealed_identifier h).append_plains (sealed_word c) (by simp; decide)
      have hseam : ∀ d ∈ (column.toList ++ ' ' :: (c.word.toList ++ [' '])).getLast?,
          RawText.inName d = false := by
        have hlast : column.toList ++ ' ' :: (c.word.toList ++ [' ']) =
            (column.toList ++ ' ' :: c.word.toList) ++ [' '] := by simp
        rw [hlast, List.getLast?_concat]
        exact Text.eq_false_of_any_eq_false rfl
      by_cases hstring : value.IsString
      · obtain ⟨s, rfl⟩ := hstring
        refine (cuts_stringComparison hquote c s).isConjunct ?_
        exact hfront.plains_append (Segment.sealed_literal _) hseam
      · refine (cuts_plainComparison hquote c hnull hstring).isConjunct ?_
        have hall := hfront.plains_append (sealed_text hstring) hseam
        rw [← plains_append] at hall
        simpa using hall

/-- A membership test is a conjunct. -/
theorem isConjunct_membershipClause (h : isIdentifier column.toList = true)
    {members : List Scalar} {text : String} (hclause : membershipClause column members = .ok text) :
    IsConjunct text :=
  (cuts_membershipClause (quote_not_mem_identifier h) hclause).isConjunct
    (sealed_membershipCall (sealed_identifier h) _)

end Columns

/-- The clause of a predicate that is no group. -/
theorem isConjunct_leafClause {p : Predicate} (hp : p.IsOrderly) {text : String}
    (h : LeafText p text) : IsConjunct text := by
  cases h with
  | basic column operator value =>
    exact isConjunct_comparisonClause (hp.column column rfl) operator value
  | nullPattern column _ | isNull column => exact isConjunct_nullClause (hp.column column rfl)
  | pattern column kind _ => exact isConjunct_patternClause (hp.column column rfl) kind _
  | isNotNull column =>
    have hwords : IsConjunct " ne null" :=
      isConjunct_of_not_mem (by decide) (by decide) (by decide) (.inl (by decide))
    exact isConjunct_column_append (hp.column column rfl) hwords rfl
  | isIn hcall => exact isConjunct_membershipClause (hp.column _ rfl) hcall
  | isNotIn hcall =>
    have hnot : IsConjunct "not " :=
      isConjunct_of_not_mem (by decide) (by decide) (by decide) (.inr (by decide))
    exact hnot.append (isConjunct_membershipClause (hp.column _ rfl) hcall)
      (.inl (by decide)) (.inl (by decide))
  | boolean column value =>
    have hwords : IsConjunct (" eq " ++ if value then "true" else "false") := by
      refine isConjunct_of_not_mem ?_ ?_ ?_ (.inl ?_) <;> cases value <;> decide
    rw [String.append_assoc]
    exact isConjunct_column_append (hp.column column rfl) hwords (by cases value <;> rfl)
  -- A caller's text may have a disjunction of its own, so it is enclosed.
  | raw text => exact isConjunct_encloseText (isBalanced_normalizeText (hp.text text rfl))
  | fragment text => exact isConjunct_encloseText (hp.text text rfl)

/-! ## Groups and filters -/

/-- The separators of groups and filters. -/
theorem isConjunct_and : IsConjunct " and " :=
  isConjunct_of_not_mem (by decide) (by decide) (by decide) (.inl (by decide))

/-- The separator of a group is balanced. -/
theorem isBalanced_separator (connective : Connective) :
    IsBalanced (" " ++ connective.word ++ " ") := by
  cases connective with
  | and => exact isConjunct_and.isBalanced
  | or => exact ⟨_, rfl, rfl⟩

/-- A clause that says something is one of the clauses. -/
theorem mem_of_mem_solid {text : String} {clauses : List String} (h : text ∈ solid clauses) :
    text ∈ clauses :=
  (List.mem_filter.1 h).1

/-- A group puts its clauses in parentheses, so they need not be conjuncts of the connective. -/
theorem isConjunct_groupClause (connective : Connective) (negated : Bool) {clauses : List String}
    (h : ∀ text ∈ clauses, IsConjunct text) :
    IsConjunct (groupClause connective negated clauses) := by
  unfold groupClause
  split
  · exact ⟨[], rfl, Segment.sealed_nil⟩
  · next c rest hsolid =>
    have hclauses : ∀ text ∈ c :: rest, IsBalanced text := by
      intro text hm
      rw [← hsolid] at hm
      exact (h text (mem_of_mem_solid hm)).isBalanced
    have hjoined := (isBalanced_separator connective).joinWith
      (by cases connective <;> decide) (by cases connective <;> rfl) hclauses
    cases negated with
    | false => exact hjoined.enclosed
    | true =>
      have hnot : IsConjunct "not " :=
        isConjunct_of_not_mem (by decide) (by decide) (by decide) (.inr (by decide))
      exact hnot.append hjoined.enclosed (.inl (by decide)) (.inl (by decide))

/-- Conjuncts are joined to a conjunct. -/
theorem isConjunct_conjunction {clauses : List String} (h : ∀ text ∈ clauses, IsConjunct text) :
    IsConjunct (conjunction clauses) :=
  isConjunct_and.joinWith (by decide) rfl rfl fun text hm => h text (mem_of_mem_solid hm)

/-- The clause of a tree of orderly predicates. -/
theorem clause_isConjunct (options : Options) (room : Nat) (path : Path) (p : Predicate) :
    (clause options room path p).Gives fun text =>
      (∀ q ∈ p.nodes, q.IsOrderly) → IsConjunct text := by
  refine gives_clause (P := fun p text => (∀ q ∈ p.nodes, q.IsOrderly) → IsConjunct text)
    (fun _ _ _ _ _ => ⟨[], rfl, Segment.sealed_nil⟩) (fun p text hleaf htext hp => ?_)
    (fun connective negated conditions clauses hclauses hp => ?_) room path p
  · exact isConjunct_leafClause (hp p p.self_mem_nodes) (leafText_of_leafClause hleaf htext)
  · refine isConjunct_groupClause connective negated fun text hm => ?_
    obtain ⟨child, hchild, himp⟩ := Report.exists_of_mem_results hclauses hm
    exact himp fun q hq => hp q (Predicate.nodes_subset_nodes_group hchild connective negated hq)

/-- No condition breaks out of its conjunction, whatever callers write: a filter and the clause of
each node of its tree are conjuncts. -/
theorem compile_isConjunct {options : Options} {ps : List Predicate} {f : String}
    (horderly : ∀ p ∈ Predicate.nodesOf ps, p.IsOrderly)
    (hf : (compile options ps).result = .ok f) :
    IsConjunct f ∧ ∀ p ∈ Predicate.nodesOf ps, ∀ room path text,
      (clause options room path p).result = .ok text → IsConjunct text := by
  have hclause := clause_isConjunct options
  refine ⟨?_, fun p hp room path text htext => ?_⟩
  · obtain ⟨clauses, hclauses, rfl⟩ := gives_compile
      (fun _ _ _ _ _ => ⟨[], rfl, Segment.sealed_nil⟩) hclause ps f hf
    refine isConjunct_conjunction fun text hm => ?_
    obtain ⟨p, hp, himp⟩ := Report.exists_of_mem_results hclauses hm
    exact himp fun q hq => horderly q (Predicate.nodes_subset_nodesOf hp hq)
  · refine hclause room path p text htext fun q hq => ?_
    exact horderly q (Predicate.nodes_subset_of_mem_nodesOf hp hq)

/-- A disjunction that a caller wrote, in a group and next to a condition on the tenant. -/
theorem compile_isConjunct_disjunction :
    IsConjunct "((a eq 'x or y' or (b) eq 1) and c/d eq null) and tenant eq true" ∧
      ∀ p ∈ Predicate.nodesOf [.group .and false [.raw "a = 'x or y' OR (b) = 1", .isNull "c/d"],
          .boolean "tenant" true],
        ∀ room path text, (clause {} room path p).result = .ok text → IsConjunct text := by
  refine compile_isConjunct (fun p hp => ?_) rfl
  simp only [Predicate.nodesOf, Predicate.nodes, List.cons_append, List.nil_append,
    List.append_nil, List.mem_cons, List.not_mem_nil, or_false] at hp
  rcases hp with rfl | rfl | rfl | rfl
  · exact ⟨by rintro _ ⟨⟩, by rintro _ ⟨⟩⟩
  · exact ⟨by rintro _ ⟨⟩, by rintro _ ⟨⟩; exact ⟨_, rfl, rfl⟩⟩
  · exact ⟨by rintro _ ⟨⟩; decide, by rintro _ ⟨⟩⟩
  · exact ⟨by rintro _ ⟨⟩; decide, by rintro _ ⟨⟩⟩

end SearchIndex.Filter
