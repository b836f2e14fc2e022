import SearchIndex.Proofs.Filter.Conjunct
import SearchIndex.Proofs.Filter.Settled

/-!
# Filters compile to themselves

A filter may be handed on as the text of a caller, on its own or in a fragment of another filter. It
stays what it is (`compile_raw_of_compile`): a filter is in normal form, and has no `or` outside of
parentheses, so nothing in it is rewritten and no parentheses are put around it.

A column may be of two kinds of characters that words do not start with: digits, and slashes. The
normal form takes the letters behind digits for a word, so it would put the part `1OR` of a column
in lower case. `isSteadyIdentifier` leaves such columns out.
-/

namespace SearchIndex.Filter

open RawText (continuesWord isMark normalWord startsWord)
open Segment (Settled plains plains_append)

/-! ## Texts without letters in upper case -/

namespace RawText

/-- No letter is in upper case, and there is no symbol of an operator. -/
def isLowerCase (cs : List Char) : Bool :=
  cs.all fun c => c.toLower == c && !isMark c

theorem isLowerCase_append (cs ds : List Char) :
    isLowerCase (cs ++ ds) = (isLowerCase cs && isLowerCase ds) :=
  List.all_append

/-- A text in lower case is its own lower case. -/
theorem toLower_of_isLowerCase {cs : List Char} (h : isLowerCase cs = true) :
    cs.map Char.toLower = cs := by
  refine (List.map_congr_left fun c hc => ?_).trans (List.map_id cs)
  have hc := List.all_eq_true.1 h c hc
  rw [Bool.and_eq_true, beq_iff_eq] at hc
  exact hc.1

theorem normalWord_of_isLowerCase {cs : List Char} (h : isLowerCase cs = true) :
    normalWord cs = cs := by
  simp only [normalWord, toLower_of_isLowerCase h, ite_self]

end RawText

open RawText (isLowerCase)

namespace Segment.Settled

variable {ss : List Segment} {cs : List Char}

/-- A text that does not start with a character of words has no such segment in front. -/
theorem head?_plains (h : ∀ c ∈ cs.head?, RawText.continuesWord c = false) :
    ∀ s ∈ (plains cs).head?, s.continuesWord = false := by
  intro s hs
  obtain ⟨c, hc, rfl⟩ := Option.map_eq_some_iff.1 (List.head?_map.symm.trans (Option.mem_def.1 hs))
  exact h c hc

theorem getLast?_plains (h : ∀ c ∈ cs.getLast?, RawText.continuesWord c = false) :
    ∀ s ∈ (plains cs).getLast?, s.continuesWord = false := by
  intro s hs
  obtain ⟨c, hc, rfl⟩ :=
    Option.map_eq_some_iff.1 (List.getLast?_map.symm.trans (Option.mem_def.1 hs))
  exact h c hc

/-- Words in lower case are in normal form. -/
theorem ofLowerCase (h : isLowerCase cs = true) : Settled (plains cs) := by
  induction hn : cs.length using Nat.strongRecOn generalizing cs with
  | _ n ih =>
    cases cs with
    | nil => exact .nil
    | cons c rest =>
      subst hn
      have hparts := h
      rw [isLowerCase, List.all_cons, Bool.and_eq_true, Bool.and_eq_true,
        Bool.not_eq_true'] at hparts
      obtain ⟨⟨-, hmark⟩, hrest⟩ := hparts
      cases hc : startsWord c with
      | false => exact .other hc hmark (ih _ (Nat.lt_succ_self _) hrest rfl)
      | true =>
        have hsplit : c :: rest.takeWhile RawText.continuesWord ++
            rest.dropWhile RawText.continuesWord = c :: rest := by
          rw [List.cons_append, List.takeWhile_append_dropWhile]
        rw [← hsplit, RawText.isLowerCase_append, Bool.and_eq_true] at h
        have hshorter := (List.dropWhile_sublist RawText.continuesWord (l := rest)).length_le
        have hleft := ih _ (Nat.lt_succ_of_le hshorter) h.2 rfl
        rw [← hsplit, plains_append]
        have hstop := head?_plains (Text.head?_dropWhile RawText.continuesWord rest)
        exact .word hc (List.all_eq_true.1 List.all_takeWhile)
          (RawText.normalWord_of_isLowerCase h.1) hstop hleft

/-- A literal may stand anywhere. -/
theorem append_literal (hs : Settled ss) (text : List Char) {ts : List Segment} (ht : Settled ts) :
    Settled (ss ++ .literal text :: ts) := by
  refine hs.append (.literal text ht) (.inr ?_)
  rintro _ ⟨⟩
  rfl

/-- Behind a text in lower case that does not end in a word. -/
theorem lowerCase_append (h : isLowerCase cs = true)
    (hlast : cs.getLast?.any RawText.continuesWord = false) (hs : Settled ss) :
    Settled (plains cs ++ ss) :=
  (ofLowerCase h).append hs (.inl (getLast?_plains (Text.eq_false_of_any_eq_false hlast)))

/-- In front of a text in lower case that does not start with a word. -/
theorem append_lowerCase (hs : Settled ss) (h : isLowerCase cs = true)
    (hhead : cs.head?.any RawText.continuesWord = false) : Settled (ss ++ plains cs) :=
  hs.append (ofLowerCase h) (.inr (head?_plains (Text.eq_false_of_any_eq_false hhead)))

end Segment.Settled

/-! ## Columns -/

/-- The word in a part of a column between slashes, behind its digits. -/
def wordOf (part : List Char) : List Char :=
  part.dropWhile fun c => !startsWord c

/-- An identifier, in which no digits come before a keyword that is not in lower case. -/
def isSteadyIdentifier (column : List Char) : Bool :=
  isIdentifier column &&
    (Text.pieces (· == '/') column).all fun part => normalWord (wordOf part) == wordOf part

/-- A part of a column is settled if the word in it is in normal form. -/
theorem settled_part {part : List Char} (hpart : ∀ c ∈ part, continuesWord c = true)
    (hword : normalWord (wordOf part) = wordOf part) : Settled (plains part) := by
  induction part with
  | nil => exact .nil
  | cons c part ih =>
    rw [List.forall_mem_cons] at hpart
    cases hc : startsWord c with
    | false =>
      rw [wordOf, List.dropWhile_cons_of_pos (by simp [hc])] at hword
      exact .other hc (RawText.isMark_of_continuesWord hpart.1) (ih hpart.2 hword)
    | true =>
      rw [wordOf, List.dropWhile_cons_of_neg (by simp [hc])] at hword
      have hsettled := Settled.word hc hpart.2 hword (by rintro _ ⟨⟩) .nil
      rwa [List.append_nil] at hsettled

/-- Parts with slashes between them. -/
theorem settled_intercalate {parts : List (List Char)} (h : ∀ part ∈ parts, Settled (plains part)) :
    Settled (plains (['/'].intercalate parts)) := by
  induction parts with
  | nil => exact .nil
  | cons part rest ih =>
    cases rest with
    | nil =>
      rw [List.intercalate_singleton]
      exact h part List.mem_cons_self
    | cons next rest =>
      have hrest := ih fun part hm => h part (List.mem_cons_of_mem _ hm)
      rw [List.intercalate_cons_cons, List.append_assoc, plains_append, List.singleton_append]
      refine (h part List.mem_cons_self).append (.other (by decide) (by decide) hrest) (.inr ?_)
      rintro _ ⟨⟩
      decide

/-- A steady identifier is an identifier. -/
theorem isIdentifier_of_isSteadyIdentifier {column : List Char}
    (h : isSteadyIdentifier column = true) : isIdentifier column = true := by
  rw [isSteadyIdentifier, Bool.and_eq_true] at h
  exact h.1

theorem quote_not_mem_steadyIdentifier {column : List Char}
    (h : isSteadyIdentifier column = true) : '\'' ∉ column :=
  quote_not_mem_identifier (isIdentifier_of_isSteadyIdentifier h)

/-- A steady identifier is settled: the words in its parts are no keywords. -/
theorem settled_column {column : List Char} (h : isSteadyIdentifier column = true) :
    Settled (plains column) := by
  have hchars := continuesWord_of_mem_identifier (isIdentifier_of_isSteadyIdentifier h)
  rw [isSteadyIdentifier, Bool.and_eq_true, List.all_eq_true] at h
  rw [← Text.intercalate_pieces '/' column]
  refine settled_intercalate fun part hpart =>
    settled_part (fun c hc => ?_) (by simpa using h.2 part hpart)
  have hslash := Text.not_isMark_of_mem_pieces hpart hc
  have hmem : c ∈ column := by
    rw [← Text.intercalate_pieces '/' column]
    exact Text.mem_intercalate_of_mem hpart hc
  simpa [hslash] using hchars c hmem

/-! ## Texts in a row -/

/-- Literals of the text are closed, and outside of them it is in normal form. -/
def IsSettled (text : String) : Prop :=
  ∃ ss, Segment.cut text.toList = some ss ∧ Settled ss

/-- A text whose segments are settled is settled. -/
theorem Cuts.isSettled {text : String} {ss : List Segment} (h : Cuts text.toList ss)
    (hsettled : Settled ss) : IsSettled text :=
  ⟨ss, cut_of_cuts h, hsettled⟩

/-- Nothing in a settled text is rewritten. -/
theorem IsSettled.normalizeText_eq {text : String} (h : IsSettled text) :
    normalizeText text = text := by
  obtain ⟨ss, hss, hsettled⟩ := h
  rw [normalizeText, RawText.normalize_of_settled (cut_eq_some_iff.1 hss) hsettled,
    String.ofList_toList]

/-- No parentheses are put around a conjunct. -/
theorem IsConjunct.encloseText_eq {text : String} (h : IsConjunct text) :
    encloseText text = text := by
  obtain ⟨ss, hss, hsealed⟩ := h
  rw [encloseText, RawText.enclose, hasOr_eq_false_of_sealed (cut_eq_some_iff.1 hss) hsealed,
    if_neg Bool.false_ne_true, String.ofList_toList]

theorem isSettled_empty : IsSettled "" :=
  ⟨[], rfl, .nil⟩

theorem isSettled_of_isLowerCase {text : String} (hquote : '\'' ∉ text.toList)
    (h : isLowerCase text.toList = true) : IsSettled text :=
  (Cuts.ofPlain hquote).isSettled (.ofLowerCase h)

/-- Settled texts make one, unless two of their quotes or two of their words meet. -/
theorem IsSettled.append {s t : String} (hs : IsSettled s) (ht : IsSettled t)
    (hquote : '\'' ∉ s.toList ∨ t.toList.head? ≠ some '\'')
    (hseam : s.toList.getLast?.any continuesWord = false ∨
      t.toList.head?.any continuesWord = false) : IsSettled (s ++ t) := by
  obtain ⟨ss, hss, hs⟩ := hs
  obtain ⟨ts, hts, ht⟩ := ht
  rw [cut_eq_some_iff] at hss hts
  refine (cuts_append hss hts hquote).isSettled (hs.append ht ?_)
  refine hseam.imp (fun hlast => ?_) (fun hhead => ?_)
  · rintro (text | c) hc
    · rfl
    · exact Text.eq_false_of_any_eq_false hlast c (hss.mem_getLast? hc)
  · rintro (text | c) hc
    · rfl
    · exact Text.eq_false_of_any_eq_false hhead c (hts.mem_head? hc)

/-- Settled texts with words in lower case and spaces between them. -/
theorem IsSettled.joinWith {separator : String} {texts : List String}
    (hquote : '\'' ∉ separator.toList) (hlower : isLowerCase separator.toList = true)
    (hhead : separator.toList.head? = some ' ') (hlast : separator.toList.getLast? = some ' ')
    (h : ∀ text ∈ texts, IsSettled text) : IsSettled (Text.joinWith separator texts) := by
  have hseparator := isSettled_of_isLowerCase hquote hlower
  refine Text.joinWith_induction isSettled_empty (fun s t hs ht => ?_) h
  have htail := hseparator.append ht (.inl hquote) (.inl (by rw [hlast]; rfl))
  refine hs.append htail (.inr ?_) (.inr ?_)
  · rw [head?_separator_append hhead]
    decide
  · rw [head?_separator_append hhead]
    rfl

/-- Parentheses around a settled text. -/
theorem IsSettled.enclosed {text : String} (h : IsSettled text) :
    IsSettled ("(" ++ text ++ ")") := by
  have hopen : IsSettled "(" := isSettled_of_isLowerCase (by decide) (by decide)
  have hclose : IsSettled ")" := isSettled_of_isLowerCase (by decide) (by decide)
  exact (hopen.append h (.inl (by decide)) (.inl (by decide))).append hclose (.inr (by decide))
    (.inr (by decide))

/-! ## Clauses of single predicates -/

section Columns

variable {column : String}

/-- A column may be followed by words of the grammar. -/
theorem settled_column_append (h : isSteadyIdentifier column.toList = true) {cs : List Char}
    (hlower : isLowerCase (' ' :: cs) = true) : Settled (plains (column.toList ++ ' ' :: cs)) := by
  rw [plains_append]
  exact (settled_column h).append_lowerCase hlower rfl

/-- A column with words in lower case behind it is settled. -/
theorem isSettled_column_append (h : isSteadyIdentifier column.toList = true) {words : String}
    (hquote : '\'' ∉ words.toList) (hlower : isLowerCase words.toList = true)
    (hspace : words.toList.head? = some ' ') : IsSettled (column ++ words) := by
  have hcolumn := quote_not_mem_steadyIdentifier h
  refine ((Cuts.ofPlain hcolumn).isSettled (settled_column h)).append
    (isSettled_of_isLowerCase hquote hlower) (.inl hcolumn) (.inr ?_)
  rw [hspace]
  rfl

/-- A pattern is settled. -/
theorem isSettled_patternClause (h : isSteadyIdentifier column.toList = true) (kind : PatternKind)
    (value : Scalar) : IsSettled (patternClause column kind value) := by
  have hcolumn := quote_not_mem_steadyIdentifier h
  refine (cuts_patternClause hcolumn kind value).isSettled ?_
  refine (Settled.ofLowerCase (by decide)).append_literal _ ?_
  exact (Settled.ofLowerCase (by decide)).append_literal _ (.ofLowerCase (by decide))

/-- A membership test is settled. -/
theorem isSettled_membershipClause (h : isSteadyIdentifier column.toList = true)
    {members : List Scalar} {text : String} (hclause : membershipClause column members = .ok text) :
    IsSettled text := by
  have hcolumn := quote_not_mem_steadyIdentifier h
  refine (cuts_membershipClause hcolumn hclause).isSettled ?_
  have hlist : Settled (plains ", ".toList ++ .literal [','] :: plains ")".toList) :=
    (Settled.ofLowerCase (by decide)).append_literal _ (.ofLowerCase (by decide))
  have harguments : Settled (plains (column.toList ++ ", ".toList)) := by
    rw [plains_append]
    exact (settled_column h).append_lowerCase (by decide) (by decide)
  rw [plains_append]
  exact (harguments.lowerCase_append (by decide) (by decide)).append_literal _ hlist

/-- A scalar other than a string is written in lower case. -/
theorem isLowerCase_text {value : Scalar} (h : ¬ value.IsString) :
    isLowerCase value.text.toList = true := by
  cases value with
  | null => decide
  | bool b => cases b <;> decide
  | number n =>
    refine List.all_eq_true.2 fun c hc => ?_
    have hin := n.inNumber_of_mem_text c hc
    rw [Decimal.toLower_of_inNumber hin, beq_self_eq_true, Bool.true_and, Bool.not_eq_true']
    apply RawText.isMark_eq_false <;> rintro rfl <;> cases hin
  | string s => exact absurd ⟨s, rfl⟩ h

/-- A comparison is settled, whatever the operator and the value. -/
theorem isSettled_comparisonClause (h : isSteadyIdentifier column.toList = true)
    (operator : Operator) (value : Scalar) :
    IsSettled (comparisonClause column operator value) := by
  have hcolumn := quote_not_mem_steadyIdentifier h
  by_cases hnull : value = .null
  · subst hnull
    exact isSettled_column_append h (by decide) (by decide) rfl
  · cases operator with
    | pattern kind =>
      rw [comparisonClause_pattern hnull]
      exact isSettled_patternClause h kind value
    | comparison c =>
      by_cases hstring : value.IsString
      · obtain ⟨s, rfl⟩ := hstring
        refine (cuts_stringComparison hcolumn c s).isSettled ?_
        exact (settled_column_append h (by cases c <;> decide)).append_literal _ .nil
      · refine (cuts_plainComparison hcolumn c hnull hstring).isSettled (settled_column_append h ?_)
        have hwords : ' ' :: (c.word.toList ++ ' ' :: value.text.toList) =
            ' ' :: (c.word.toList ++ [' ']) ++ value.text.toList := by
          simp
        rw [hwords, RawText.isLowerCase_append, isLowerCase_text hstring, Bool.and_true]
        cases c <;> decide

end Columns

/-! ## Texts of callers -/

/-- A balanced text is settled once it is in normal form. -/
theorem isSettled_normalizeText {text : String} (h : IsBalanced text) :
    IsSettled (normalizeText text) := by
  obtain ⟨ss, hss, -⟩ := h
  obtain ⟨ts, hts, hsettled⟩ := RawText.exists_settled_normalize (cut_eq_some_iff.1 hss)
  refine Cuts.isSettled ?_ hsettled
  rwa [normalizeText, String.toList_ofList]

/-- A text is kept as it is or put in parentheses. -/
theorem encloseText_eq (text : String) :
    encloseText text = text ∨ encloseText text = "(" ++ text ++ ")" := by
  rw [encloseText, RawText.enclose]
  split
  · right
    apply String.toList_injective
    simp
  · left
    exact String.ofList_toList

/-- A settled text stays settled when it is enclosed. -/
theorem IsSettled.encloseText {text : String} (h : IsSettled text) :
    IsSettled (encloseText text) := by
  obtain heq | heq := encloseText_eq text <;> rw [heq]
  · exact h
  · exact h.enclosed

/-! ## Trees -/

/-- The predicate is a fragment, which is taken as it is. -/
def Predicate.isFragment : Predicate → Bool
  | .fragment _ => true
  | _ => false

/-- The predicate is no fragment, its column is an identifier without a keyword behind digits, and
the text of the caller is balanced. -/
structure Predicate.IsSteady (p : Predicate) : Prop where
  fragment : p.isFragment = false
  column : ∀ column ∈ p.column?, isSteadyIdentifier column.toList = true
  text : ∀ text ∈ p.callerText?, IsBalanced text

/-- A steady predicate is orderly. -/
theorem Predicate.IsSteady.isOrderly {p : Predicate} (h : p.IsSteady) : p.IsOrderly where
  column column hcolumn := isIdentifier_of_isSteadyIdentifier (h.column column hcolumn)
  text := h.text

/-- The clause of a predicate that is no group. -/
theorem isSettled_leafClause {p : Predicate} (hp : p.IsSteady) {text : String}
    (h : LeafText p text) : IsSettled text := by
  cases h with
  | basic column operator value =>
    exact isSettled_comparisonClause (hp.column column rfl) operator value
  | pattern column kind _ => exact isSettled_patternClause (hp.column column rfl) kind _
  | nullPattern column _ | isNull column | isNotNull column =>
    exact isSettled_column_append (hp.column column rfl) (by decide) (by decide) rfl
  | isIn hcall => exact isSettled_membershipClause (hp.column _ rfl) hcall
  | isNotIn hcall =>
    have hnot : IsSettled "not " := isSettled_of_isLowerCase (by decide) (by decide)
    exact hnot.append (isSettled_membershipClause (hp.column _ rfl) hcall)
      (.inl (by decide)) (.inl (by decide))
  | boolean column value =>
    rw [String.append_assoc]
    refine isSettled_column_append (hp.column column rfl) ?_ ?_ ?_ <;> cases value <;> decide
  | raw text => exact (isSettled_normalizeText (hp.text text rfl)).encloseText
  | fragment text => cases hp.fragment

/-- A group of settled clauses is settled. -/
theorem isSettled_groupClause (connective : Connective) (negated : Bool) {clauses : List String}
    (h : ∀ text ∈ clauses, IsSettled text) :
    IsSettled (groupClause connective negated clauses) := by
  unfold groupClause
  split
  · exact isSettled_empty
  · next c rest hsolid =>
    have hclauses : ∀ text ∈ c :: rest, IsSettled text := by
      intro text hm
      rw [← hsolid] at hm
      exact h text (mem_of_mem_solid hm)
    have hjoined : IsSettled (Text.joinWith (" " ++ connective.word ++ " ") (c :: rest)) := by
      refine IsSettled.joinWith ?_ ?_ ?_ ?_ hclauses <;> cases connective <;> decide
    cases negated with
    | false => exact hjoined.enclosed
    | true =>
      have hnot : IsSettled "not " := isSettled_of_isLowerCase (by decide) (by decide)
      exact hnot.append hjoined.enclosed (.inl (by decide)) (.inl (by decide))

/-- Settled clauses are joined to a settled filter. -/
theorem isSettled_conjunction {clauses : List String} (h : ∀ text ∈ clauses, IsSettled text) :
    IsSettled (conjunction clauses) :=
  IsSettled.joinWith (by decide) (by decide) rfl rfl fun text hm => h text (mem_of_mem_solid hm)

/-- A conjunction is empty, or it says something. -/
theorem conjunction_eq_empty_or (clauses : List String) :
    conjunction clauses = "" ∨ Text.isBlankText (conjunction clauses) = false := by
  rw [conjunction]
  cases hsolid : solid clauses with
  | nil => exact .inl rfl
  | cons c rest =>
    right
    have hc : c ∈ solid clauses := hsolid ▸ List.mem_cons_self
    have hblank : Text.isBlankText c = false := by simpa [solid] using (List.mem_filter.1 hc).2
    cases rest with
    | nil => exact hblank
    | cons d rest =>
      rw [Text.isBlankText] at hblank ⊢
      rw [Text.joinWith_cons_cons, String.toList_append, String.toList_append, List.all_append,
        List.all_append, hblank]
      rfl

/-- The clause of a tree of steady predicates. -/
theorem clause_isSettled (options : Options) (room : Nat) (path : Path) (p : Predicate) :
    (clause options room path p).Gives fun text =>
      (∀ q ∈ p.nodes, q.IsSteady) → IsSettled text := by
  refine gives_clause (P := fun p text => (∀ q ∈ p.nodes, q.IsSteady) → IsSettled text)
    (fun _ _ _ _ _ => isSettled_empty) (fun p text hleaf htext hp => ?_)
    (fun connective negated conditions clauses hclauses hp => ?_) room path p
  · exact isSettled_leafClause (hp p p.self_mem_nodes) (leafText_of_leafClause hleaf htext)
  · refine isSettled_groupClause connective negated fun text hm => ?_
    obtain ⟨child, hchild, himp⟩ := Report.exists_of_mem_results hclauses hm
    exact himp fun q hq => hp q (Predicate.nodes_subset_nodes_group hchild connective negated hq)

/-! ## Filters as texts of callers -/

/-- The filter of one predicate that is no group. -/
theorem compile_singleton {options : Options} (hdepth : 1 ≤ options.maxDepth) {p : Predicate}
    (hp : p.isGroup = false) {text : String} (h : leafClause p = .ok text) :
    compile options [p] = .ok (conjunction [text]) := by
  obtain ⟨room, hroom⟩ := Nat.exists_eq_add_one_of_ne_zero (Nat.ne_of_gt hdepth)
  rw [compile, hroom, Report.each_cons, guardedClause, clause_of_leaf hp, h]
  rfl

/-- A filter that is handed on as the text of a caller, or in a fragment, compiles to itself. -/
theorem compile_raw_of_compile {options : Options} {ps : List Predicate} {f : String}
    (hdepth : 1 ≤ options.maxDepth) (hsteady : ∀ p ∈ Predicate.nodesOf ps, p.IsSteady)
    (hf : (compile options ps).result = .ok f) :
    compile options [.raw f] = .ok f ∧ compile options [.fragment f] = .ok f := by
  -- A settled text stays as it is when it is normalized, and a conjunct when it is enclosed.
  obtain ⟨clauses, hclauses, rfl⟩ := gives_compile
    (P := fun p text => (∀ q ∈ p.nodes, q.IsSteady) → IsConjunct text ∧ IsSettled text)
    (fun _ _ _ _ _ => ⟨⟨[], rfl, Segment.sealed_nil⟩, isSettled_empty⟩)
    (fun room path p text htext hp =>
      ⟨clause_isConjunct options room path p text htext fun q hq => (hp q hq).isOrderly,
        clause_isSettled options room path p text htext hp⟩) ps f hf
  have hall : ∀ text ∈ clauses, IsConjunct text ∧ IsSettled text := by
    intro text hm
    obtain ⟨p, hp, himp⟩ := Report.exists_of_mem_results hclauses hm
    exact himp fun q hq => hsteady q (Predicate.nodes_subset_nodesOf hp hq)
  have henclose := (isConjunct_conjunction fun text hm => (hall text hm).1).encloseText_eq
  have hnormalize := (isSettled_conjunction fun text hm => (hall text hm).2).normalizeText_eq
  have hself : conjunction [conjunction clauses] = conjunction clauses := by
    obtain hempty | hblank := conjunction_eq_empty_or clauses
    · rw [hempty]
      rfl
    · rw [conjunction, solid, List.filter_singleton, hblank]
      rfl
  constructor
  · rw [compile_singleton hdepth rfl rfl, hnormalize, henclose, hself]
  · rw [compile_singleton hdepth rfl rfl, henclose, hself]

/-- A group, a text with symbols and keywords, and a string with a quote. -/
theorem compile_raw_of_compile_group :
    compile {} [.raw "not (a eq 'Or' and b ne 2 or c/d eq null) and e ge 'it''s'"] =
        .ok "not (a eq 'Or' and b ne 2 or c/d eq null) and e ge 'it''s'" ∧
      compile {} [.fragment "not (a eq 'Or' and b ne 2 or c/d eq null) and e ge 'it''s'"] =
        .ok "not (a eq 'Or' and b ne 2 or c/d eq null) and e ge 'it''s'" := by
  have hsteady : ∀ p ∈ Predicate.nodesOf [.group .or true [.raw "a = 'Or' AND b <> 2",
      .isNull "c/d"], .basic "e" (.comparison .ge) (.string "it's")], p.IsSteady := by
    intro p hp
    simp only [Predicate.nodesOf, Predicate.nodes, List.cons_append, List.nil_append,
      List.append_nil, List.mem_cons, List.not_mem_nil, or_false] at hp
    rcases hp with rfl | rfl | rfl | rfl
    · exact ⟨rfl, by rintro _ ⟨⟩, by rintro _ ⟨⟩⟩
    · exact ⟨rfl, by rintro _ ⟨⟩, by rintro _ ⟨⟩; exact ⟨_, rfl, rfl⟩⟩
    · exact ⟨rfl, by rintro _ ⟨⟩; decide, by rintro _ ⟨⟩⟩
    · exact ⟨rfl, by rintro _ ⟨⟩; decide, by rintro _ ⟨⟩⟩
  exact compile_raw_of_compile (by decide) hsteady rfl

/-- A filter in a column that is an identifier may change when it is read back: the letters behind a
digit are taken for a keyword. -/
theorem exists_compile_raw_ne :
    ¬ ∀ (options : Options) (ps : List Predicate) (f : String), 1 ≤ options.maxDepth →
      (∀ p ∈ Predicate.nodesOf ps, p.isFragment = false ∧ p.IsOrderly) →
      (compile options ps).result = .ok f →
        compile options [.raw f] = .ok f ∧ compile options [.fragment f] = .ok f := by
  intro h
  have hcolumn : ∀ p ∈ Predicate.nodesOf [.isNull "a/1OR"], p.isFragment = false ∧ p.IsOrderly := by
    intro p hp
    obtain rfl : p = .isNull "a/1OR" := by simpa [Predicate.nodesOf, Predicate.nodes] using hp
    exact ⟨rfl, by rintro _ ⟨⟩; decide, by rintro _ ⟨⟩⟩
  have hraw := (h {} [.isNull "a/1OR"] "a/1OR eq null" (by decide) hcolumn rfl).1
  have hlower : (compile {} [.raw "a/1OR eq null"]).result = .ok "a/1or eq null" := rfl
  rw [hraw] at hlower
  exact absurd (Except.ok.inj hlower) (by decide)

end SearchIndex.Filter
