import SearchIndex.Filter.Compile
import SearchIndex.Proofs.Decimal.Form
import SearchIndex.Proofs.Filter.Segment

/-!
# The segments of clauses

How the clauses of single predicates are cut into literals and other characters: every string that
a caller gives stands in a literal of its own, and so does the column of a pattern. All else is
outside of literals, provided that the column has no quote in it.
-/

namespace SearchIndex.Filter

open Segment (plains)

/-! ## Escaped texts -/

namespace Literal

theorem escape_append (cs ds : List Char) : escape (cs ++ ds) = escape cs ++ escape ds := by
  induction cs with
  | nil => rfl
  | cons c cs ih =>
    by_cases hc : c = '\''
    · simp only [List.cons_append, escape, hc, if_true, ih]
    · simp only [List.cons_append, escape, hc, if_false, ih]

/-- A text without quotes is escaped as it is. -/
theorem escape_of_not_mem {cs : List Char} (h : '\'' ∉ cs) : escape cs = cs := by
  induction cs with
  | nil => rfl
  | cons c cs ih =>
    have hc : c ≠ '\'' := by
      rintro rfl
      exact h List.mem_cons_self
    rw [escape, if_neg hc, ih fun hm => h (List.mem_cons_of_mem c hm)]

end Literal

@[simp] theorem toList_escapeText (s : String) :
    (escapeText s).toList = Literal.escape s.toList :=
  String.toList_ofList

theorem escapeText_append (s t : String) : escapeText (s ++ t) = escapeText s ++ escapeText t := by
  apply String.toList_injective
  simp [Literal.escape_append]

/-- A string without quotes is escaped as it is. -/
theorem escapeText_of_not_mem {s : String} (h : '\'' ∉ s.toList) : escapeText s = s := by
  apply String.toList_injective
  rw [toList_escapeText, Literal.escape_of_not_mem h]

/-- Escaping goes into a join, because the separator has no quote. -/
theorem joinWith_map_escapeText {separator : String} (h : '\'' ∉ separator.toList)
    (texts : List String) :
    Text.joinWith separator (texts.map escapeText) = escapeText (Text.joinWith separator texts) := by
  induction texts with
  | nil => rfl
  | cons s rest ih =>
    cases rest with
    | nil => rfl
    | cons t rest =>
      simp only [List.map_cons, Text.joinWith_cons_cons] at ih ⊢
      rw [ih, escapeText_append, escapeText_append, escapeText_of_not_mem h]

/-! ## Texts in a row -/

/-- A literal may follow right behind a text that has none. -/
theorem cuts_append {s t : String} {ss ts : List Segment} (hs : Cuts s.toList ss)
    (ht : Cuts t.toList ts) (hquote : '\'' ∉ s.toList ∨ t.toList.head? ≠ some '\'') :
    Cuts (s ++ t).toList (ss ++ ts) := by
  rw [String.toList_append]
  rcases hquote with hquote | hquote
  · rw [hs.unique (.ofPlain hquote)]
    exact .plains_append hquote ht
  · exact hs.append ht hquote

/-- A separator comes first, whatever follows it. -/
theorem head?_separator_append {separator : String} (hspace : separator.toList.head? = some ' ')
    (t : String) : (separator ++ t).toList.head? = some ' ' := by
  rw [String.toList_append, List.head?_append, hspace]
  rfl

/-- The segment is white space. A literal is not. -/
def Segment.isBlank : Segment → Bool
  | .literal _ => false
  | .plain c => Text.isBlank c

/-- A text is blank if its segments are. -/
theorem all_isBlank_of_cuts {cs : List Char} {ss : List Segment} (h : Cuts cs ss) :
    cs.all Text.isBlank = ss.all Segment.isBlank := by
  induction h with
  | nil => rfl
  | plain _ _ ih =>
    rw [List.all_cons, List.all_cons, ih]
    rfl
  | literal text _ _ _ =>
    have hquote : Text.isBlank '\'' = false := by decide
    rw [Literal.quote, List.cons_append, List.cons_append, List.all_cons, hquote]
    rfl

/-- A text with a segment other than white space is not blank. -/
theorem isBlankText_eq_false {text : String} {ss : List Segment} (h : Cuts text.toList ss)
    {s : Segment} (hs : s ∈ ss) (hblank : s.isBlank = false) : Text.isBlankText text = false := by
  rw [Text.isBlankText, all_isBlank_of_cuts h, List.all_eq_false]
  exact ⟨s, hs, by simp [hblank]⟩

/-! ## Scalars -/

namespace Scalar

/-- The scalar is a string. -/
def IsString (value : Scalar) : Prop :=
  ∃ s, value = .string s

/-- A scalar other than a string has no quote in its text. -/
theorem quote_not_mem_text {value : Scalar} (h : ¬ value.IsString) :
    '\'' ∉ value.text.toList := by
  match value with
  | .null => decide
  | .bool true => decide
  | .bool false => decide
  | .number n =>
    intro hm
    exact absurd (n.inNumber_of_mem_text _ hm) (by decide)
  | .string s => exact absurd ⟨s, rfl⟩ h

end Scalar

/-! ## Comparisons and patterns -/

/-- A pattern operator gives the clause of a pattern, unless the value is null. -/
theorem comparisonClause_pattern {value : Scalar} (h : value ≠ .null) (column : String)
    (kind : PatternKind) :
    comparisonClause column (.pattern kind) value = patternClause column kind value := by
  rw [comparisonClause]
  exact h

/-- No word of the grammar has a quote. -/
theorem quote_not_mem_word (c : Comparison) : '\'' ∉ c.word.toList := by
  cases c <;> decide

section Columns

variable {column : String}

/-- A test for null has no literal. -/
theorem cuts_nullClause (hcol : '\'' ∉ column.toList) :
    Cuts (nullClause column).toList (plains (column.toList ++ " eq null".toList)) := by
  rw [nullClause, String.toList_append]
  exact .ofPlain (by simp [hcol])

/-- A pattern is a call with two literals: the value with its wildcards, and the column. -/
theorem cuts_patternClause (hcol : '\'' ∉ column.toList) (kind : PatternKind) (value : Scalar) :
    Cuts (patternClause column kind value).toList
      (plains "search.ismatch(".toList ++ .literal (kind.wildcard value.text).toList ::
        (plains ", ".toList ++ .literal column.toList :: plains ")".toList)) := by
  have hclose : Cuts (Literal.quote column.toList ++ ")".toList)
      (.literal column.toList :: plains ")".toList) :=
    .literal _ (by decide) (.ofPlain (by decide))
  have hrest := Cuts.plains_append (show '\'' ∉ ", ".toList by decide) hclose
  have hvalue := Cuts.literal (kind.wildcard value.text).toList (by simp) hrest
  have hcall := Cuts.plains_append (show '\'' ∉ "search.ismatch(".toList by decide) hvalue
  unfold patternClause
  simpa [Literal.quote, Literal.escape_of_not_mem hcol] using hcall

/-- A comparison with a string ends with the string as its only literal. -/
theorem cuts_stringComparison (hcol : '\'' ∉ column.toList) (c : Comparison) (s : String) :
    Cuts (comparisonClause column (.comparison c) (.string s)).toList
      (plains (column.toList ++ ' ' :: (c.word.toList ++ [' '])) ++ [.literal s.toList]) := by
  have hplain : '\'' ∉ column.toList ++ ' ' :: (c.word.toList ++ [' ']) := by
    simp [hcol, quote_not_mem_word c]
  have hclause := Cuts.plains_append hplain (.quote s.toList)
  simpa [comparisonClause, Literal.quote] using hclause

/-- A comparison with any other value but null has no literal. -/
theorem cuts_plainComparison (hcol : '\'' ∉ column.toList) (c : Comparison) {value : Scalar}
    (hnull : value ≠ .null) (hvalue : ¬ value.IsString) :
    Cuts (comparisonClause column (.comparison c) value).toList
      (plains (column.toList ++ ' ' :: (c.word.toList ++ ' ' :: value.text.toList))) := by
  have hplain : '\'' ∉ column.toList ++ ' ' :: (c.word.toList ++ ' ' :: value.text.toList) := by
    simp [hcol, quote_not_mem_word c, Scalar.quote_not_mem_text hvalue]
  have hclause := Cuts.ofPlain hplain
  match value with
  | .null => exact absurd rfl hnull
  | .bool b => simpa [comparisonClause] using hclause
  | .number n => simpa [comparisonClause] using hclause
  | .string s => exact absurd ⟨s, rfl⟩ hvalue

/-! ## Membership lists -/

/-- The scalar may be a member of a membership list. -/
def Scalar.IsMember (value : Scalar) : Prop :=
  value ≠ .null ∧ ∀ s, value = .string s → delimiter ∉ s.toList

/-- The text in the literal of a membership list. -/
def memberList (members : List Scalar) : String :=
  Text.joinWith "," (members.map Scalar.text)

/-- A member is written if it may stand in a list, and then as it is but for its quotes. -/
theorem memberText_eq_ok_iff {value : Scalar} {text : String} :
    memberText column value = .ok text ↔ value.IsMember ∧ text = escapeText value.text := by
  match value with
  | .null => simp [memberText, Scalar.IsMember]
  | .bool b =>
    have hb : escapeText (Scalar.bool b).text = (Scalar.bool b).text := by cases b <;> rfl
    simp [memberText, Scalar.IsMember, hb, eq_comm]
  | .number n =>
    have hstring : ¬ (Scalar.number n).IsString := nofun
    have hn := escapeText_of_not_mem (Scalar.quote_not_mem_text hstring)
    simp [memberText, Scalar.IsMember, hn, eq_comm]
  | .string s =>
    by_cases hs : delimiter ∈ s.toList
    · simp [memberText, Scalar.IsMember, hs]
    · simp [memberText, Scalar.IsMember, hs, Scalar.text, eq_comm]

/-- Members are written if all of them may stand in a list. -/
theorem memberTexts_eq_ok_iff {members : List Scalar} {texts : List String} :
    memberTexts column members = .ok texts ↔
      (∀ m ∈ members, m.IsMember) ∧ texts = members.map fun m => escapeText m.text := by
  induction members generalizing texts with
  | nil => simp [memberTexts, eq_comm]
  | cons m rest ih =>
    simp only [memberTexts, List.mem_cons, forall_eq_or_imp, List.map_cons]
    cases hm : memberText column m with
    | error defect =>
      have hnot : ¬ m.IsMember := fun h => by
        have hok : memberText column m = .ok _ := memberText_eq_ok_iff.2 ⟨h, rfl⟩
        rw [hm] at hok
        cases hok
      simp [hnot]
    | ok text =>
      obtain ⟨hmember, rfl⟩ := memberText_eq_ok_iff.1 hm
      cases hrest : memberTexts column rest with
      | error defect =>
        have hnot : ¬ ∀ m ∈ rest, m.IsMember := fun h => by
          have := ih.2 ⟨h, rfl⟩
          rw [hrest] at this
          cases this
        simp [Except.map, hnot]
      | ok more =>
        obtain ⟨hall, rfl⟩ := ih.1 hrest
        simp only [Except.map, Except.ok.injEq]
        exact ⟨fun h => ⟨⟨hmember, hall⟩, h.symm⟩, fun h => h.2.symm⟩

/-- The call of a membership list, with its members in one literal. -/
theorem membershipClause_eq_ok_iff {members : List Scalar} {text : String} :
    membershipClause column members = .ok text ↔ (∀ m ∈ members, m.IsMember) ∧
      text = "search.in(" ++ column ++ ", '" ++ escapeText (memberList members) ++ "', ',')" := by
  have hjoin : Text.joinWith "," (members.map fun m => escapeText m.text) =
      escapeText (memberList members) := by
    rw [memberList, ← joinWith_map_escapeText (by decide), List.map_map]
    rfl
  rw [membershipClause, ← hjoin]
  cases h : memberTexts column members with
  | error defect =>
    have hnot : ¬ ∀ m ∈ members, m.IsMember := fun hall => by
      have hok : memberTexts column members = .ok _ := memberTexts_eq_ok_iff.2 ⟨hall, rfl⟩
      rw [h] at hok
      cases hok
    simp [Except.map, hnot]
  | ok texts =>
    obtain ⟨hall, rfl⟩ := memberTexts_eq_ok_iff.1 h
    simp only [Except.map, Except.ok.injEq]
    exact ⟨fun h => ⟨hall, h.symm⟩, fun h => h.2.symm⟩

/-- A membership test is a call with two literals: the list of its members, and the delimiter. -/
theorem cuts_membershipClause (hcol : '\'' ∉ column.toList) {members : List Scalar} {text : String}
    (h : membershipClause column members = .ok text) :
    Cuts text.toList
      (plains ("search.in(".toList ++ (column.toList ++ ", ".toList)) ++
        .literal (memberList members).toList ::
          (plains ", ".toList ++ .literal [','] :: plains ")".toList)) := by
  obtain ⟨-, rfl⟩ := membershipClause_eq_ok_iff.1 h
  have hclose : Cuts (Literal.quote [','] ++ ")".toList) (.literal [','] :: plains ")".toList) :=
    .literal _ (by decide) (.ofPlain (by decide))
  have hrest := Cuts.plains_append (show '\'' ∉ ", ".toList by decide) hclose
  have hlist := Cuts.literal (memberList members).toList (by simp) hrest
  have hplain : '\'' ∉ "search.in(".toList ++ (column.toList ++ ", ".toList) := by simp [hcol]
  have hcall := Cuts.plains_append hplain hlist
  simpa [Literal.quote, Literal.escape] using hcall

end Columns

end SearchIndex.Filter
