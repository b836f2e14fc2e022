import SearchIndex.Proofs.Filter.ClauseRun
import SearchIndex.Proofs.Filter.Grammar

/-!
# What a filter asks for

The meaning of a tree of predicates is a truth value for each choice of truth values of its atoms.
Groups that hold nothing but such groups ask for nothing and are left out. A compiled filter is read
by the grammar as an expression of the same meaning (`compile_holds`), so every parenthesis that the
reader needs is there and no condition is lost.
-/

namespace SearchIndex.Filter

open Segment (plains plains_append)
open Grammar

/-! ## Meaning of a tree -/

/-- The truth value of no conditions with the connective. -/
def neutral : Connective → Bool
  | .and => true
  | .or => false

/-- The comparison of a column with null. -/
def nullAtom (column : String) (c : Comparison) : Atom :=
  .comparison column.toList c (.constant "null".toList)

/-- What a comparison or a pattern asks for. Null is compared for equality, whatever the operator. -/
def comparisonAtom (column : String) : Operator → Scalar → Atom
  | _, .null => nullAtom column .eq
  | .pattern kind, value => .ismatch (kind.wildcard value.text).toList column.toList
  | .comparison c, .string s => .comparison column.toList c (.text s.toList)
  | .comparison c, value => .comparison column.toList c (.constant value.text.toList)

/-- What a membership test asks for. -/
def membershipAtom (column : String) (members : List Scalar) : Atom :=
  .isin column.toList (memberList members).toList [delimiter]

namespace Predicate

mutual

/-- The predicate asks for something: it is no group, or one of its conditions does. -/
def constrains : Predicate → Bool
  | .group _ _ conditions => anyConstrains conditions
  | _ => true

/-- One of the predicates asks for something. -/
def anyConstrains : List Predicate → Bool
  | [] => false
  | p :: rest => constrains p || anyConstrains rest

end

mutual

/-- The truth value of the predicate. Texts of callers are not read, and hold. -/
def holds (truth : Atom → Bool) : Predicate → Bool
  | .basic column operator value => truth (comparisonAtom column operator value)
  | .pattern column kind value => truth (comparisonAtom column (.pattern kind) value)
  | .isNull column => truth (nullAtom column .eq)
  | .isNotNull column => truth (nullAtom column .ne)
  | .isIn column members => truth (membershipAtom column members)
  | .isNotIn column members => !truth (membershipAtom column members)
  | .boolean column value =>
    truth (.comparison column.toList .eq (.constant (Scalar.bool value).text.toList))
  | .raw _ | .fragment _ => true
  | .group connective negated conditions => rowHolds truth connective conditions ^^ negated

/-- The truth value of predicates with a connective, where those that ask for nothing are left
out. -/
def rowHolds (truth : Atom → Bool) (connective : Connective) : List Predicate → Bool
  | [] => neutral connective
  | p :: rest =>
    if constrains p then combine connective (holds truth p) (rowHolds truth connective rest)
    else rowHolds truth connective rest

end

/-- The column is an identifier, and the predicate is none that a caller wrote as text. -/
structure IsPlain (p : Predicate) : Prop where
  column : ∀ column ∈ p.column?, isIdentifier column.toList = true
  noText : p.callerText? = none

end Predicate

/-! ## Texts that are read as conditions -/

/-- The text is no blank, and is read as a condition with the truth value. -/
def ReadsAs (text : String) (value : (Atom → Bool) → Bool) : Prop :=
  Text.isBlankText text = false ∧ ∃ ts e, HasTokens text ts ∧ ReadsCondition ts e ∧
    ∀ truth, e.holds truth = value truth

section Clauses

variable {column text : String}

/-- A column, a comparison and an operand with spaces between them. -/
theorem readsAs_comparison (hcol : isIdentifier column.toList = true) (c : Comparison)
    {operand : Operand} {value : Token} (hvalue : operand? value = some operand)
    {ss : List Segment} (hlex : lexFrom [] ss = some [value])
    (hcuts : Cuts text.toList
      (plains column.toList ++ .plain ' ' :: (plains c.word.toList ++ .plain ' ' :: ss))) :
    ReadsAs text fun truth => truth (.comparison column.toList c operand) := by
  have hspace (ts : List Segment) : ∀ t ∈ (.plain ' ' :: ts).head?, segmentInWord t = false := by
    rintro _ ⟨⟩
    decide
  refine ⟨?_, [.word column.toList, .word c.word.toList, value], _,
    hasTokens_iff.2 ⟨_, hcuts, ?_⟩, reads_comparison hcol c hvalue, fun _ => rfl⟩
  · obtain ⟨d, hd, hblank⟩ : ∃ d ∈ c.word.toList, Text.isBlank d = false := by
      cases c <;> exact ⟨_, List.mem_cons_self, by decide⟩
    exact isBlankText_eq_false hcuts (s := .plain d) (by simp [plains, hd]) hblank
  · have hword : lexFrom [] (plains c.word.toList) = some [.word c.word.toList] := by
      cases c <;> decide
    rw [lexFrom_column hcol (hspace _), lexFrom_space, lexFrom_append (.inl (hspace _)), hword,
      lexFrom_space, hlex]
    rfl

/-- A number, a truth value or null as an operand. -/
theorem readsAs_constantComparison (hcol : isIdentifier column.toList = true) (c : Comparison)
    {word : List Char} (hword : isConstant word = true) (hchars : word.all inWord = true)
    (hcuts : Cuts text.toList (plains (column.toList ++ ' ' :: (c.word.toList ++ ' ' :: word)))) :
    ReadsAs text fun truth => truth (.comparison column.toList c (.constant word)) := by
  have hlex : lexFrom [] (plains word) = some [.word word] := by
    rw [lexFrom_plains (List.all_eq_true.1 hchars), List.nil_append, flush, if_neg]
    rw [List.isEmpty_iff]
    rintro rfl
    exact absurd hword (by decide)
  have hoperand : operand? (.word word) = some (.constant word) := if_pos hword
  refine readsAs_comparison hcol c hoperand hlex ?_
  simpa [plains] using hcuts

/-- Numbers are in words of the grammar. -/
theorem inWord_of_inNumber {c : Char} (h : Decimal.inNumber c = true) : inWord c = true := by
  simp only [Decimal.inNumber, Bool.or_eq_true, beq_iff_eq] at h
  rcases h with (((hdigit | rfl) | rfl) | rfl) | rfl
  · have hascii : c.toNat < 0x80 := by
      simp only [Char.isDigit, Bool.and_eq_true, decide_eq_true_eq] at hdigit
      have hle : c.toNat ≤ 57 := UInt32.le_iff_toNat_le.1 hdigit.2
      omega
    have hword : Text.isAlphanumeric c = true := by
      rw [Text.isAlphanumeric_of_ascii hascii, Char.isAlphanum, hdigit, Bool.or_true]
    simp only [inWord, RawText.continuesWord, hword, Bool.true_or]
  all_goals decide

/-- A scalar other than a string is written as a constant. -/
theorem isConstant_text {value : Scalar} (h : ¬ value.IsString) :
    isConstant value.text.toList = true ∧ value.text.toList.all inWord = true := by
  match value with
  | .null => exact ⟨by decide, by decide⟩
  | .bool true => exact ⟨by decide, by decide⟩
  | .bool false => exact ⟨by decide, by decide⟩
  | .number n =>
    refine ⟨?_, List.all_eq_true.2 fun c hc => inWord_of_inNumber (n.inNumber_of_mem_text c hc)⟩
    simp only [isConstant, Scalar.text, Json.Number.text, String.toList_ofList,
      n.isNumber_render, Bool.or_true]
  | .string s => exact absurd ⟨s, rfl⟩ h

/-- A test for null is read as a comparison with null. -/
theorem readsAs_nullComparison (hcol : isIdentifier column.toList = true) :
    ReadsAs (nullClause column) fun truth => truth (nullAtom column .eq) := by
  refine readsAs_constantComparison hcol .eq (by decide) (by decide) ?_
  exact cuts_nullClause (quote_not_mem_identifier hcol)

/-- A pattern is read as a match of the value with its wildcards against the column. -/
theorem readsAs_patternClause (hcol : isIdentifier column.toList = true) (kind : PatternKind)
    (value : Scalar) : ReadsAs (patternClause column kind value) fun truth =>
      truth (.ismatch (kind.wildcard value.text).toList column.toList) := by
  have hcuts := cuts_patternClause (quote_not_mem_identifier hcol) kind value
  generalize (kind.wildcard value.text).toList = pattern at hcuts ⊢
  refine ⟨isBlankText_eq_false hcuts (s := .literal pattern) (by simp) rfl, _, _,
    hasTokens_iff.2 ⟨_, hcuts, rfl⟩, reads_ismatch pattern column.toList, fun _ => rfl⟩

/-- A comparison is read as it is meant. -/
theorem readsAs_comparisonClause (hcol : isIdentifier column.toList = true) (operator : Operator)
    (value : Scalar) : ReadsAs (comparisonClause column operator value) fun truth =>
      truth (comparisonAtom column operator value) := by
  have hquote := quote_not_mem_identifier hcol
  by_cases hnull : value = .null
  · subst hnull
    cases operator <;> exact readsAs_nullComparison hcol
  · cases operator with
    | pattern kind =>
      rw [comparisonClause_pattern hnull]
      have hatom : comparisonAtom column (.pattern kind) value =
          .ismatch (kind.wildcard value.text).toList column.toList := by
        cases value with
        | null => exact absurd rfl hnull
        | _ => rfl
      rw [hatom]
      exact readsAs_patternClause hcol kind value
    | comparison c =>
      -- A string is quoted, so it is a literal of the text and no constant.
      by_cases hstring : value.IsString
      · obtain ⟨s, rfl⟩ := hstring
        have hcuts := cuts_stringComparison hquote c s
        have hoperand : operand? (.literal s.toList) = some (.text s.toList) := rfl
        have hlex : lexFrom [] [.literal s.toList] = some [.literal s.toList] := rfl
        refine readsAs_comparison hcol c hoperand hlex ?_
        simpa [plains] using hcuts
      · have hatom : comparisonAtom column (.comparison c) value =
            .comparison column.toList c (.constant value.text.toList) := by
          cases value with
          | null => exact absurd rfl hnull
          | string s => exact absurd ⟨s, rfl⟩ hstring
          | _ => rfl
        obtain ⟨hconstant, hchars⟩ := isConstant_text hstring
        rw [hatom]
        exact readsAs_constantComparison hcol c hconstant hchars
          (cuts_plainComparison hquote c hnull hstring)

/-- The tokens of a membership test. -/
theorem lexFrom_membershipCall {column : List Char} (hcol : isIdentifier column = true)
    (list : List Char) :
    lexFrom [] (plains ("search.in(".toList ++ (column ++ ", ".toList)) ++
      .literal list :: (plains ", ".toList ++ .literal [','] :: plains ")".toList)) =
      some [.word "search.in".toList, .opening, .word column, .comma, .literal list, .comma,
        .literal [','], .closing] := by
  have hsplit : plains ("search.in(".toList ++ (column ++ ", ".toList)) ++
      .literal list :: (plains ", ".toList ++ .literal [','] :: plains ")".toList) =
      plains "search.in(".toList ++ (plains column ++ [.plain ',', .plain ' ', .literal list,
        .plain ',', .plain ' ', .literal [','], .plain ')']) := by
    simp [plains]
  have hopening : ∀ s ∈ (plains "search.in(".toList).getLast?, segmentInWord s = false := by
    decide
  rw [hsplit, lexFrom_append (.inr ⟨hopening, fun _ => rfl⟩), lexFrom_column hcol]
  · rfl
  · rintro _ ⟨⟩
    decide

/-- A membership test is read as a search for the column in the list. -/
theorem readsAs_membershipClause (hcol : isIdentifier column.toList = true)
    {members : List Scalar} (h : membershipClause column members = .ok text) :
    ReadsAs text fun truth => truth (membershipAtom column members) := by
  have hcuts := cuts_membershipClause (quote_not_mem_identifier hcol) h
  refine ⟨isBlankText_eq_false hcuts (s := .literal (memberList members).toList) (by simp) rfl,
    _, .atom (membershipAtom column members),
    hasTokens_iff.2 ⟨_, hcuts, lexFrom_membershipCall hcol _⟩, ?_, fun _ => rfl⟩
  exact reads_isin hcol (memberList members).toList [delimiter]

/-- A negated call. -/
theorem readsAs_not {call : String} {value : (Atom → Bool) → Bool} (h : ReadsAs call value) :
    ReadsAs ("not " ++ call) fun truth => !value truth := by
  obtain ⟨-, ts, e, htokens, hreads, hmeaning⟩ := h
  have hnot : HasTokens "not " [.word "not".toList] := rfl
  refine ⟨?_, _, _, hnot.append htokens (.inl (by decide)) (.inr (by decide)), reads_not hreads,
    fun truth => ?_⟩
  · rw [Text.isBlankText, String.toList_append, List.all_append]
    rfl
  · rw [Expr.holds, hmeaning]

/-- The clause of a predicate that is no group is read as the predicate. -/
theorem readsAs_leafClause {p : Predicate} (hp : p.IsPlain) (h : LeafText p text) :
    ReadsAs text fun truth => p.holds truth := by
  cases h with
  | basic column operator value =>
    exact readsAs_comparisonClause (hp.column column rfl) operator value
  | nullPattern column _ | isNull column => exact readsAs_nullComparison (hp.column column rfl)
  | @pattern column kind value hvalue =>
    cases value with
    | null => exact absurd rfl hvalue
    | bool _ | number _ | string _ => exact readsAs_patternClause (hp.column column rfl) kind _
  | isNotNull column =>
    have hcol := hp.column column rfl
    have hplain : '\'' ∉ column.toList ++ " ne null".toList := by
      simp [quote_not_mem_identifier hcol]
    refine readsAs_constantComparison hcol .ne (by decide) (by decide) ?_
    rw [String.toList_append]
    exact .ofPlain hplain
  | isIn hcall => exact readsAs_membershipClause (hp.column _ rfl) hcall
  | isNotIn hcall => exact readsAs_not (readsAs_membershipClause (hp.column _ rfl) hcall)
  | boolean column value =>
    have hcol := hp.column column rfl
    have hbool : ¬ (Scalar.bool value).IsString := nofun
    obtain ⟨hconstant, hchars⟩ := isConstant_text hbool
    have hplain : '\'' ∉ column.toList ++ ' ' ::
        ("eq".toList ++ ' ' :: (Scalar.bool value).text.toList) := by
      cases value <;> simp [quote_not_mem_identifier hcol, Scalar.text]
    have hcuts := Cuts.ofPlain hplain
    refine readsAs_constantComparison hcol .eq hconstant hchars ?_
    cases value <;> simpa [Comparison.word, Scalar.text] using hcuts
  | raw text => cases hp.noText
  | fragment text => cases hp.noText

end Clauses

/-! ## Rows and groups -/

/-- The text of a tree: it is read as the tree, or is empty if the tree asks for nothing. -/
def Renders (p : Predicate) (text : String) : Prop :=
  (∀ q ∈ p.nodes, q.IsPlain) →
    if p.constrains then ReadsAs text fun truth => p.holds truth else text = ""

/-- The text is read as a row with the connective. -/
def ReadsAsRow (connective : Connective) (text : String) (value : (Atom → Bool) → Bool) : Prop :=
  ∃ ts e, HasTokens text ts ∧ ReadsRow connective ts e ∧ ∀ truth, e.holds truth = value truth

/-- The neutral truth value changes nothing. -/
theorem combine_neutral (connective : Connective) (b : Bool) :
    combine connective b (neutral connective) = b := by
  cases connective <;> simp [combine, neutral]

/-- Predicates that ask for nothing do not count in a row. -/
theorem rowHolds_of_not_constrains {ps : List Predicate}
    (h : Predicate.anyConstrains ps = false) (truth : Atom → Bool) (connective : Connective) :
    Predicate.rowHolds truth connective ps = neutral connective := by
  induction ps with
  | nil => rfl
  | cons p rest ih =>
    rw [Predicate.anyConstrains, Bool.or_eq_false_iff] at h
    simp only [Predicate.rowHolds, h.1, Bool.false_eq_true, if_false]
    exact ih h.2

/-- A condition alone is a row with every connective. -/
theorem ReadsAs.row {text : String} {value : (Atom → Bool) → Bool} (h : ReadsAs text value)
    (connective : Connective) : ReadsAsRow connective text value := by
  obtain ⟨-, ts, e, htokens, hreads, hmeaning⟩ := h
  exact ⟨ts, e, htokens, reads_row_of_condition connective hreads, hmeaning⟩

/-- One condition in front of a row, with the connective between them. -/
theorem readsAsRow_cons {connective : Connective} {text more : String}
    {value value' : (Atom → Bool) → Bool} (h : ReadsAs text value)
    (hrow : ReadsAsRow connective more value') :
    ReadsAsRow connective (text ++ (" " ++ connective.word ++ " ") ++ more) fun truth =>
      combine connective (value truth) (value' truth) := by
  obtain ⟨-, ts, e, htokens, hreads, hmeaning⟩ := h
  obtain ⟨us, f, htokens', hreads', hmeaning'⟩ := hrow
  have hword : HasTokens (" " ++ connective.word ++ " ") [.word connective.word.toList] := by
    cases connective <;> rfl
  have hquote : '\'' ∉ (" " ++ connective.word ++ " ").toList := by cases connective <;> decide
  have hhead : (" " ++ connective.word ++ " ").toList.head? = some ' ' := by
    cases connective <;> rfl
  have hlast : (" " ++ connective.word ++ " ").toList.getLast? = some ' ' := by
    cases connective <;> rfl
  generalize " " ++ connective.word ++ " " = separator at hword hquote hhead hlast
  have htail := hword.append htokens' (.inl hquote) (.inr (by rw [hlast]; decide))
  have hall := htokens.append htail (.inr (by rw [head?_separator_append hhead]; decide))
    (.inl (by rw [head?_separator_append hhead]; decide))
  rw [String.append_assoc]
  refine ⟨_, _, hall, reads_row_cons hreads hreads', fun truth => ?_⟩
  rw [Expr.holds, hmeaning, hmeaning']

/-- The clauses that are not left out are those of predicates that ask for something, and they are
read as a row. -/
theorem readsAsRow_solid (connective : Connective) {ps : List Predicate} {texts : List String}
    (h : List.Forall₂ Renders ps texts) (hplain : ∀ q ∈ Predicate.nodesOf ps, q.IsPlain) :
    if Predicate.anyConstrains ps then
      solid texts ≠ [] ∧ ReadsAsRow connective
        (Text.joinWith (" " ++ connective.word ++ " ") (solid texts))
        fun truth => Predicate.rowHolds truth connective ps
    else solid texts = [] := by
  induction h with
  | nil => rfl
  | @cons p text ps texts hp _ ih =>
    simp only [Predicate.nodesOf, List.mem_append] at hplain
    have hfirst := hp fun q hq => hplain q (.inl hq)
    have hrest := ih fun q hq => hplain q (.inr hq)
    cases hconstrains : p.constrains with
    | false =>
      -- A predicate that says nothing has an empty clause: neither the join nor the row has it.
      rw [hconstrains, if_neg Bool.false_ne_true] at hfirst
      subst hfirst
      have hsolid : solid ("" :: texts) = solid texts := rfl
      rw [hsolid, Predicate.anyConstrains, hconstrains, Bool.false_or]
      simpa only [Predicate.rowHolds, hconstrains, Bool.false_eq_true, if_false] using hrest
    | true =>
      rw [hconstrains, if_pos rfl] at hfirst
      have hsolid : solid (text :: texts) = text :: solid texts :=
        List.filter_cons_of_pos (by simp [hfirst.1])
      rw [hsolid, Predicate.anyConstrains, hconstrains, Bool.true_or, if_pos rfl]
      refine ⟨List.cons_ne_nil _ _, ?_⟩
      simp only [Predicate.rowHolds, hconstrains, if_true]
      cases hmore : Predicate.anyConstrains ps with
      | false =>
        -- The last clause that says something stands alone, with no connective behind it.
        rw [hmore, if_neg Bool.false_ne_true] at hrest
        simp only [hrest, Text.joinWith_singleton, rowHolds_of_not_constrains hmore,
          combine_neutral]
        exact hfirst.row connective
      | true =>
        rw [hmore, if_pos rfl] at hrest
        obtain ⟨hne, hrow⟩ := hrest
        obtain ⟨next, more, hsolid⟩ := List.exists_cons_of_ne_nil hne
        rw [hsolid] at hrow ⊢
        rw [Text.joinWith_cons_cons]
        exact readsAsRow_cons hfirst hrow

/-- A row in parentheses is one condition. -/
theorem readsAs_enclosed {connective : Connective} {text : String}
    {value : (Atom → Bool) → Bool} (h : ReadsAsRow connective text value) :
    ReadsAs ("(" ++ text ++ ")") value := by
  obtain ⟨ts, e, htokens, hreads, hmeaning⟩ := h
  have hopening : HasTokens "(" [.opening] := rfl
  have hclosing : HasTokens ")" [.closing] := rfl
  have hfront := hopening.append htokens (.inl (by decide)) (.inr (by decide))
  refine ⟨?_, _, e, hfront.append hclosing (.inr (by decide)) (.inl (by decide)),
    reads_enclosed hreads, hmeaning⟩
  rw [Text.isBlankText, String.toList_append, String.toList_append, List.all_append,
    List.all_append]
  rfl

/-- The text of a group whose conditions have their texts is read as the group. -/
theorem renders_group (connective : Connective) (negated : Bool) {conditions : List Predicate}
    {texts : List String} (h : List.Forall₂ Renders conditions texts) :
    Renders (.group connective negated conditions) (groupClause connective negated texts) := by
  intro hplain
  have hrow := readsAsRow_solid connective h fun q hq => hplain q (List.mem_cons_of_mem _ hq)
  rw [Predicate.constrains]
  unfold groupClause
  cases hconstrains : Predicate.anyConstrains conditions with
  | false =>
    rw [hconstrains, if_neg Bool.false_ne_true] at hrow
    rw [hrow]
    rfl
  | true =>
    rw [hconstrains, if_pos rfl] at hrow
    obtain ⟨hne, hrow⟩ := hrow
    obtain ⟨first, rest, hsolid⟩ := List.exists_cons_of_ne_nil hne
    rw [hsolid] at hrow ⊢
    have henclosed := readsAs_enclosed hrow
    simp only [Predicate.holds, if_true]
    generalize Text.joinWith (" " ++ connective.word ++ " ") (first :: rest) = joined at henclosed ⊢
    cases negated with
    | false => simpa only [Bool.xor_false, Bool.false_eq_true, if_false] using henclosed
    | true =>
      have hnot : "not (" ++ joined ++ ")" = "not " ++ ("(" ++ joined ++ ")") := by
        rw [← String.append_assoc, ← String.append_assoc]
        rfl
      simp only [Bool.xor_true, if_true, hnot]
      exact readsAs_not henclosed

/-! ## Filters -/

/-- In strict work the clause of a predicate is read as the predicate. -/
theorem clause_renders {options : Options} (hstrict : options.strict = true) (room : Nat)
    (path : Path) (p : Predicate) : (clause options room path p).Gives (Renders p) := by
  refine gives_clause (fun p defect hlenient _ => ?_) (fun p text hleaf htext hplain => ?_)
    (fun connective negated _ _ h => renders_group connective negated h) room path p
  · rw [hstrict] at hlenient
    cases hlenient
  · have hconstrains : p.constrains = true := by
      cases p with
      | group connective negated conditions => cases hleaf
      | _ => rfl
    rw [hconstrains, if_pos rfl]
    exact readsAs_leafClause (hplain p p.self_mem_nodes) (leafText_of_leafClause hleaf htext)

/-- A filter is empty if its tree asks for nothing. Else it is read as an expression that has the
truth value of the tree, whatever the truth values of the atoms. -/
theorem compile_holds {options : Options} {ps : List Predicate} {f : String}
    (hstrict : options.strict = true) (hplain : ∀ p ∈ Predicate.nodesOf ps, p.IsPlain)
    (hf : (compile options ps).result = .ok f) :
    (f = "" ↔ Predicate.anyConstrains ps = false) ∧
      (Predicate.anyConstrains ps = true → ∃ e, Grammar.parse f = some e ∧
        ∀ truth, e.holds truth = Predicate.rowHolds truth .and ps) := by
  obtain ⟨clauses, hclauses, rfl⟩ := gives_compile (fun p defect hlenient _ => by
    rw [hstrict] at hlenient
    cases hlenient) (clause_renders hstrict) ps f hf
  have hrow := readsAsRow_solid .and hclauses hplain
  cases hconstrains : Predicate.anyConstrains ps with
  | false =>
    rw [hconstrains, if_neg Bool.false_ne_true] at hrow
    refine ⟨⟨fun _ => rfl, fun _ => ?_⟩, nofun⟩
    rw [conjunction, hrow]
    rfl
  | true =>
    rw [hconstrains, if_pos rfl] at hrow
    obtain ⟨-, ts, e, htokens, hreads, hmeaning⟩ := hrow
    have hparse : Grammar.parse (conjunction clauses) = some e := parse_of_reads htokens hreads
    refine ⟨⟨fun hempty => ?_, nofun⟩, fun _ => ⟨e, hparse, hmeaning⟩⟩
    rw [hempty] at hparse
    cases hparse

/-- A negated group with an empty one in it. -/
theorem compile_holds_nested : ∃ e, Grammar.parse
      "not (not search.in(a, 'x', ',') or (b eq null and search.ismatch('y*', 'c'))) and d eq true"
        = some e ∧ ∀ truth, e.holds truth = Predicate.rowHolds truth .and
          [.group .or true [.isNotIn "a" [.string "x"], .group .and false [],
            .group .and false [.isNull "b", .pattern "c" .startsWith (.string "y")]],
          .boolean "d" true] := by
  refine (@compile_holds {} _ _ rfl (fun p hp => ?_) rfl).2 rfl
  simp only [Predicate.nodesOf, Predicate.nodes, List.cons_append, List.nil_append,
    List.append_nil, List.mem_cons, List.not_mem_nil, or_false] at hp
  rcases hp with rfl | rfl | rfl | rfl | rfl | rfl | rfl
  · exact ⟨by rintro _ ⟨⟩, rfl⟩
  · exact ⟨by rintro _ ⟨⟩; decide, rfl⟩
  · exact ⟨by rintro _ ⟨⟩, rfl⟩
  · exact ⟨by rintro _ ⟨⟩, rfl⟩
  · exact ⟨by rintro _ ⟨⟩; decide, rfl⟩
  · exact ⟨by rintro _ ⟨⟩; decide, rfl⟩
  · exact ⟨by rintro _ ⟨⟩; decide, rfl⟩

end SearchIndex.Filter
