import SearchIndex.Filter.Reading
import SearchIndex.Proofs.Filter.ClauseRun
import SearchIndex.Proofs.Filter.ClauseSegments
import SearchIndex.Proofs.Filter.Sites

/-!
# Numbers in a filter

The clause of a predicate with a number shows the number in one place, and what is around it is the
same for all numbers (`ShowsNumber`). Escaping, joining and the parentheses of a group keep that, so
the filter shows the number as well, wherever the predicate stands in the tree
(`showsNumber_conjunction`).

A number stands in a filter as it is. It needs no escape, and it is never blank, so that a clause
that shows a number is not left out of a join.
-/

namespace SearchIndex.Filter

open Json (Number)

/-! ## Texts that show a number -/

/-- The text shows the number in one place. What is around it does not depend on the number. -/
def ShowsNumber (text : Number → String) : Prop :=
  ∃ before after, ∀ n, text n = before ++ n.text ++ after

/-- No number has a quote. -/
theorem quote_not_mem_number (n : Number) : '\'' ∉ n.text.toList := by
  have hstring : ¬(Scalar.number n).IsString := nofun
  exact Scalar.quote_not_mem_text hstring

/-- No character of a number is white space. -/
theorem isBlank_of_inNumber {c : Char} (h : Decimal.inNumber c = true) :
    Text.isBlank c = false := by
  simp only [Decimal.inNumber, Bool.or_eq_true, beq_iff_eq] at h
  obtain (((hdigit | rfl) | rfl) | rfl) | rfl := h
  · simp only [Char.isDigit, Bool.and_eq_true, decide_eq_true_eq] at hdigit
    have hlow : 48 ≤ c.toNat := UInt32.le_iff_toNat_le.1 hdigit.1
    have hhigh : c.toNat ≤ 57 := UInt32.le_iff_toNat_le.1 hdigit.2
    have hspace : c ≠ ' ' := by
      rintro rfl
      exact absurd hlow (by decide)
    have hcontrol : Nat.ble c.toNat 13 = false := by
      rw [← Bool.not_eq_true, Nat.ble_eq]
      omega
    rw [Text.isBlank, if_pos (by omega), hcontrol, Bool.and_false, Bool.or_false,
      beq_eq_false_iff_ne]
    exact hspace
  all_goals decide

section ShowsNumber

variable {text : Number → String}

/-- The text of a number shows it. -/
theorem showsNumber_self : ShowsNumber Number.text :=
  ⟨"", "", fun n => by rw [String.empty_append, String.append_empty]⟩

/-- A number stays shown between other texts. -/
theorem ShowsNumber.between (h : ShowsNumber text) (left right : String) :
    ShowsNumber fun n => left ++ text n ++ right := by
  obtain ⟨before, after, htext⟩ := h
  exact ⟨left ++ before, after ++ right, fun n => by simp only [htext, String.append_assoc]⟩

theorem ShowsNumber.behind (h : ShowsNumber text) (left : String) :
    ShowsNumber fun n => left ++ text n := by
  obtain ⟨before, after, htext⟩ := h
  exact ⟨left ++ before, after, fun n => by simp only [htext, String.append_assoc]⟩

theorem ShowsNumber.followed (h : ShowsNumber text) (right : String) :
    ShowsNumber fun n => text n ++ right := by
  obtain ⟨before, after, htext⟩ := h
  exact ⟨before, after ++ right, fun n => by simp only [htext, String.append_assoc]⟩

/-- There is no quote in a number, so it is not changed where texts are escaped. -/
theorem ShowsNumber.escapeText (h : ShowsNumber text) :
    ShowsNumber fun n => Filter.escapeText (text n) := by
  obtain ⟨before, after, htext⟩ := h
  refine ⟨Filter.escapeText before, Filter.escapeText after, fun n => ?_⟩
  simp only [htext, escapeText_append, escapeText_of_not_mem (quote_not_mem_number n)]

theorem ShowsNumber.wildcard (h : ShowsNumber text) (kind : PatternKind) :
    ShowsNumber fun n => kind.wildcard (text n) := by
  cases kind with
  | like | contains => exact h
  | startsWith => exact h.followed "*"
  | endsWith => exact h.behind "*"

theorem ShowsNumber.joinWith (h : ShowsNumber text) (separator : String)
    (before after : List String) :
    ShowsNumber fun n => Text.joinWith separator (before ++ text n :: after) := by
  induction before with
  | nil =>
    cases after with
    | nil => exact h
    | cons t rest =>
      exact (h.followed separator).followed (Text.joinWith separator (t :: rest))
  | cons s before ih =>
    have hjoin (n : Number) : Text.joinWith separator (s :: before ++ text n :: after) =
        s ++ separator ++ Text.joinWith separator (before ++ text n :: after) := by
      cases before <;> rfl
    simp only [hjoin]
    exact ih.behind (s ++ separator)

/-- A text that shows a number is not blank. -/
theorem ShowsNumber.isBlankText (h : ShowsNumber text) (n : Number) :
    Text.isBlankText (text n) = false := by
  obtain ⟨before, after, htext⟩ := h
  have hrender : n.render ≠ [] := by
    intro hnil
    have hnumber := n.isNumber_render
    rw [hnil] at hnumber
    cases hnumber
  obtain ⟨c, digits, hdigits⟩ := List.exists_cons_of_ne_nil hrender
  have hc : c ∈ n.text.toList := by simp [Number.text, hdigits]
  have hblank : Text.isBlank c = false := isBlank_of_inNumber (n.inNumber_of_mem_text c hc)
  rw [Text.isBlankText, List.all_eq_false]
  refine ⟨c, ?_, by simp [hblank]⟩
  rw [htext, String.toList_append, String.toList_append]
  exact List.mem_append_left _ (List.mem_append_right _ hc)

/-- A text that shows a number is among the clauses that say something. -/
theorem ShowsNumber.solid (h : ShowsNumber text) (before after : List String) (n : Number) :
    Filter.solid (before ++ text n :: after) =
      Filter.solid before ++ text n :: Filter.solid after := by
  simp only [Filter.solid, List.filter_append, List.filter_cons, h.isBlankText n, Bool.not_false,
    if_true]

/-- A number that a condition shows is shown by the group. -/
theorem ShowsNumber.groupClause (h : ShowsNumber text) (connective : Connective) (negated : Bool)
    (before after : List String) :
    ShowsNumber fun n => Filter.groupClause connective negated (before ++ text n :: after) := by
  have hjoin := h.joinWith (" " ++ connective.word ++ " ") (Filter.solid before)
    (Filter.solid after)
  have hgroup (n : Number) : Filter.groupClause connective negated (before ++ text n :: after) =
      (if negated then "not (" else "(") ++ Text.joinWith (" " ++ connective.word ++ " ")
        (Filter.solid before ++ text n :: Filter.solid after) ++ ")" := by
    simp only [Filter.groupClause, h.solid before after n]
    split
    · next hnil => simp at hnil
    · next hcons =>
      rw [hcons]
      cases negated <;> rfl
  simp only [hgroup]
  exact hjoin.between _ ")"

/-- A number that a clause shows is shown by the filter. -/
theorem ShowsNumber.conjunction (h : ShowsNumber text) (before after : List String) :
    ShowsNumber fun n => Filter.conjunction (before ++ text n :: after) := by
  simp only [Filter.conjunction, h.solid before after]
  exact h.joinWith " and " _ _

end ShowsNumber

/-! ## Clauses -/

mutual

/-- The clause of a predicate, for any options and with any levels left. If the predicate has a
defect, it is blank. -/
def clauseText : Predicate → String
  | .group connective negated conditions =>
    groupClause connective negated (clauseTexts conditions)
  | leaf => (leafClause leaf).toOption.getD ""

/-- The clauses of some predicates. -/
def clauseTexts : List Predicate → List String
  | [] => []
  | p :: rest => clauseText p :: clauseTexts rest

end

theorem clauseTexts_append (ps qs : List Predicate) :
    clauseTexts (ps ++ qs) = clauseTexts ps ++ clauseTexts qs := by
  induction ps with
  | nil => rfl
  | cons p rest ih => rw [List.cons_append, clauseTexts, clauseTexts, ih, List.cons_append]

/-- The clause of a predicate that is no group is the one it has by itself, if it has one. -/
theorem clauseText_of_leaf {p : Predicate} (h : p.isGroup = false) :
    clauseText p = (leafClause p).toOption.getD "" := by
  cases p with
  | group connective negated conditions => cases h
  | _ => rfl

/-- A predicate with a defect has a blank clause. -/
theorem clauseText_of_defect {p : Predicate} {defect : Defect}
    (h : leafClause p = .error defect) : clauseText p = "" := by
  have hleaf : p.isGroup = false := by
    cases p with
    | group connective negated conditions => cases h
    | _ => rfl
  rw [clauseText_of_leaf hleaf, h]
  rfl

/-! ### Single predicates -/

section Clauses

variable (column : String)

/-- A pattern shows its number. -/
theorem showsNumber_patternClause (kind : PatternKind) :
    ShowsNumber fun n => patternClause column kind (.number n) := by
  have hliteral := (showsNumber_self.wildcard kind).escapeText
  unfold patternClause
  exact (((hliteral.behind "search.ismatch('").followed "', '").followed column).followed "')"

/-- A comparison shows its number, whatever the operator. -/
theorem showsNumber_comparisonClause (operator : Operator) :
    ShowsNumber fun n => comparisonClause column operator (.number n) := by
  cases operator with
  | comparison c => exact showsNumber_self.behind (column ++ " " ++ c.word ++ " ")
  | pattern kind =>
    -- A number is not null, so a pattern is matched against it.
    have hclause (n : Number) : comparisonClause column (.pattern kind) (.number n) =
        patternClause column kind (.number n) := rfl
    simp only [hclause]
    exact showsNumber_patternClause column kind

theorem showsNumber_basic (operator : Operator) :
    ShowsNumber fun n => clauseText (.basic column operator (.number n)) :=
  showsNumber_comparisonClause column operator

theorem showsNumber_patternWith (kind : PatternKind) (operator : Option Operator) :
    ShowsNumber fun n => clauseText (patternWith column kind (.number n) operator) := by
  rcases operator with _ | c | other
  · exact showsNumber_patternClause column kind
  · exact showsNumber_basic column (.comparison c)
  · exact showsNumber_patternClause column other

/-- The call of a membership list, if its other members may be members of one. -/
theorem exists_membershipClause {before after : List Scalar}
    (hbefore : ∀ m ∈ before, m.IsMember) (hafter : ∀ m ∈ after, m.IsMember) :
    ∃ text, ShowsNumber text ∧
      ∀ n, membershipClause column (before ++ .number n :: after) = .ok (text n) := by
  have hlist : ShowsNumber fun n => memberList (before ++ .number n :: after) := by
    simp only [memberList, List.map_append, List.map_cons]
    exact showsNumber_self.joinWith "," _ _
  refine ⟨_, hlist.escapeText.between ("search.in(" ++ column ++ ", '") "', ',')", fun n => ?_⟩
  refine membershipClause_eq_ok_iff.2 ⟨fun m hm => ?_, rfl⟩
  rcases List.mem_append.1 hm with hm | hm
  · exact hbefore m hm
  · rcases List.mem_cons.1 hm with rfl | hm
    · refine ⟨?_, ?_⟩
      · rintro ⟨⟩
      · rintro s ⟨⟩
    · exact hafter m hm

/-- A membership test shows a number among members that may stand in a list. -/
theorem showsNumber_isIn {before after : List Scalar} (hbefore : ∀ m ∈ before, m.IsMember)
    (hafter : ∀ m ∈ after, m.IsMember) :
    ShowsNumber fun n => clauseText (.isIn column (before ++ .number n :: after)) := by
  obtain ⟨text, htext, hclause⟩ := exists_membershipClause column hbefore hafter
  have hshown (n : Number) : clauseText (.isIn column (before ++ .number n :: after)) = text n := by
    rw [clauseText_of_leaf rfl, leafClause, hclause]
    rfl
  simpa only [hshown] using htext

theorem showsNumber_isNotIn {before after : List Scalar} (hbefore : ∀ m ∈ before, m.IsMember)
    (hafter : ∀ m ∈ after, m.IsMember) :
    ShowsNumber fun n => clauseText (.isNotIn column (before ++ .number n :: after)) := by
  obtain ⟨text, htext, hclause⟩ := exists_membershipClause column hbefore hafter
  have hshown (n : Number) :
      clauseText (.isNotIn column (before ++ .number n :: after)) = "not " ++ text n := by
    rw [clauseText_of_leaf rfl, leafClause, hclause]
    rfl
  simpa only [hshown] using htext.behind "not "

end Clauses

/-! ### Trees -/

/-- Texts that are the clauses of predicates one for one are their clauses. -/
theorem eq_clauseTexts {ps : List Predicate} {texts : List String}
    (h : List.Forall₂ (fun p text => text = clauseText p) ps texts) : texts = clauseTexts ps := by
  induction h with
  | nil => rfl
  | cons htext _ ih => rw [clauseTexts, htext, ih]

/-- A filter is the conjunction of the clauses of its predicates. -/
theorem eq_conjunction_of_compile {options : Options} {ps : List Predicate} {f : String}
    (h : (compile options ps).result = .ok f) : f = conjunction (clauseTexts ps) := by
  have hdropped (p : Predicate) (defect : Defect) (_ : options.strict = false)
      (hdefect : leafClause p = .error defect) : "" = clauseText p :=
    (clauseText_of_defect hdefect).symm
  have hclause (room : Nat) (path : Path) (p : Predicate) :
      (clause options room path p).Gives fun text => text = clauseText p := by
    refine gives_clause (P := fun p text => text = clauseText p) hdropped
      (fun p text hleaf htext => by rw [clauseText_of_leaf hleaf, htext]; rfl)
      (fun connective negated conditions clauses hclauses => ?_) room path p
    rw [eq_clauseTexts hclauses, clauseText]
  obtain ⟨clauses, hclauses, rfl⟩ := gives_compile hdropped hclause ps f h
  rw [eq_clauseTexts hclauses]

section Trees

variable {p : Number → Predicate}

/-- Among the clauses of a tree is one that shows the number of a predicate in it, and the others do
not depend on the number. -/
theorem exists_clauseTexts (h : ShowsNumber fun n => clauseText (p n))
    (tree : Site Predicate (Connective × Bool)) (as bs : List Predicate) :
    ∃ text before after, ShowsNumber text ∧
      ∀ n, clauseTexts (tree.withPredicates (as ++ p n :: bs)) = before ++ text n :: after := by
  induction tree with
  | list before after =>
    refine ⟨_, clauseTexts before ++ clauseTexts as, clauseTexts bs ++ clauseTexts after, h,
      fun n => ?_⟩
    simp only [Site.withPredicates, Site.fill, clauseTexts_append, clauseTexts,
      List.append_assoc, List.cons_append]
  | inside before label inner after ih =>
    obtain ⟨text, before', after', htext, hclauses⟩ := ih
    refine ⟨_, clauseTexts before, clauseTexts after,
      htext.groupClause label.1 label.2 before' after', fun n => ?_⟩
    rw [← hclauses n]
    simp only [Site.withPredicates, Site.fill, clauseTexts_append, clauseTexts, clauseText]

/-- A filter shows the number of a predicate, wherever the predicate stands in its tree. -/
theorem showsNumber_conjunction (h : ShowsNumber fun n => clauseText (p n))
    (tree : Site Predicate (Connective × Bool)) (as bs : List Predicate) :
    ShowsNumber fun n => conjunction (clauseTexts (tree.withPredicates (as ++ p n :: bs))) := by
  obtain ⟨text, before, after, htext, hclauses⟩ := exists_clauseTexts h tree as bs
  simp only [hclauses]
  exact htext.conjunction before after

end Trees

end SearchIndex.Filter
