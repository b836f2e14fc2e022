import SearchIndex.Proofs.Filter.CallerText
import SearchIndex.Proofs.Filter.ClauseSegments

/-!
# The arguments of calls

A membership test and a match are calls, whose arguments stand in literals. What can be read back
from them:

* Membership lists are told apart by their clauses, with one exception: a list of nothing and a list
  of one empty string have the same clause (`membershipClause_eq_iff`).
* A match is one call with two closed literals, of which the first is the value with its wildcard,
  whatever the value and the column. The second one is the column as long as there is no quote in
  it (`cut_patternClause`), since the column is written as it is.
-/

namespace SearchIndex.Filter

open Segment (cut cutFrom plains)

/-! ## Membership lists -/

section Members

variable {value : Scalar} {members a b : List Scalar}

/-- The text of a member does not hold the delimiter. -/
theorem delimiter_not_mem_text (h : value.IsMember) : delimiter ∉ value.text.toList := by
  match value with
  | .null => exact absurd rfl h.1
  | .bool true => decide
  | .bool false => decide
  | .number n =>
    intro hm
    exact absurd (n.inNumber_of_mem_text _ hm) (by decide)
  | .string s => exact h.2 s rfl

/-- The only text without characters is the empty string. -/
theorem Scalar.text_eq_empty_iff : value.text = "" ↔ value = .string "" := by
  constructor
  · intro h
    match value with
    | .null => exact absurd h (by decide)
    | .bool true => exact absurd h (by decide)
    | .bool false => exact absurd h (by decide)
    | .number n =>
      have hnumber := n.isNumber_render
      have hnil : n.render = [] := by simpa [Scalar.text, Json.Number.text] using h
      rw [hnil] at hnumber
      cases hnumber
    | .string s =>
      obtain rfl : s = "" := h
      rfl
  · rintro rfl
    rfl

/-- The members are the pieces of the list, if there are any. -/
theorem pieces_memberList (h : ∀ m ∈ members, m.IsMember) (hne : members ≠ []) :
    Text.pieces (· == delimiter) (memberList members).toList =
      members.map fun m => m.text.toList := by
  have hjoined : (memberList members).toList =
      [delimiter].intercalate (members.map fun m => m.text.toList) := by
    rw [memberList, Text.toList_joinWith, List.map_map]
    rfl
  rw [hjoined, Text.pieces_intercalate (by simpa using hne)]
  intro piece hpiece
  obtain ⟨m, hm, rfl⟩ := List.mem_map.1 hpiece
  exact delimiter_not_mem_text (h m hm)

/-- A list that looks empty has at most one empty string in it. -/
theorem eq_singleton_of_memberList_eq_empty (h : ∀ m ∈ members, m.IsMember) (hne : members ≠ [])
    (hempty : memberList members = "") : members = [.string ""] := by
  have hpieces := pieces_memberList h hne
  rw [hempty] at hpieces
  obtain ⟨m, rest, rfl⟩ := List.exists_cons_of_ne_nil hne
  obtain ⟨htext, hrest⟩ := List.cons.inj hpieces
  obtain rfl := List.map_eq_nil_iff.1 hrest.symm
  have hm : m.text = "" := String.toList_injective htext.symm
  rw [Scalar.text_eq_empty_iff.1 hm]

/-- The literals of two lists are the same only if the lists have the same texts, or are the two
that look empty. -/
theorem memberList_eq_iff (ha : ∀ m ∈ a, m.IsMember) (hb : ∀ m ∈ b, m.IsMember) :
    memberList a = memberList b ↔ a.map Scalar.text = b.map Scalar.text ∨
      (a = [] ∧ b = [.string ""]) ∨ (a = [.string ""] ∧ b = []) := by
  constructor
  · intro h
    by_cases hanil : a = []
    · subst hanil
      by_cases hbnil : b = []
      · subst hbnil
        exact .inl rfl
      · exact .inr (.inl ⟨rfl, eq_singleton_of_memberList_eq_empty hb hbnil h.symm⟩)
    · by_cases hbnil : b = []
      · subst hbnil
        exact .inr (.inr ⟨eq_singleton_of_memberList_eq_empty ha hanil h, rfl⟩)
      · -- No member has the delimiter, so the list can be cut back into its members.
        left
        have hpieces := pieces_memberList ha hanil
        rw [h, pieces_memberList hb hbnil] at hpieces
        have htoList : Function.Injective String.toList := fun _ _ => String.toList_injective
        apply List.map_injective_iff.2 htoList
        rw [List.map_map, List.map_map]
        exact hpieces.symm
  · rintro (htexts | ⟨rfl, rfl⟩ | ⟨rfl, rfl⟩)
    · rw [memberList, memberList, htexts]
    · rfl
    · rfl

end Members

/-- Membership tests of a column with different members have different clauses: they are the same
only if the lists have the same texts in the same order, or if one has no members and the other one
an empty string. -/
theorem membershipClause_eq_iff {column : String} {a b : List Scalar} {f g : String}
    (hf : membershipClause column a = .ok f) (hg : membershipClause column b = .ok g) :
    f = g ↔ a.map Scalar.text = b.map Scalar.text ∨
      (a = [] ∧ b = [.string ""]) ∨ (a = [.string ""] ∧ b = []) := by
  obtain ⟨ha, rfl⟩ := membershipClause_eq_ok_iff.1 hf
  obtain ⟨hb, rfl⟩ := membershipClause_eq_ok_iff.1 hg
  rw [← memberList_eq_iff ha hb]
  constructor
  · intro h
    have hchars := congrArg String.toList h
    simp only [String.toList_append, List.append_assoc, List.append_cancel_left_eq,
      List.append_cancel_right_eq, toList_escapeText] at hchars
    exact String.toList_injective (Literal.escape_injective hchars)
  · intro h
    rw [h]

/-- Strings that are made of quotes. -/
theorem membershipClause_ne_quotes :
    membershipClause "c" [.string "'", .string "'"] = .ok "search.in(c, ''',''', ',')" ∧
      membershipClause "c" [.string "''"] = .ok "search.in(c, '''''', ',')" ∧
      "search.in(c, ''',''', ',')" ≠ "search.in(c, '''''', ',')" := by
  have hpair : membershipClause "c" [.string "'", .string "'"] =
      .ok "search.in(c, ''',''', ',')" := rfl
  have hsingle : membershipClause "c" [.string "''"] = .ok "search.in(c, '''''', ',')" := rfl
  refine ⟨hpair, hsingle, fun h => ?_⟩
  rcases (membershipClause_eq_iff hpair hsingle).1 h with htexts | ⟨hnil, -⟩ | ⟨-, hnil⟩
  · exact absurd htexts (by decide)
  · cases hnil
  · cases hnil

/-- The list without members has the clause of another one. -/
theorem exists_membershipClause_eq : ¬ ∀ (column : String) (a b : List Scalar) (f : String),
    membershipClause column a = .ok f → membershipClause column b = .ok f →
      a.map Scalar.text = b.map Scalar.text := by
  intro h
  have hempty := h "c" [] [.string ""] "search.in(c, '', ',')" rfl rfl
  cases hempty

/-! ## Matches -/

namespace Literal

/-- Escaping makes a text longer by the number of its quotes. -/
theorem length_escape (cs : List Char) : (escape cs).length = cs.length + cs.count '\'' := by
  induction cs with
  | nil => rfl
  | cons c cs ih =>
    by_cases hc : c = '\''
    · subst hc
      simp only [escape, if_true, List.length_cons, List.count_cons_self, ih]
      omega
    · simp only [escape, hc, if_false, List.length_cons, List.count_cons_of_ne hc, ih]
      omega

/-- A text stands in its literal as it is if it has no quote. -/
theorem escape_eq_self_iff {cs : List Char} : escape cs = cs ↔ '\'' ∉ cs := by
  constructor
  · intro h
    have hlength := length_escape cs
    rw [h] at hlength
    apply List.count_eq_zero.1
    omega
  · exact escape_of_not_mem

end Literal

section Cutting

variable {cs : List Char}

/-- Characters outside of literals are read one by one. -/
theorem cut_plains_append (h : '\'' ∉ cs) (ds : List Char) :
    cut (cs ++ ds) = (cut ds).map (plains cs ++ ·) := by
  induction cs with
  | nil => simp [plains]
  | cons c cs ih =>
    rw [List.mem_cons, not_or] at h
    rw [List.cons_append, cut, cutFrom_none_cons (Ne.symm h.1), ← cut, ih h.2, Option.map_map]
    rfl

/-- A literal is read as its text, in front of anything but a quote. -/
theorem cut_quote_append (text : List Char) (h : cs.head? ≠ some '\'') :
    cut (Literal.quote text ++ cs) = (cut cs).map (.literal text :: ·) := by
  rw [Literal.quote, List.append_assoc, List.cons_append, List.singleton_append, cut]
  simp only [cutFrom, if_true]
  rw [cutFrom_escape [] text cs h, List.nil_append, cut]

/-- What is written between two quotes is read as one literal if it is the text of the literal with
its quotes doubled. -/
theorem cut_quoted_iff {name : List Char} :
    cut ('\'' :: (cs ++ ['\'', ')'])) = some (.literal name :: plains [')']) ↔
      cs = Literal.escape name := by
  constructor
  · intro h
    obtain ⟨text, rest, ts, heq, -, hsegments, hrest⟩ := (cut_eq_some_iff.1 h).exists_of_quote
    obtain ⟨htext, rfl⟩ := List.cons.inj hsegments
    cases htext
    obtain rfl : rest = [')'] := by
      cases hrest with
      | plain _ hnil =>
        cases hnil
        rfl
    exact List.append_cancel_right heq
  · rintro rfl
    have hquote := cut_quote_append name (show [')'].head? ≠ some '\'' by decide)
    rw [Literal.quote, List.append_assoc, List.cons_append] at hquote
    exact hquote

end Cutting

/-- The segments of a match of a column against a pattern: one call with two literals. -/
def matchCall (pattern column : List Char) : List Segment :=
  plains "search.ismatch(".toList ++ .literal pattern ::
    (plains ", ".toList ++ .literal column :: plains ")".toList)

section Matches

variable (column : String) (kind : PatternKind) (value : Scalar)

/-- No quote follows the first literal, which would be doubled with the one that closes it. -/
theorem head?_comma_append : (", '" ++ column ++ "')").toList.head? ≠ some '\'' := by
  simp

/-- The clause of a match is read up to its second literal, whatever stands there. -/
theorem cut_patternClause_value :
    cut (patternClause column kind value).toList =
      (cut (", '" ++ column ++ "')").toList).map fun rest =>
        plains "search.ismatch(".toList ++ .literal (kind.wildcard value.text).toList :: rest := by
  have hclause : (patternClause column kind value).toList = "search.ismatch(".toList ++
      (Literal.quote (kind.wildcard value.text).toList ++ (", '" ++ column ++ "')").toList) := by
    unfold patternClause Literal.quote
    simp
  rw [hclause, cut_plains_append (by decide), cut_quote_append _ (head?_comma_append column),
    Option.map_map]
  rfl

/-- The clause of a match is one call with two closed literals, of a pattern and a name, if the
pattern is the value with its wildcard and the column is the name with its quotes doubled. -/
theorem cut_patternClause_eq_iff {pattern name : List Char} :
    cut (patternClause column kind value).toList = some (matchCall pattern name) ↔
      pattern = (kind.wildcard value.text).toList ∧ column.toList = Literal.escape name := by
  have hcolumn : (", '" ++ column ++ "')").toList =
      ", ".toList ++ '\'' :: (column.toList ++ ['\'', ')']) := by
    simp
  rw [cut_patternClause_value, hcolumn, cut_plains_append (by decide), Option.map_map,
    ← cut_quoted_iff, Option.map_eq_some_iff, matchCall]
  constructor
  · rintro ⟨rest, hrest, heq⟩
    obtain ⟨hpattern, hcall⟩ := List.cons.inj (List.append_cancel_left heq)
    cases hpattern
    rw [hrest, List.append_cancel_left hcall]
    exact ⟨rfl, rfl⟩
  · rintro ⟨rfl, hcut⟩
    exact ⟨_, hcut, rfl⟩

end Matches

/-- The first literal of a match is always closed, and is read as the value with its wildcard. The
whole clause is one call with a second closed literal that is read as the column exactly if there is
no quote in the column. -/
theorem cut_patternClause (column : String) (kind : PatternKind) (value : Scalar) :
    (∃ tail, (patternClause column kind value).toList = "search.ismatch('".toList ++ tail ∧
      (Literal.scan tail).2 = (", '" ++ column ++ "')").toList ∧
      Literal.unquote? ('\'' :: (Literal.scan tail).1) = some (kind.wildcard value.text).toList) ∧
      (cut (patternClause column kind value).toList =
          some (matchCall (kind.wildcard value.text).toList column.toList) ↔
        '\'' ∉ column.toList) := by
  constructor
  · have hscan := Literal.scan_escape_append (kind.wildcard value.text).toList _
      (head?_comma_append column)
    refine ⟨_, ?_, congrArg Prod.snd hscan, ?_⟩
    · unfold patternClause
      simp
    · rw [hscan]
      exact Literal.unquote?_quote _
  · rw [cut_patternClause_eq_iff, ← Literal.escape_eq_self_iff, eq_comm (a := column.toList)]
    exact and_iff_right rfl

/-- A quote in the column ends the literal of the column. -/
theorem exists_cut_patternClause_ne : ¬ ∀ (column : String) (kind : PatternKind) (value : Scalar),
    Text.isBlankText column = false → value ≠ .null →
      cut (patternClause column kind value).toList =
        some (matchCall (kind.wildcard value.text).toList column.toList) := by
  intro h
  have hcall := h "a'b" .like (.string "x") (by decide) nofun
  have hquote := (cut_patternClause_eq_iff "a'b" .like (.string "x")).1 hcall
  exact absurd hquote.2 (by decide)

end SearchIndex.Filter
