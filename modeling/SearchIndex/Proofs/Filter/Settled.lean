import SearchIndex.Proofs.Filter.CallerText

/-!
# Texts in normal form

The normal form of a text changes the symbols of operators and the keywords that are not in lower
case, and nothing else. A text that has neither outside of its literals is `Settled`: it is its
own normal form (`normalize_of_settled`). A normal form is settled (`exists_settled_normalize`),
provided that the literals of the text are closed.

Settled texts can be put in a row, as long as no word runs over the seam (`Settled.append`).
-/

namespace SearchIndex.Filter

open Segment (plains plains_append)
open RawText (Lexes Token continuesWord normalWord startsWord words)

/-! ## Settled texts -/

namespace RawText

/-- A character that the symbol of an operator may start with, whatever follows it. -/
def isMark (c : Char) : Bool :=
  c == '<' || c == '>' || c == '='

/-- Other characters are no marks of operators. -/
theorem isMark_eq_false {c : Char} (hless : c ≠ '<') (hgreater : c ≠ '>') (hequals : c ≠ '=') :
    isMark c = false := by
  simp only [isMark, Bool.or_eq_false_iff, beq_eq_false_iff_ne]
  exact ⟨⟨hless, hgreater⟩, hequals⟩

/-- No symbol starts with them, unless an equals sign follows. -/
theorem takesNoSymbol_of_isMark {c : Char} {rest : List Char} (hc : isMark c = false)
    (hrest : rest.head? ≠ some '=') : TakesNoSymbol (c :: rest) := by
  simp only [isMark, Bool.or_eq_false_iff, beq_eq_false_iff_ne] at hc
  exact takesNoSymbol_cons_iff.2 ⟨hc.1.1, hc.1.2, hc.2, fun _ => hrest⟩

/-- A mark of an operator is a symbol already. -/
theorem TakesNoSymbol.isMark {c : Char} {rest : List Char} (h : TakesNoSymbol (c :: rest)) :
    isMark c = false := by
  obtain ⟨hless, hgreater, hequals, -⟩ := takesNoSymbol_cons_iff.1 h
  exact isMark_eq_false hless hgreater hequals

/-- A character of words is no mark. -/
theorem isMark_of_continuesWord {c : Char} (h : continuesWord c = true) : isMark c = false := by
  apply isMark_eq_false <;> rintro rfl <;> cases h

end RawText

namespace Segment

/-- The segment is a character that a word goes on with. -/
def continuesWord : Segment → Bool
  | .literal _ => false
  | .plain c => RawText.continuesWord c

/-- Outside of literals there is no symbol of an operator, and no keyword but in lower case. -/
inductive Settled : List Segment → Prop
  | nil : Settled []
  | literal (text : List Char) {ss : List Segment} (h : Settled ss) :
      Settled (.literal text :: ss)
  | word {c : Char} {cs : List Char} {ss : List Segment} (hc : startsWord c = true)
      (hcs : ∀ d ∈ cs, RawText.continuesWord d = true) (hnormal : normalWord (c :: cs) = c :: cs)
      (hss : ∀ s ∈ ss.head?, s.continuesWord = false) (h : Settled ss) :
      Settled (plains (c :: cs) ++ ss)
  | other {c : Char} {ss : List Segment} (hc : startsWord c = false)
      (hmark : RawText.isMark c = false) (h : Settled ss) : Settled (.plain c :: ss)

namespace Settled

variable {ss ts : List Segment} {cs : List Char}

/-- A settled text goes on with no mark. -/
theorem isMark_of_mem_head? (h : Settled ss) {c : Char} (hc : .plain c ∈ ss.head?) :
    RawText.isMark c = false := by
  cases h with
  | nil => cases hc
  | literal text _ => cases hc
  | word hstarts _ _ _ _ =>
    cases hc
    exact RawText.isMark_of_continuesWord (RawText.continuesWord_of_startsWord hstarts)
  | other _ hmark _ =>
    cases hc
    exact hmark

/-- Settled texts in a row are settled, unless a word runs over the seam. -/
theorem append (hs : Settled ss) (ht : Settled ts)
    (hseam : (∀ s ∈ ss.getLast?, s.continuesWord = false) ∨
      ∀ t ∈ ts.head?, t.continuesWord = false) : Settled (ss ++ ts) := by
  -- The end of what is left is the end of the whole.
  have hrest (front : List Segment) {back : List Segment} (h : (∀ s ∈ (front ++ back).getLast?,
      s.continuesWord = false) ∨ ∀ t ∈ ts.head?, t.continuesWord = false) :
      (∀ s ∈ back.getLast?, s.continuesWord = false) ∨ ∀ t ∈ ts.head?, t.continuesWord = false := by
    refine h.imp_left fun hlast s hs => hlast s ?_
    rw [List.getLast?_append, Option.mem_def.1 hs]
    rfl
  induction hs with
  | nil => exact ht
  | literal text _ ih => exact .literal text (ih (hrest [_] hseam))
  | other hc hmark _ ih => exact .other hc hmark (ih (hrest [_] hseam))
  | @word c cs ss hc hcs hnormal hss _ ih =>
    rw [List.append_assoc]
    refine .word hc hcs hnormal (fun s hs => ?_) (ih (hrest _ hseam))
    cases ss with
    | cons s' ss => exact hss s hs
    | nil =>
      refine hseam.resolve_left (fun hlast => ?_) s hs
      have hword : ∀ d ∈ c :: cs, RawText.continuesWord d = true :=
        List.forall_mem_cons.2 ⟨RawText.continuesWord_of_startsWord hc, hcs⟩
      obtain ⟨front, d, hd⟩ :=
        (List.eq_nil_or_concat' (c :: cs)).resolve_left (List.cons_ne_nil c cs)
      have hfalse : RawText.continuesWord d = false := hlast (.plain d) (by rw [hd]; simp [plains])
      rw [hword d (by rw [hd]; simp)] at hfalse
      cases hfalse

end Settled

end Segment

open Segment (Settled)

/-! ## The normal form of a settled text -/

namespace Cuts

variable {cs : List Char} {ss : List Segment}

/-- Characters among the segments are characters of the text. -/
theorem exists_of_plains {word : List Char} (h : Cuts cs (plains word ++ ss)) :
    ∃ rest, cs = word ++ rest ∧ Cuts rest ss := by
  induction word generalizing cs with
  | nil => exact ⟨cs, rfl, h⟩
  | cons c word ih =>
    cases h with
    | plain _ h =>
      obtain ⟨rest, rfl, hrest⟩ := ih h
      exact ⟨rest, rfl, hrest⟩

/-- A text starts with a character of words only if its first segment does. -/
theorem head?_continuesWord (h : Cuts cs ss) (hss : ∀ s ∈ ss.head?, s.continuesWord = false) :
    ∀ c ∈ cs.head?, continuesWord c = false := by
  intro c hc
  cases h with
  | nil => cases hc
  | plain _ _ =>
    cases hc
    exact hss _ rfl
  | literal text _ _ =>
    cases hc
    decide

/-- A settled text does not start with a mark. -/
theorem head?_ne_of_settled (h : Cuts cs ss) (hs : Settled ss) {c : Char}
    (hc : RawText.isMark c = true) : cs.head? ≠ some c := by
  intro hhead
  cases h with
  | nil => cases hhead
  | plain _ _ =>
    cases hhead
    rw [hs.isMark_of_mem_head? rfl] at hc
    cases hc
  | literal text _ _ =>
    cases hhead
    cases hc

end Cuts

namespace RawText

variable {cs : List Char} {ss : List Segment} {ts : List Token}

/-- The tokens of a settled text are in normal form. -/
theorem exists_lexes_of_settled (hs : Settled ss) (hcuts : Cuts cs ss) :
    ∃ ts, Lexes words cs ts ∧ ∀ t ∈ ts, words.IsNormal t := by
  induction hs generalizing cs with
  | nil =>
    obtain rfl := hcuts.eq_nil_iff.2 rfl
    exact ⟨[], .nil, nofun⟩
  | literal text _ ih =>
    cases hcuts with
    | literal _ hrest htail =>
      obtain ⟨ts, hlexes, hnormal⟩ := ih htail
      exact ⟨_, .literal text hrest hlexes, List.forall_mem_cons.2 ⟨⟨nofun, rfl⟩, hnormal⟩⟩
  | word hc hcs hword hss _ ih =>
    obtain ⟨rest, rfl, htail⟩ := hcuts.exists_of_plains
    obtain ⟨ts, hlexes, hnormal⟩ := ih htail
    exact ⟨_, .word (.mk hc hcs) (htail.head?_continuesWord hss) hlexes,
      List.forall_mem_cons.2 ⟨⟨nofun, congrArg Token.word hword⟩, hnormal⟩⟩
  | other hc hmark hs ih =>
    cases hcuts with
    | plain hquote htail =>
      obtain ⟨ts, hlexes, hnormal⟩ := ih htail
      have hequals := htail.head?_ne_of_settled hs (c := '=') rfl
      exact ⟨_, .other hquote hc (takesNoSymbol_of_isMark hmark hequals) hlexes,
        List.forall_mem_cons.2 ⟨⟨nofun, rfl⟩, hnormal⟩⟩

/-- A settled text is its own normal form. -/
theorem normalize_of_settled (hcuts : Cuts cs ss) (hs : Settled ss) : normalize cs = cs := by
  obtain ⟨ts, hlexes, hnormal⟩ := exists_lexes_of_settled hs hcuts
  exact normalize_of_isNormal hlexes hnormal

/-! ## Normal forms are settled -/

/-- What follows a word is no character of it, among the segments as well. -/
theorem head?_continuesWord_of_cuts (hcuts : Cuts cs ss)
    (h : ∀ c ∈ cs.head?, continuesWord c = false) : ∀ s ∈ ss.head?, s.continuesWord = false := by
  intro s hs
  cases s with
  | literal text => rfl
  | plain c => exact h c (hcuts.mem_head? hs)

/-- A text whose tokens are in normal form is settled. -/
theorem settled_of_lexes (h : Lexes words cs ts) (hnormal : ∀ t ∈ ts, words.IsNormal t)
    (hcuts : Cuts cs ss) : Settled ss := by
  induction h generalizing ss with
  | nil =>
    obtain rfl := hcuts.eq_nil_iff.1 rfl
    exact .nil
  | literal text hrest _ ih =>
    obtain ⟨us, rfl, hus⟩ := hcuts.exists_of_literal hrest
    exact .literal text (ih (fun t ht => hnormal t (List.mem_cons_of_mem _ ht)) hus)
  | openLiteral text => exact absurd hcuts Cuts.not_openLiteral
  | @operator _ _ op _ _ _ _ => exact absurd rfl ((hnormal _ List.mem_cons_self).1 op)
  | word hw hrest _ ih =>
    have hword := Token.word.inj (hnormal _ List.mem_cons_self).2
    obtain ⟨us, rfl, hus⟩ := hcuts.exists_of_plains_append (words.isPlainWord hw).1
    cases hw with
    | mk hc hcs =>
      exact .word hc hcs hword (head?_continuesWord_of_cuts hus hrest)
        (ih (fun t ht => hnormal t (List.mem_cons_of_mem _ ht)) hus)
  | other hquote hc hsymbol _ ih =>
    obtain ⟨us, rfl, hus⟩ := hcuts.exists_of_cons hquote
    exact .other hc hsymbol.isMark (ih (fun t ht => hnormal t (List.mem_cons_of_mem _ ht)) hus)

/-- The normal form of a text with closed literals is settled. -/
theorem exists_settled_normalize (h : Cuts cs ss) :
    ∃ ts, Cuts (normalize cs) ts ∧ Settled ts := by
  obtain ⟨ts, hts, -⟩ := hasFrame_normalize h
  have hrenders := renders_normalize cs
  exact ⟨ts, hts, settled_of_lexes hrenders.lexes hrenders.isNormal hts⟩

end RawText

end SearchIndex.Filter
