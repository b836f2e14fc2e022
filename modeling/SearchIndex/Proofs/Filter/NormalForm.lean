import SearchIndex.Proofs.Filter.Tokens
import SearchIndex.Proofs.Text.Case

/-!
# The normal form of a text

Written in normal form, a text has the same tokens again, each in its normal form, with nothing but
white space between them (`Wording.renders_write`). The proof goes through the tokens one by one
(`Lexes.exists_writes`), and keeps track of what may touch what: a word must not run into the word
before it, nor a literal into the one before.

So normal forms have no symbols of operators, and are their own normal forms (`tokens_normalize`).
-/

namespace SearchIndex.Filter.RawText

/-! ## Writing tokens -/

/-- A token of white space. -/
def Token.isBlank : Token → Bool
  | .other c => Text.isBlank c
  | _ => false

/-- The tokens other than white space. -/
def significant (ts : List Token) : List Token :=
  ts.filter fun t => !t.isBlank

/-- Nothing that is kept is white space. -/
theorem filter_significant {p : Token → Bool} (hp : ∀ t, p t = true → t.isBlank = false)
    (ts : List Token) : (significant ts).filter p = ts.filter p := by
  rw [significant, List.filter_filter]
  refine List.filter_congr fun t _ => ?_
  cases h : p t with
  | true => rw [hp t h, Bool.not_false, Bool.and_true]
  | false => rw [Bool.false_and]

/-- The token is a literal or a parenthesis. -/
def Token.isFrame : Token → Bool
  | .literal _ => true
  | .other c => c == '(' || c == ')'
  | _ => false

/-- White space is no literal and no parenthesis. -/
theorem isBlank_of_isFrame {t : Token} (h : t.isFrame = true) : t.isBlank = false := by
  cases t with
  | other c =>
    simp only [Token.isFrame, Bool.or_eq_true, beq_iff_eq] at h
    rcases h with rfl | rfl <;> rfl
  | _ => rfl

namespace Wording

variable (W : Wording)

/-- The characters of a token in normal form, apart from the spaces around operators. -/
def render : Token → List Char
  | .word w => W.normal w
  | t => t.render

/-- Writes tokens behind a last character. -/
def write : (last : Option Char) → List Token → List Char
  | _, [] => []
  | last, t :: rest =>
    let text :=
      match t with
      | .operator _ => spaceBefore last ++ W.render t ++ spaceAfter rest
      | _ => W.render t
    text ++ write (text.getLast?.or last) rest

/-- A token in normal form: an operator is the grammar's word for it. -/
def normalToken : Token → Token
  | .operator op => .word op.word.toList
  | .word w => .word (W.normal w)
  | t => t

/-- The token is no operator, and not a word that has another normal form. -/
def IsNormal (t : Token) : Prop :=
  (∀ op, t ≠ .operator op) ∧ W.normalToken t = t

variable {W} {last : Option Char} {c : Char} {cs rest : List Char} {ts us : List Token}

theorem write_literal (last : Option Char) (text : List Char) (ts : List Token) :
    W.write last (.literal text :: ts) = text ++ W.write (text.getLast?.or last) ts := rfl

theorem write_word (last : Option Char) (w : List Char) (ts : List Token) :
    W.write last (.word w :: ts) = W.normal w ++ W.write ((W.normal w).getLast?.or last) ts := rfl

theorem write_other (last : Option Char) (c : Char) (ts : List Token) :
    W.write last (.other c :: ts) = c :: W.write (some c) ts := rfl

/-- An operator is written as its word, with a space on a side where one is needed. -/
theorem write_operator (last : Option Char) (op : Comparison) (ts : List Token) :
    W.write last (.operator op :: ts) = spaceBefore last ++ op.word.toList ++ spaceAfter ts ++
      W.write ((spaceBefore last ++ op.word.toList ++ spaceAfter ts).getLast?.or last) ts := rfl

/-- Tokens in normal form are written as they stand in their text. -/
theorem write_of_isNormal (h : Lexes W cs ts) (hnormal : ∀ t ∈ ts, W.IsNormal t)
    (last : Option Char) : W.write last ts = cs := by
  induction h generalizing last with
  | nil => rfl
  | literal text _ _ ih =>
    rw [write_literal, ih fun t ht => hnormal t (List.mem_cons_of_mem _ ht)]
  | openLiteral text => exact List.append_nil _
  | @operator _ _ op _ _ _ _ => exact absurd rfl ((hnormal _ List.mem_cons_self).1 op)
  | word _ _ _ ih =>
    have hw := Token.word.inj (hnormal _ List.mem_cons_self).2
    rw [write_word, hw, ih fun t ht => hnormal t (List.mem_cons_of_mem _ ht)]
  | other _ _ _ _ ih =>
    rw [write_other, ih fun t ht => hnormal t (List.mem_cons_of_mem _ ht)]

/-! ### Spaces -/

/-- There is at most one space before an operator. -/
theorem spaceBefore_eq (last : Option Char) : spaceBefore last = [] ∨ spaceBefore last = [' '] := by
  unfold spaceBefore
  split
  · exact .inl rfl
  · split
    · exact .inl rfl
    · exact .inr rfl

/-- An operator behind a word gets a space. -/
theorem spaceBefore_of_continues (h : W.continues c = true) : spaceBefore (some c) = [' '] := by
  have hc := W.not_separates h
  simp only [separates, Bool.or_eq_false_iff] at hc
  rw [spaceBefore, if_neg]
  rw [Bool.not_eq_true, Bool.or_eq_false_iff]
  exact ⟨hc.1.1.1.1, hc.1.1.2⟩

/-- An operator gets a space behind it, unless what follows stands apart from words. -/
theorem spaceAfter_eq (h : Lexes W cs ts) : spaceAfter ts = [' '] ∨
    spaceAfter ts = [] ∧ ∀ c ∈ cs.head?, W.continues c = false := by
  cases h with
  | nil => exact .inr ⟨rfl, nofun⟩
  | literal text _ _ => exact .inl rfl
  | openLiteral text => exact .inl rfl
  | operator _ _ => exact .inl rfl
  | word _ _ _ => exact .inl rfl
  | @other c rest ts _ _ _ _ =>
    rw [spaceAfter]
    split
    · next hc =>
      refine .inr ⟨rfl, ?_⟩
      rintro _ ⟨⟩
      refine W.not_continues c ?_
      rcases Bool.or_eq_true_iff.1 hc with hblank | hclose
      · simp [separates, hblank]
      · simp [separates, beq_iff_eq.1 hclose]
    · exact .inl rfl

end Wording

/-! ### What is written -/

open Wording (write_literal write_word write_other write_operator)

/-- The text has the given tokens in normal form, with more white space between them. -/
structure Renders (W : Wording) (out : List Char) (ts us : List Token) : Prop where
  lexes : Lexes W out us
  significant_eq : significant us = (significant ts).map W.normalToken
  isNormal : ∀ t ∈ us, W.IsNormal t

/-- What is written for the tokens of a text behind a last character: its tokens are those of the text
in normal form, and its beginning joins to what stands before no closer than the beginning of the
text does. -/
structure Writes (W : Wording) (last : Option Char) (cs : List Char) (ts us : List Token) : Prop
    extends Renders W (W.write last ts) ts us where
  quote : cs.head? ≠ some '\'' → (W.write last ts).head? ≠ some '\''
  seam : ∀ c ∈ last, W.continues c = true → (∀ d ∈ cs.head?, W.continues d = false) →
    ∀ d ∈ (W.write last ts).head?, W.continues d = false

section Steps

variable {W : Wording} {last : Option Char} {c : Char} {cs rest out : List Char}
  {ts us : List Token}

/-- A text whose tokens are in normal form does not start with the symbol of an operator. -/
theorem Lexes.head?_ne (h : Lexes W cs us) (hnormal : ∀ t ∈ us, W.IsNormal t) :
    cs.head? ≠ some '=' := by
  cases h with
  | nil => nofun
  | literal text _ _ => nofun
  | openLiteral text => nofun
  | @operator _ _ op _ _ _ => exact absurd rfl ((hnormal _ List.mem_cons_self).1 op)
  | word hw _ _ =>
    cases hw with
    | mk hc _ =>
      rintro ⟨⟩
      rw [W.not_starts (by decide)] at hc
      cases hc
  | other _ _ hsymbol _ =>
    rintro ⟨⟩
    exact (takesNoSymbol_cons_iff.1 hsymbol).2.2.1 rfl

/-- A literal in front of a text that renders its tokens. -/
theorem Renders.literal (text : List Char) (hout : out.head? ≠ some '\'')
    (h : Renders W out ts us) :
    Renders W (Literal.quote text ++ out) (.literal (Literal.quote text) :: ts)
      (.literal (Literal.quote text) :: us) where
  lexes := .literal text hout h.lexes
  significant_eq := congrArg (Token.literal (Literal.quote text) :: ·) h.significant_eq
  isNormal := List.forall_mem_cons.2 ⟨⟨nofun, rfl⟩, h.isNormal⟩

/-- A word in normal form in front of such a text, if the text does not go on with it. -/
theorem Renders.word {w : List Char} (hw : IsWord W.starts W.continues w)
    (hout : ∀ d ∈ out.head?, W.continues d = false) (h : Renders W out ts us) :
    Renders W (W.normal w ++ out) (.word w :: ts) (.word (W.normal w) :: us) where
  lexes := .word (W.isWord_normal w hw) hout h.lexes
  significant_eq := congrArg (Token.word (W.normal w) :: ·) h.significant_eq
  isNormal := List.forall_mem_cons.2
    ⟨⟨nofun, congrArg Token.word (W.normal_normal w hw)⟩, h.isNormal⟩

/-- The word of an operator in front of such a text, if the text does not go on with it. -/
theorem Renders.operator (op : Comparison) (hout : ∀ d ∈ out.head?, W.continues d = false)
    (h : Renders W out ts us) :
    Renders W (op.word.toList ++ out) (.operator op :: ts) (.word op.word.toList :: us) where
  lexes := .word (W.isWord_comparison op) hout h.lexes
  significant_eq := congrArg (Token.word op.word.toList :: ·) h.significant_eq
  isNormal := List.forall_mem_cons.2
    ⟨⟨nofun, congrArg Token.word (W.normal_comparison op)⟩, h.isNormal⟩

/-- Any other character in front of such a text. -/
theorem Renders.other (hquote : c ≠ '\'') (hc : W.starts c = false)
    (hsymbol : TakesNoSymbol (c :: rest)) (h : Renders W out ts us) :
    Renders W (c :: out) (.other c :: ts) (.other c :: us) where
  lexes := by
    obtain ⟨hless, hgreater, hequals, -⟩ := takesNoSymbol_cons_iff.1 hsymbol
    have hhead := h.lexes.head?_ne h.isNormal
    exact .other hquote hc
      (takesNoSymbol_cons_iff.2 ⟨hless, hgreater, hequals, fun _ => hhead⟩) h.lexes
  significant_eq := by
    have hrest := h.significant_eq
    simp only [significant] at hrest ⊢
    rw [List.filter_cons, List.filter_cons, hrest]
    split <;> rfl
  isNormal := List.forall_mem_cons.2 ⟨⟨nofun, rfl⟩, h.isNormal⟩

/-- A space may stand anywhere. -/
theorem Renders.space (h : Renders W out ts us) :
    Renders W (' ' :: out) ts (.other ' ' :: us) where
  lexes := .other (by decide) (W.not_starts (by decide))
    (takesNoSymbol_of_not_inSymbol (by decide) out) h.lexes
  significant_eq := h.significant_eq
  isNormal := List.forall_mem_cons.2 ⟨⟨nofun, rfl⟩, h.isNormal⟩

/-! ### One token -/

/-- A literal is written in front of what is written for the rest. -/
theorem writes_literal (text : List Char) (hrest : rest.head? ≠ some '\'')
    (h : Writes W ((Literal.quote text).getLast?.or last) rest ts us) :
    Writes W last (Literal.quote text ++ rest) (.literal (Literal.quote text) :: ts)
      (.literal (Literal.quote text) :: us) where
  toRenders := h.toRenders.literal text (h.quote hrest)
  quote hquote := absurd rfl hquote
  seam _ _ _ _ := by
    rintro _ ⟨⟩
    exact W.not_continues _ (by decide)

/-- A literal that is not closed is written to the end of the text. -/
theorem writes_openLiteral (last : Option Char) (text : List Char) :
    Writes W last ('\'' :: Literal.escape text) [.literal ('\'' :: Literal.escape text)]
      [.literal ('\'' :: Literal.escape text)] where
  lexes := by
    rw [write_literal, Wording.write, List.append_nil]
    exact .openLiteral text
  significant_eq := rfl
  isNormal := List.forall_mem_cons.2 ⟨⟨nofun, rfl⟩, nofun⟩
  quote hquote := absurd rfl hquote
  seam _ _ _ _ := by
    rintro _ ⟨⟩
    exact W.not_continues _ (by decide)

/-- The last character of a word, whatever stands before the word. -/
theorem exists_getLast?_of_isWord {w : List Char} (hw : IsWord W.starts W.continues w)
    (before : List Char) (last : Option Char) :
    ∃ e ∈ (before ++ w).getLast?.or last, W.continues e = true := by
  have hall := W.continues_of_isWord hw
  obtain ⟨d, ds, rfl, -⟩ := hw.exists_cons
  rw [List.getLast?_append, List.getLast?_eq_some_getLast (List.cons_ne_nil d ds)]
  exact ⟨_, rfl, hall _ (List.getLast_mem _)⟩

/-- A word is written in normal form in front of what is written for the rest. -/
theorem writes_word {w : List Char} (hw : IsWord W.starts W.continues w)
    (hrest : ∀ d ∈ rest.head?, W.continues d = false)
    (h : Writes W ((W.normal w).getLast?.or last) rest ts us) :
    Writes W last (w ++ rest) (.word w :: ts) (.word (W.normal w) :: us) := by
  have hnormal := W.isWord_normal w hw
  obtain ⟨e, he, hlast⟩ := exists_getLast?_of_isWord hnormal [] last
  refine ⟨h.toRenders.word hw (h.seam e he hlast hrest), fun _ => ?_, fun _ _ _ hhead => ?_⟩
  · obtain ⟨d, ds, heq, hd⟩ := hnormal.exists_cons
    rw [write_word, heq]
    rintro ⟨⟩
    exact W.ne_quote (W.continues_of_starts _ hd) rfl
  · -- The text starts with a word, so it does not stand apart from what is before.
    obtain ⟨d, ds, rfl, hd⟩ := hw.exists_cons
    have hfalse := hhead d rfl
    rw [W.continues_of_starts d hd] at hfalse
    cases hfalse

/-- Any other character is written in front of what is written for the rest. -/
theorem writes_other (hquote : c ≠ '\'') (hc : W.starts c = false)
    (hsymbol : TakesNoSymbol (c :: rest)) (h : Writes W (some c) rest ts us) :
    Writes W last (c :: rest) (.other c :: ts) (.other c :: us) where
  toRenders := h.toRenders.other hquote hc hsymbol
  quote hhead := hhead
  seam _ _ _ hhead := by
    rintro _ ⟨⟩
    exact hhead c rfl

/-- Behind the word of an operator, what is written starts with a space, or with something that
continues no word. -/
theorem exists_renders_spaceAfter (op : Comparison) (hrest : Lexes W rest ts)
    (h : Writes W ((spaceBefore last ++ op.word.toList ++ spaceAfter ts).getLast?.or last)
      rest ts us)
    (hout : out = W.write ((spaceBefore last ++ op.word.toList ++ spaceAfter ts).getLast?.or last)
      ts) :
    ∃ vs, Renders W (spaceAfter ts ++ out) ts vs ∧
      ∀ d ∈ (spaceAfter ts ++ out).head?, W.continues d = false := by
  have hrenders : Renders W out ts us := hout ▸ h.toRenders
  obtain hafter | ⟨hafter, hhead⟩ := Wording.spaceAfter_eq hrest
  · rw [hafter]
    refine ⟨_, hrenders.space, ?_⟩
    rintro _ ⟨⟩
    exact W.not_continues _ (by decide)
  · obtain ⟨e, he, hlast⟩ := exists_getLast?_of_isWord (W.isWord_comparison op) (spaceBefore last)
      last
    rw [hafter, List.append_nil] at h hout
    rw [hafter]
    exact ⟨us, hrenders, hout ▸ h.seam e he hlast hhead⟩

/-- The word of an operator stands apart on both of its sides. -/
theorem exists_writes_operator (cs : List Char) (op : Comparison) (hrest : Lexes W rest ts)
    (h : Writes W ((spaceBefore last ++ op.word.toList ++ spaceAfter ts).getLast?.or last)
      rest ts us) :
    ∃ vs, Writes W last cs (.operator op :: ts) vs := by
  obtain ⟨out, hout⟩ : ∃ out, out = W.write
    ((spaceBefore last ++ op.word.toList ++ spaceAfter ts).getLast?.or last) ts := ⟨_, rfl⟩
  have hwrite : W.write last (.operator op :: ts) =
      spaceBefore last ++ (op.word.toList ++ (spaceAfter ts ++ out)) := by
    rw [write_operator, ← hout, List.append_assoc, List.append_assoc]
  obtain ⟨vs, hvs, hstop⟩ := exists_renders_spaceAfter op hrest h hout
  have hrenders := hvs.operator op hstop
  obtain ⟨d, ds, heq, hd⟩ := (W.isWord_comparison op).exists_cons
  -- In front of it a space is missing only behind a character that continues no word.
  obtain hbefore | hbefore := Wording.spaceBefore_eq last
  · rw [hbefore, List.nil_append] at hwrite
    refine ⟨_, hwrite ▸ hrenders, fun _ => ?_, fun c hc hcontinues => ?_⟩
    · rw [hwrite, heq]
      rintro ⟨⟩
      exact W.ne_quote (W.continues_of_starts _ hd) rfl
    · rw [Option.mem_def.1 hc, Wording.spaceBefore_of_continues hcontinues] at hbefore
      cases hbefore
  · rw [hbefore, List.singleton_append] at hwrite
    refine ⟨_, hwrite ▸ hrenders.space, fun _ => ?_, fun _ _ _ _ => ?_⟩
    · rw [hwrite]
      nofun
    · rw [hwrite]
      rintro _ ⟨⟩
      exact W.not_continues _ (by decide)

end Steps

/-! ### All tokens -/

/-- Written behind any character, the tokens of a text are read as they are in normal form. -/
theorem Lexes.exists_writes {W : Wording} {cs : List Char} {ts : List Token} (h : Lexes W cs ts)
    (last : Option Char) : ∃ us, Writes W last cs ts us := by
  induction h generalizing last with
  | nil => exact ⟨[], ⟨.nil, rfl, nofun⟩, nofun, nofun⟩
  | literal text hrest _ ih =>
    obtain ⟨us, hus⟩ := ih ((Literal.quote text).getLast?.or last)
    exact ⟨_, writes_literal text hrest hus⟩
  | openLiteral text => exact ⟨_, writes_openLiteral last text⟩
  | operator _ hrest ih =>
    obtain ⟨us, hus⟩ := ih _
    exact exists_writes_operator _ _ hrest hus
  | word hw hrest _ ih =>
    obtain ⟨us, hus⟩ := ih _
    exact ⟨_, writes_word hw hrest hus⟩
  | @other c _ _ hquote hc hsymbol _ ih =>
    obtain ⟨us, hus⟩ := ih (some c)
    exact ⟨_, writes_other hquote hc hsymbol hus⟩

/-- What is written for the tokens of a whole text has those tokens, in normal form. -/
theorem Wording.renders_write (W : Wording) (cs : List Char) :
    Renders W (W.write none (W.tokens cs)) (W.tokens cs)
      (W.tokens (W.write none (W.tokens cs))) := by
  obtain ⟨us, hus⟩ := (W.lexes_tokens cs).exists_writes none
  rw [W.tokens_of_lexes hus.lexes]
  exact hus.toRenders

/-! ## The normal form -/

/-- A word of the grammar is a word in normal form. -/
theorem isWord_keyword : ∀ k ∈ keywords, normalWord k.toList = k.toList ∧
    IsWord startsWord continuesWord k.toList := by
  have hall : ∀ k ∈ keywords, normalWord k.toList = k.toList ∧
      k.toList.head?.any startsWord = true ∧ k.toList.tail.all continuesWord = true := by
    decide
  intro k hk
  obtain ⟨hnormal, hhead, htail⟩ := hall k hk
  refine ⟨hnormal, ?_⟩
  cases hcs : k.toList with
  | nil =>
    rw [hcs] at hhead
    cases hhead
  | cons c cs =>
    rw [hcs] at hhead htail
    exact .mk hhead (List.all_eq_true.1 htail)

/-- The normal form of a word is a keyword, or the word as it is. -/
theorem normalWord_eq (word : List Char) :
    (∃ k ∈ keywords, normalWord word = k.toList) ∨ normalWord word = word := by
  simp only [normalWord]
  split
  · next h => exact .inl ⟨_, by simpa using h, String.toList_ofList.symm⟩
  · exact .inr rfl

/-- What starts a word may also stand inside one. -/
theorem continuesWord_of_startsWord {c : Char} (h : startsWord c = true) :
    continuesWord c = true := by
  simp only [startsWord, Bool.or_eq_true] at h
  rw [continuesWord, Bool.or_eq_true]
  exact h.imp_left Text.isAlphanumeric_of_isAlphabetic

/-- What separates tokens is in no word. -/
theorem continuesWord_of_separates {c : Char} (h : separates c = true) :
    continuesWord c = false := by
  simp only [separates, inSymbol, Bool.or_eq_true, beq_iff_eq] at h
  rcases h with (((hblank | rfl) | rfl) | rfl) | ((rfl | rfl) | rfl) | rfl
  · rw [continuesWord, Text.isAlphanumeric_of_isBlank hblank, Bool.false_or, beq_eq_false_iff_ne]
    rintro rfl
    cases hblank
  all_goals decide

/-- The words of the comparisons are keywords. -/
theorem comparison_mem_keywords (op : Comparison) : op.word ∈ keywords := by
  cases op <;> decide

/-- The words of the normal form: a letter or an underscore, and what may follow. Keywords are put in
lower case. -/
def words : Wording where
  starts := startsWord
  continues := continuesWord
  normal := normalWord
  continues_of_starts _ := continuesWord_of_startsWord
  not_continues _ := continuesWord_of_separates
  isWord_normal w hw := by
    obtain ⟨k, hk, heq⟩ | heq := normalWord_eq w <;> rw [heq]
    · exact (isWord_keyword k hk).2
    · exact hw
  normal_normal w _ := by
    obtain ⟨k, hk, heq⟩ | heq := normalWord_eq w <;> rw [heq]
    · exact (isWord_keyword k hk).1
    · exact heq
  isWord_comparison op := (isWord_keyword _ (comparison_mem_keywords op)).2
  normal_comparison op := (isWord_keyword _ (comparison_mem_keywords op)).1

/-- The tokens of a text are those of the words of the normal form. -/
theorem tokens_eq (cs : List Char) : tokens cs = words.tokens cs := by
  have hwithin (fuel : Nat) (cs : List Char) :
      tokensWithin fuel cs = words.tokensWithin fuel cs := by
    induction fuel generalizing cs with
    | zero => rfl
    | succ fuel ih =>
      cases cs with
      | nil => rfl
      | cons c rest => exact congrArg (_ :: ·) (ih _)
  exact hwithin _ cs

/-- What is rendered is what is written with these words. -/
theorem renderFrom_eq (last : Option Char) (ts : List Token) :
    renderFrom last ts = words.write last ts := by
  induction ts generalizing last with
  | nil => rfl
  | cons t rest ih =>
    cases t with
    | literal text => exact congrArg (text ++ ·) (ih _)
    | operator op => exact congrArg (spaceBefore last ++ op.word.toList ++ spaceAfter rest ++ ·) (ih _)
    | word w => exact congrArg (normalWord w ++ ·) (ih _)
    | other c => exact congrArg (c :: ·) (ih _)

/-- The normal form of a text is what is written for its tokens. -/
theorem normalize_eq (cs : List Char) : normalize cs = words.write none (words.tokens cs) := by
  rw [normalize, tokens_eq, renderFrom_eq]

/-- The normal form of a text renders its tokens. -/
theorem renders_normalize (cs : List Char) :
    Renders words (normalize cs) (words.tokens cs) (words.tokens (normalize cs)) := by
  rw [normalize_eq]
  exact words.renders_write cs

/-- A text whose tokens are in normal form is its own normal form. -/
theorem normalize_of_isNormal {cs : List Char} {ts : List Token} (h : Lexes words cs ts)
    (hnormal : ∀ t ∈ ts, words.IsNormal t) : normalize cs = cs := by
  rw [normalize_eq, Wording.tokens_of_lexes h]
  exact Wording.write_of_isNormal h hnormal none

/-- A normal form is its own one. -/
theorem normalize_normalize (cs : List Char) : normalize (normalize cs) = normalize cs :=
  normalize_of_isNormal (renders_normalize cs).lexes (renders_normalize cs).isNormal

/-! ### Keywords in any case -/

/-- The token in the words of the grammar: the word for an operator, and a keyword in lower case,
whatever its case in Unicode. -/
def Token.normal : Token → Token
  | .operator op => .word op.word.toList
  | .word w =>
    let lower := Text.lowercase (.ofList w)
    .word (if lower ∈ keywords then lower.toList else w)
  | t => t

/-- No letter beyond ASCII is a letter of a keyword in lower case. -/
theorem isOwnCase_keyword : ∀ k ∈ keywords, k.toList.all Text.isOwnCase = true := by
  decide

/-- No letter beyond ASCII is in a keyword. -/
theorem lowercase_eq_keyword_iff {w : List Char} {k : String} (hk : k ∈ keywords) :
    Text.lowercase (.ofList w) = k ↔ String.ofList (w.map Char.toLower) = k := by
  have hcase : Text.lowercase (.ofList w) = .ofList k.toList ↔ w.map Char.toLower = k.toList :=
    Text.lowercase_eq_iff (isOwnCase_keyword k hk)
  rw [String.ofList_toList] at hcase
  rw [hcase, ← String.ofList_inj, String.ofList_toList]

/-- A word is put in lower case if that is a keyword. -/
theorem normalWord_eq_lowercase (w : List Char) : normalWord w =
    if Text.lowercase (.ofList w) ∈ keywords then (Text.lowercase (.ofList w)).toList else w := by
  simp only [normalWord, List.contains_iff_mem]
  by_cases hlower : Text.lowercase (.ofList w) ∈ keywords
  · have hsame := (lowercase_eq_keyword_iff hlower).1 rfl
    rw [if_pos hlower, if_pos (hsame ▸ hlower), ← hsame, String.toList_ofList]
  · rw [if_neg hlower, if_neg fun h => hlower ((lowercase_eq_keyword_iff h).2 rfl ▸ h)]

/-- The normal form of a token is the same either way. -/
theorem normalToken_eq (t : Token) : words.normalToken t = t.normal := by
  cases t with
  | word w => exact congrArg Token.word (normalWord_eq_lowercase w)
  | _ => rfl

/-- The normal form of a text has the tokens of the text, each in the words of the grammar, and other
white space between them. No symbol of an operator is left, and the normal form is its own one. -/
theorem tokens_normalize (cs : List Char) :
    (∀ ts, Lexes words cs ts ↔ ts = tokens cs) ∧
      significant (tokens (normalize cs)) = (significant (tokens cs)).map Token.normal ∧
      (∀ op, .operator op ∉ tokens (normalize cs)) ∧
      normalize (normalize cs) = normalize cs := by
  have hrenders := renders_normalize cs
  refine ⟨fun ts => ?_, ?_, fun op hop => ?_, normalize_normalize cs⟩
  · rw [Wording.lexes_iff, tokens_eq, eq_comm]
  · rw [tokens_eq, tokens_eq, hrenders.significant_eq]
    exact congrArg (List.map · _) (funext normalToken_eq)
  · rw [tokens_eq] at hop
    exact (hrenders.isNormal _ hop).1 op rfl

end SearchIndex.Filter.RawText
