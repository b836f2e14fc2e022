import Mathlib.Data.List.Basic
import SearchIndex.Filter.RawText
import SearchIndex.Proofs.Text.Parts

/-!
# Tokens of a text

`Lexes` says what the tokens of a text are: literals, symbols of operators, words and single
characters, each as long as it can be. Which characters make a word is left to a `Wording`, since a
text is cut in two ways: into words for its normal form, and into longer names for the scan for an
`or`. A wording also says what becomes of a word.

Every text has tokens, and it has them in just one way (`Wording.lexes_iff`).
-/

namespace SearchIndex.Text

/-- The code points of white space beyond ASCII. -/
def blankCodes : List Nat := [
  0x85, 0xA0, 0x1680, 0x2000, 0x2001, 0x2002, 0x2003, 0x2004, 0x2005, 0x2006, 0x2007, 0x2008,
  0x2009, 0x200A, 0x2028, 0x2029, 0x202F, 0x205F, 0x3000]

/-- The code points are all that white space has beyond ASCII. -/
theorem mem_blankCodes {code : Nat} (h : inRanges blankRanges code = true) : code ∈ blankCodes := by
  simp only [blankRanges, inRanges_cons, inRanges_nil, Bool.or_false, Bool.or_eq_true,
    Bool.and_eq_true, Nat.ble_eq] at h
  simp only [blankCodes, List.mem_cons, List.not_mem_nil, or_false]
  omega

/-- White space is in no word. -/
theorem isAlphanumeric_of_isBlank {c : Char} (h : isBlank c = true) : isAlphanumeric c = false := by
  have hcodes : (blankCodes.all fun code =>
      !inRanges alphabeticRanges code && !inRanges numericRanges code) = true := by
    decide +kernel
  by_cases hascii : c.toNat < 0x80
  · rw [isAlphanumeric_of_ascii hascii]
    simp only [isBlank, hascii, if_true, Bool.or_eq_true, beq_iff_eq, Bool.and_eq_true,
      Nat.ble_eq] at h
    rcases h with rfl | ⟨hlow, hhigh⟩
    · decide
    · have hcontrol : c.toNat = 9 ∨ c.toNat = 10 ∨ c.toNat = 11 ∨ c.toNat = 12 ∨ c.toNat = 13 := by
        omega
      rw [← Char.ofNat_toNat c]
      rcases hcontrol with h | h | h | h | h <;> rw [h] <;> decide
  · simp only [isBlank, hascii, if_false] at h
    have hcode := List.all_eq_true.1 hcodes _ (mem_blankCodes h)
    simpa [isAlphanumeric, isAlphabetic, isNumeric, hascii] using hcode

end SearchIndex.Text

namespace SearchIndex.Filter

/-! ## Literals -/

/-- Behind an opening quote, a scan finds the end of the literal, or there is none. -/
theorem Literal.scan_cases (cs : List Char) :
    (∃ text rest, cs = escape text ++ '\'' :: rest ∧ rest.head? ≠ some '\'' ∧
        scan cs = (escape text ++ ['\''], rest)) ∨
      ∃ text, cs = escape text ∧ scan cs = (cs, []) := by
  fun_induction scan cs with
  | case1 => exact .inr ⟨[], rfl, rfl⟩
  | case2 rest ih =>
    obtain ⟨text, left, rfl, hleft, hscan⟩ | ⟨text, rfl, hscan⟩ := ih
    · exact .inl ⟨'\'' :: text, left, rfl, hleft, by rw [hscan]; rfl⟩
    · exact .inr ⟨'\'' :: text, rfl, by rw [hscan]⟩
  | case3 rest hsingle =>
    refine .inl ⟨[], rest, rfl, fun hhead => ?_, rfl⟩
    cases rest with
    | nil => cases hhead
    | cons d rest =>
      cases hhead
      exact hsingle _ rfl rfl
  | case4 c rest _ hc ih =>
    have hescape (text : List Char) : escape (c :: text) = c :: escape text := by
      rw [escape, if_neg hc]
    obtain ⟨text, left, rfl, hleft, hscan⟩ | ⟨text, rfl, hscan⟩ := ih
    · exact .inl ⟨c :: text, left, by rw [hescape]; rfl, hleft, by rw [hscan, hescape]; rfl⟩
    · exact .inr ⟨c :: text, by rw [hescape], by rw [hscan]⟩

/-- What is escaped is scanned to its end. -/
theorem Literal.scan_escape (cs : List Char) : scan (escape cs) = (escape cs, []) := by
  induction cs with
  | nil => rfl
  | cons c cs ih =>
    by_cases hc : c = '\''
    · subst hc
      simp only [escape, if_true, scan, ih]
    · simp only [escape, hc, if_false, scan_cons hc, ih]

namespace RawText

/-! ## Symbols -/

/-- The symbols of operators. -/
def symbols : List (List Char × Comparison) := [
  (['<', '='], .le), (['>', '='], .ge), (['<', '>'], .ne), (['!', '='], .ne), (['=', '='], .eq),
  (['='], .eq), (['<'], .lt), (['>'], .gt)]

/-- The text starts with a symbol of the operator, which is the longest one that it starts with. -/
def TakesSymbol (cs : List Char) (op : Comparison) (rest : List Char) : Prop :=
  ∃ symbol, (symbol, op) ∈ symbols ∧ cs = symbol ++ rest ∧
    ∀ s ∈ symbols, s.1 <+: cs → s.1.length ≤ symbol.length

/-- The text starts with no symbol. -/
def TakesNoSymbol (cs : List Char) : Prop :=
  ∀ s ∈ symbols, ¬ s.1 <+: cs

section Symbols

variable {cs rest : List Char} {op : Comparison}

/-- A text that does not start with a character is not begun by it. -/
theorem isPrefixOf_singleton_eq_false {c : Char} (h : ∀ more, rest = c :: more → False) :
    [c].isPrefixOf rest = false := by
  rw [← Bool.not_eq_true, List.isPrefixOf_iff_prefix]
  rintro ⟨more, rfl⟩
  exact h more rfl

/-- The first symbol of the list that a text starts with is the one that is taken. -/
theorem symbol?_eq_find? (cs : List Char) : symbol? cs =
    (symbols.find? fun s => s.1.isPrefixOf cs).map fun s => (s.2, cs.drop s.1.length) := by
  unfold symbol?
  split
  case h_6 rest hdouble => simp [symbols, isPrefixOf_singleton_eq_false hdouble]
  case h_7 rest hle hne =>
    simp [symbols, isPrefixOf_singleton_eq_false hle, isPrefixOf_singleton_eq_false hne]
  case h_8 rest hge => simp [symbols, isPrefixOf_singleton_eq_false hge]
  case h_9 =>
    rw [eq_comm, Option.map_eq_none_iff, List.find?_eq_none]
    intro s hs hbegins
    obtain ⟨rest, rfl⟩ := List.isPrefixOf_iff_prefix.1 hbegins
    simp only [symbols, List.mem_cons, List.not_mem_nil, or_false] at hs
    rcases hs with rfl | rfl | rfl | rfl | rfl | rfl | rfl | rfl <;> simp_all
  all_goals rfl

/-- Longer symbols come first. -/
theorem pairwise_symbols : symbols.Pairwise fun s t => t.1.length ≤ s.1.length := by
  decide

/-- No symbol stands for two operators. -/
theorem eq_of_mem_symbols : ∀ s ∈ symbols, ∀ t ∈ symbols, s.1 = t.1 → s = t := by
  decide

/-- No symbol is found exactly where none is. -/
theorem symbol?_eq_none_iff : symbol? cs = none ↔ TakesNoSymbol cs := by
  simp [symbol?_eq_find?, TakesNoSymbol, List.find?_eq_none]

/-- A symbol that is found is the longest one there. -/
theorem takesSymbol_of_symbol? (h : symbol? cs = some (op, rest)) : TakesSymbol cs op rest := by
  rw [symbol?_eq_find?] at h
  obtain ⟨⟨symbol, op⟩, hfind, heq⟩ := Option.map_eq_some_iff.1 h
  cases heq
  obtain ⟨hbegins, before, after, hsymbols, hbefore⟩ := List.find?_eq_some_iff_append.1 hfind
  rw [List.isPrefixOf_iff_prefix] at hbegins
  have hsorted := pairwise_symbols
  rw [hsymbols, List.pairwise_append, List.pairwise_cons] at hsorted
  refine ⟨symbol, List.mem_of_find?_eq_some hfind, ?_, fun s hs hcs => ?_⟩
  · exact (List.prefix_iff_eq_append.1 hbegins).symm
  · rw [hsymbols, List.mem_append, List.mem_cons] at hs
    rcases hs with hs | rfl | hs
    · have hnot := hbefore s hs
      rw [Bool.not_eq_true', ← Bool.not_eq_true, List.isPrefixOf_iff_prefix] at hnot
      exact absurd hcs hnot
    · exact Nat.le_refl _
    · exact hsorted.2.1.1 s hs

/-- A symbol is found exactly where one is. -/
theorem symbol?_eq_some_iff : symbol? cs = some (op, rest) ↔ TakesSymbol cs op rest := by
  refine ⟨takesSymbol_of_symbol?, ?_⟩
  rintro ⟨symbol, hmem, rfl, hlongest⟩
  have hbegins : symbol <+: symbol ++ rest := List.prefix_append _ _
  cases hfound : symbol? (symbol ++ rest) with
  | none => exact absurd hbegins (symbol?_eq_none_iff.1 hfound _ hmem)
  | some found =>
    -- Both are the longest symbol that the text starts with.
    obtain ⟨op', rest'⟩ := found
    obtain ⟨symbol', hmem', heq, hlongest'⟩ := takesSymbol_of_symbol? hfound
    have hle := hlongest _ hmem' ⟨rest', heq.symm⟩
    have hge := hlongest' _ hmem hbegins
    obtain ⟨rfl, rfl⟩ := List.append_inj heq (Nat.le_antisymm hge hle)
    cases eq_of_mem_symbols _ hmem _ hmem' rfl
    rfl

/-- All symbols but one start with a mark of their own. -/
theorem takesNoSymbol_cons_iff {c : Char} : TakesNoSymbol (c :: rest) ↔
    c ≠ '<' ∧ c ≠ '>' ∧ c ≠ '=' ∧ (c = '!' → rest.head? ≠ some '=') := by
  simp only [TakesNoSymbol, symbols, List.forall_mem_cons, List.cons_prefix_cons]
  cases rest with
  | nil => simp; grind
  | cons d rest => simp; grind

/-- A character of a symbol. -/
def inSymbol (c : Char) : Bool :=
  c == '<' || c == '>' || c == '=' || c == '!'

/-- A symbol is not empty and made of its own characters. -/
theorem TakesSymbol.exists_symbol (h : TakesSymbol cs op rest) :
    ∃ symbol, cs = symbol ++ rest ∧ symbol ≠ [] ∧ ∀ c ∈ symbol, inSymbol c = true := by
  obtain ⟨symbol, hmem, rfl, -⟩ := h
  have hall : ∀ s ∈ symbols, s.1 ≠ [] ∧ s.1.all inSymbol = true := by decide
  exact ⟨symbol, rfl, (hall _ hmem).1, List.all_eq_true.1 (hall _ hmem).2⟩

/-- Less is left behind a symbol. -/
theorem TakesSymbol.length_lt (h : TakesSymbol cs op rest) : rest.length < cs.length := by
  obtain ⟨symbol, rfl, hne, -⟩ := h.exists_symbol
  have hpos := List.length_pos_iff.2 hne
  rw [List.length_append]
  omega

/-- No symbol starts with another character. -/
theorem takesNoSymbol_of_not_inSymbol {c : Char} (h : inSymbol c = false) (rest : List Char) :
    TakesNoSymbol (c :: rest) := by
  simp only [inSymbol, Bool.or_eq_false_iff, beq_eq_false_iff_ne] at h
  exact takesNoSymbol_cons_iff.2 ⟨h.1.1.1, h.1.1.2, h.1.2, fun hc => absurd hc h.2⟩

end Symbols

/-! ## Wordings -/

/-- A character that no word has: white space or a mark of the grammar. -/
def separates (c : Char) : Bool :=
  Text.isBlank c || c == '\'' || c == '(' || c == ')' || inSymbol c

/-- The text starts with one character and goes on with others, as words do. -/
inductive IsWord (starts continues : Char → Bool) : List Char → Prop
  | mk {c : Char} {cs : List Char} (hc : starts c = true) (hcs : ∀ d ∈ cs, continues d = true) :
      IsWord starts continues (c :: cs)

/-- A word starts with a character that starts words. -/
theorem IsWord.exists_cons {starts continues : Char → Bool} {w : List Char}
    (h : IsWord starts continues w) : ∃ c cs, w = c :: cs ∧ starts c = true := by
  cases h with
  | mk hc hcs => exact ⟨_, _, rfl, hc⟩

/-- Which characters words are made of, and what becomes of a word in normal form. -/
structure Wording where
  starts : Char → Bool
  continues : Char → Bool
  normal : List Char → List Char
  continues_of_starts : ∀ c, starts c = true → continues c = true
  not_continues : ∀ c, separates c = true → continues c = false
  isWord_normal : ∀ w, IsWord starts continues w → IsWord starts continues (normal w)
  normal_normal : ∀ w, IsWord starts continues w → normal (normal w) = normal w
  /-- The grammar's words for comparisons are words in normal form. -/
  isWord_comparison : ∀ op : Comparison, IsWord starts continues op.word.toList
  normal_comparison : ∀ op : Comparison, normal op.word.toList = op.word.toList

namespace Wording

variable (W : Wording)

/-- The first token of a text that starts with `c`, and what follows it. -/
def firstToken (c : Char) (rest : List Char) : Token × List Char :=
  if c = '\'' then (.literal (c :: (Literal.scan rest).1), (Literal.scan rest).2)
  else
    match symbol? (c :: rest) with
    | some (op, after) => (.operator op, after)
    | none =>
      if W.starts c then
        (.word (c :: rest.takeWhile W.continues), rest.dropWhile W.continues)
      else (.other c, rest)

/-- The tokens of a text. Every token takes a character, so the length bounds their number. -/
def tokensWithin : (fuel : Nat) → List Char → List Token
  | 0, _ => []
  | _ + 1, [] => []
  | fuel + 1, c :: rest => (W.firstToken c rest).1 :: tokensWithin fuel (W.firstToken c rest).2

/-- The tokens of a text. -/
def tokens (cs : List Char) : List Token :=
  W.tokensWithin cs.length cs

end Wording

/-! ## What the tokens of a text are -/

/-- The text is cut into the tokens, each of which is as long as it can be. -/
inductive Lexes (W : Wording) : List Char → List Token → Prop
  | nil : Lexes W [] []
  | literal (text : List Char) {rest : List Char} {ts : List Token}
      (hrest : rest.head? ≠ some '\'') (h : Lexes W rest ts) :
      Lexes W (Literal.quote text ++ rest) (.literal (Literal.quote text) :: ts)
  /-- A literal without a closing quote goes on to the end of the text. -/
  | openLiteral (text : List Char) :
      Lexes W ('\'' :: Literal.escape text) [.literal ('\'' :: Literal.escape text)]
  | operator {cs rest : List Char} {op : Comparison} {ts : List Token}
      (hsymbol : TakesSymbol cs op rest) (h : Lexes W rest ts) : Lexes W cs (.operator op :: ts)
  | word {w rest : List Char} {ts : List Token} (hw : IsWord W.starts W.continues w)
      (hrest : ∀ d ∈ rest.head?, W.continues d = false) (h : Lexes W rest ts) :
      Lexes W (w ++ rest) (.word w :: ts)
  | other {c : Char} {rest : List Char} {ts : List Token} (hquote : c ≠ '\'')
      (hc : W.starts c = false) (hsymbol : TakesNoSymbol (c :: rest)) (h : Lexes W rest ts) :
      Lexes W (c :: rest) (.other c :: ts)

namespace Wording

variable {W : Wording} {c : Char} {cs rest : List Char} {ts : List Token}

/-! ### Characters of words -/

/-- What separates tokens starts no word. -/
theorem not_starts (h : separates c = true) : W.starts c = false := by
  rw [← Bool.not_eq_true]
  intro hc
  have hcontinues := W.continues_of_starts c hc
  rw [W.not_continues c h] at hcontinues
  cases hcontinues

/-- What continues a word does not separate tokens. -/
theorem not_separates (h : W.continues c = true) : separates c = false := by
  rw [← Bool.not_eq_true]
  intro hc
  rw [W.not_continues c hc] at h
  cases h

/-- No quote continues a word. -/
theorem ne_quote (h : W.continues c = true) : c ≠ '\'' := by
  rintro rfl
  rw [W.not_continues _ (by decide)] at h
  cases h

theorem takesNoSymbol (h : W.continues c = true) (rest : List Char) : TakesNoSymbol (c :: rest) := by
  have hc := W.not_separates h
  rw [separates, Bool.or_eq_false_iff] at hc
  exact takesNoSymbol_of_not_inSymbol hc.2 rest

/-- All characters of a word may stand inside one. -/
theorem continues_of_isWord (h : IsWord W.starts W.continues cs) :
    ∀ d ∈ cs, W.continues d = true := by
  cases h with
  | mk hc hcs => exact List.forall_mem_cons.2 ⟨W.continues_of_starts _ hc, hcs⟩

/-! ### First tokens -/

/-- A quoted text comes first, if no other quote follows. -/
theorem firstToken_quote (text : List Char) (hrest : rest.head? ≠ some '\'') :
    W.firstToken '\'' (Literal.escape text ++ '\'' :: rest) =
      (.literal (Literal.quote text), rest) := by
  rw [firstToken, if_pos rfl, Literal.scan_escape_append text rest hrest]
  rfl

/-- A symbol comes first. -/
theorem firstToken_operator {op : Comparison} (h : TakesSymbol (c :: cs) op rest) :
    W.firstToken c cs = (.operator op, rest) := by
  obtain ⟨symbol, heq, hne, hmarks⟩ := h.exists_symbol
  have hquote : c ≠ '\'' := by
    rintro rfl
    obtain ⟨d, symbol, rfl⟩ := List.exists_cons_of_ne_nil hne
    cases heq
    exact absurd (hmarks _ List.mem_cons_self) (by decide)
  rw [firstToken, if_neg hquote, symbol?_eq_some_iff.2 h]

/-- A word comes first, if what follows does not continue it. -/
theorem firstToken_word (hc : W.starts c = true) (hcs : ∀ d ∈ cs, W.continues d = true)
    (hrest : ∀ d ∈ rest.head?, W.continues d = false) :
    W.firstToken c (cs ++ rest) = (.word (c :: cs), rest) := by
  have hcontinues := W.continues_of_starts c hc
  rw [firstToken, if_neg (ne_quote hcontinues),
    symbol?_eq_none_iff.2 (takesNoSymbol hcontinues _)]
  simp only [hc, if_true, Text.takeWhile_run hcs hrest, Text.dropWhile_run hcs hrest]

/-- Any other character is a token by itself. -/
theorem firstToken_other (hquote : c ≠ '\'') (hc : W.starts c = false)
    (hsymbol : TakesNoSymbol (c :: rest)) : W.firstToken c rest = (.other c, rest) := by
  rw [firstToken, if_neg hquote, symbol?_eq_none_iff.2 hsymbol]
  simp only [hc, Bool.false_eq_true, if_false]

/-- The first token is one of a text, if what follows has its tokens. -/
theorem lexes_cons (c : Char) (rest : List Char)
    (h : Lexes W (W.firstToken c rest).2 (W.tokens (W.firstToken c rest).2)) :
    Lexes W (c :: rest) ((W.firstToken c rest).1 :: W.tokens (W.firstToken c rest).2) := by
  by_cases hquote : c = '\''
  · subst hquote
    obtain ⟨text, left, rfl, hleft, -⟩ | ⟨text, rfl, hscan⟩ := Literal.scan_cases rest
    · rw [firstToken_quote text hleft] at h ⊢
      have hlexes := Lexes.literal text hleft h
      rw [Literal.quote] at hlexes ⊢
      simpa using hlexes
    · rw [firstToken, if_pos rfl, hscan]
      exact .openLiteral text
  · -- The cases are in the order in which a token is tried: a symbol comes before a word.
    cases hsymbol : symbol? (c :: rest) with
    | some found =>
      obtain ⟨op, left⟩ := found
      rw [symbol?_eq_some_iff] at hsymbol
      rw [firstToken_operator hsymbol] at h ⊢
      exact .operator hsymbol h
    | none =>
      cases hc : W.starts c with
      | false =>
        rw [symbol?_eq_none_iff] at hsymbol
        rw [firstToken_other hquote hc hsymbol] at h ⊢
        exact .other hquote hc hsymbol h
      | true =>
        have hrun : ∀ d ∈ rest.takeWhile W.continues, W.continues d = true :=
          List.all_eq_true.1 List.all_takeWhile
        have hstop := Text.head?_dropWhile W.continues rest
        have hfirst := firstToken_word hc hrun hstop
        rw [List.takeWhile_append_dropWhile] at hfirst
        rw [hfirst] at h ⊢
        have hlexes := Lexes.word (.mk hc hrun) hstop h
        rwa [List.cons_append, List.takeWhile_append_dropWhile] at hlexes

/-- What is left behind a token is no longer than what is left behind its first character. -/
theorem length_firstToken_snd_le (c : Char) (rest : List Char) :
    (W.firstToken c rest).2.length ≤ rest.length := by
  unfold firstToken
  split
  · exact Literal.length_scan_snd_le rest
  · cases hsymbol : symbol? (c :: rest) with
    | some found => exact Nat.le_of_lt_succ (takesSymbol_of_symbol? hsymbol).length_lt
    | none =>
      dsimp only
      split
      · exact (List.dropWhile_sublist W.continues).length_le
      · exact Nat.le_refl _

/-- Fuel does not matter if there is enough of it. -/
theorem tokensWithin_eq_tokensWithin {m n : Nat} (hm : cs.length ≤ m) (hn : cs.length ≤ n) :
    W.tokensWithin m cs = W.tokensWithin n cs := by
  induction m generalizing n cs with
  | zero =>
    obtain rfl := List.length_eq_zero_iff.1 (Nat.le_zero.1 hm)
    cases n <;> rfl
  | succ m ih =>
    cases cs with
    | nil => cases n <;> rfl
    | cons c rest =>
      obtain ⟨n, rfl⟩ := Nat.exists_eq_add_one_of_ne_zero (Nat.ne_of_gt (Nat.lt_of_lt_of_le
        (Nat.succ_pos _) hn))
      have hle := W.length_firstToken_snd_le c rest
      rw [List.length_cons] at hm hn
      rw [tokensWithin, tokensWithin, ih (n := n) (by omega) (by omega)]

/-- The tokens of a text are the first one and those of the rest. -/
theorem tokens_cons (c : Char) (rest : List Char) :
    W.tokens (c :: rest) = (W.firstToken c rest).1 :: W.tokens (W.firstToken c rest).2 := by
  rw [tokens, List.length_cons, tokensWithin, tokens]
  rw [tokensWithin_eq_tokensWithin (W.length_firstToken_snd_le c rest) (Nat.le_refl _)]

/-! ### All tokens -/

/-- A text has its tokens. -/
theorem lexes_tokens (cs : List Char) : Lexes W cs (W.tokens cs) := by
  induction hn : cs.length using Nat.strongRecOn generalizing cs with
  | _ n ih =>
    cases cs with
    | nil => exact .nil
    | cons c rest =>
      have hle := W.length_firstToken_snd_le c rest
      rw [List.length_cons] at hn
      rw [tokens_cons]
      exact lexes_cons c rest (ih _ (by omega) _ rfl)

/-- A text has no other tokens than the ones it is cut into. -/
theorem tokens_of_lexes (h : Lexes W cs ts) : W.tokens cs = ts := by
  induction h with
  | nil => rfl
  | literal text hrest _ ih =>
    rw [Literal.quote, List.append_assoc, List.cons_append, List.singleton_append, tokens_cons,
      firstToken_quote text hrest, ih]
    rfl
  | openLiteral text =>
    rw [tokens_cons, firstToken, if_pos rfl, Literal.scan_escape]
    rfl
  | @operator cs rest op ts hsymbol _ ih =>
    obtain ⟨c, cs, rfl⟩ : ∃ c more, cs = c :: more :=
      List.exists_cons_of_length_pos (Nat.lt_of_le_of_lt (Nat.zero_le _) hsymbol.length_lt)
    rw [tokens_cons, firstToken_operator hsymbol, ih]
  | word hw hrest _ ih =>
    cases hw with
    | mk hc hcs => rw [List.cons_append, tokens_cons, firstToken_word hc hcs hrest, ih]
  | other hquote hc hsymbol _ ih => rw [tokens_cons, firstToken_other hquote hc hsymbol, ih]

/-- Its words are words. -/
theorem isWord_of_mem (h : Lexes W cs ts) {w : List Char} (hw : .word w ∈ ts) :
    IsWord W.starts W.continues w := by
  induction h with
  | nil => cases hw
  | literal _ _ _ ih => exact ih (by simpa using hw)
  | openLiteral text => simp at hw
  | operator _ _ ih => exact ih (by simpa using hw)
  | word hword _ _ ih =>
    rcases List.mem_cons.1 hw with heq | hmem
    · obtain rfl := Token.word.inj heq
      exact hword
    · exact ih hmem
  | other _ _ _ _ ih => exact ih (by simpa using hw)

/-- A text has its tokens and no others. -/
theorem lexes_iff : Lexes W cs ts ↔ W.tokens cs = ts :=
  ⟨tokens_of_lexes, fun h => h ▸ lexes_tokens cs⟩

end Wording

end RawText
end SearchIndex.Filter
