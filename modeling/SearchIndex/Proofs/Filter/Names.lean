import Mathlib.Data.List.Flatten
import SearchIndex.Proofs.Filter.NormalForm

/-!
# Names and words

A text is put in normal form word by word, but it is scanned for an `or` name by name: a name may
start with a digit, and has dots. So the tokens of a text are those of its names, each split into
words and the characters between them (`Lexes.split`), and the normal form of a text is made of the
normal forms of its names (`renders_names`).

The two readings differ where a keyword is a proper part of a name, and nowhere else
(`names_normalize`): there the name is changed if the keyword is not in lower case, and an `or` is
taken for a keyword by the one and not by the other (`exists_divided_name`).
-/

namespace SearchIndex.Filter.RawText

variable {c : Char} {cs w rest : List Char} {ts us : List Token}

/-! ## Characters of names -/

theorem inName_eq (c : Char) : inName c = (continuesWord c || c == '.') := rfl

/-- A character of words is one of names. -/
theorem inName_of_continuesWord (h : continuesWord c = true) : inName c = true := by
  rw [inName_eq, h, Bool.true_or]

/-- A character that is in no name is in no word. -/
theorem continuesWord_of_not_inName (h : inName c = false) : continuesWord c = false := by
  rw [inName_eq, Bool.or_eq_false_iff] at h
  exact h.1

/-- What separates tokens is in no name. -/
theorem inName_of_separates (h : separates c = true) : inName c = false := by
  rw [inName_eq, continuesWord_of_separates h, Bool.false_or, beq_eq_false_iff_ne]
  rintro rfl
  cases h

/-- A character of names separates nothing. -/
theorem not_separates_of_inName (h : inName c = true) : separates c = false := by
  rw [← Bool.not_eq_true]
  intro hc
  rw [inName_of_separates hc] at h
  cases h

/-- A name is any run of characters of names that is not empty. -/
theorem isWord_inName_iff : IsWord inName inName w ↔ w ≠ [] ∧ ∀ d ∈ w, inName d = true := by
  constructor
  · rintro ⟨hc, hcs⟩
    exact ⟨List.cons_ne_nil _ _, List.forall_mem_cons.2 ⟨hc, hcs⟩⟩
  · rintro ⟨hne, hw⟩
    obtain ⟨c, cs, rfl⟩ := List.exists_cons_of_ne_nil hne
    rw [List.forall_mem_cons] at hw
    exact .mk hw.1 hw.2

/-- A word is a name. -/
theorem isWord_inName_of_isWord (h : IsWord startsWord continuesWord w) :
    IsWord inName inName w := by
  refine isWord_inName_iff.2 ⟨?_, fun d hd => ?_⟩
  · obtain ⟨d, ds, rfl, -⟩ := h.exists_cons
    exact List.cons_ne_nil d ds
  · exact inName_of_continuesWord (words.continues_of_isWord h d hd)

/-! ## Names in words -/

/-- The name is split into words and the digits and dots between them. -/
inductive Splits : List Char → List Token → Prop
  | nil : Splits [] []
  | word {w rest : List Char} {ts : List Token} (hw : IsWord startsWord continuesWord w)
      (hrest : ∀ d ∈ rest.head?, continuesWord d = false) (h : Splits rest ts) :
      Splits (w ++ rest) (.word w :: ts)
  | other {c : Char} {rest : List Char} {ts : List Token} (hc : inName c = true)
      (hstarts : startsWord c = false) (h : Splits rest ts) : Splits (c :: rest) (.other c :: ts)

/-- The tokens of a name are its words and the characters between them. -/
theorem Lexes.splits (h : Lexes words w ts) (hw : ∀ d ∈ w, inName d = true) : Splits w ts := by
  induction h with
  | nil => exact .nil
  | literal text _ _ _ => exact absurd (hw '\'' List.mem_cons_self) (by decide)
  | openLiteral text => exact absurd (hw '\'' List.mem_cons_self) (by decide)
  | operator hsymbol _ _ =>
    obtain ⟨symbol, rfl, hne, hmarks⟩ := hsymbol.exists_symbol
    obtain ⟨d, symbol, rfl⟩ := List.exists_cons_of_ne_nil hne
    have hd := not_separates_of_inName (hw d List.mem_cons_self)
    rw [separates, hmarks d List.mem_cons_self, Bool.or_true] at hd
    cases hd
  | word hword hrest _ ih =>
    rw [List.forall_mem_append] at hw
    exact .word hword hrest (ih hw.2)
  | other _ hc _ _ ih =>
    rw [List.forall_mem_cons] at hw
    exact .other hw.1 hc (ih hw.2)

theorem splits_tokens (hw : ∀ d ∈ w, inName d = true) : Splits w (tokens w) := by
  rw [tokens_eq]
  exact (words.lexes_tokens w).splits hw

/-- In front of what is in no name, a name has the tokens that it has alone. -/
theorem Splits.lexes_append (h : Splits w ts) (hrest : ∀ d ∈ rest.head?, inName d = false)
    (hlexes : Lexes words rest us) : Lexes words (w ++ rest) (ts ++ us) := by
  induction h with
  | nil => exact hlexes
  | @word v front _ hw hfront _ ih =>
    rw [List.append_assoc]
    refine .word hw (fun d hd => ?_) ih
    cases front with
    | nil => exact continuesWord_of_not_inName (hrest d hd)
    | cons e front => exact hfront d hd
  | @other c _ _ hc hstarts _ ih =>
    have hsymbol := not_separates_of_inName hc
    simp only [separates, Bool.or_eq_false_iff, beq_eq_false_iff_ne] at hsymbol
    exact .other hsymbol.1.1.1.2 hstarts (takesNoSymbol_of_not_inSymbol hsymbol.2 _) ih

/-! ### The normal form of a name -/

/-- The last character of two parts is that of the last one that is not empty. -/
theorem getLast?_append_or (front back : List Char) (last : Option Char) :
    (front ++ back).getLast?.or last = back.getLast?.or (front.getLast?.or last) := by
  rw [List.getLast?_append, Option.or_assoc]

/-- The tokens of a name are written behind each other. -/
theorem Splits.write_append (h : Splits w ts) (last : Option Char) (us : List Token) :
    words.write last (ts ++ us) =
      ts.flatMap words.render ++ words.write ((ts.flatMap words.render).getLast?.or last) us := by
  induction h generalizing last with
  | nil => rfl
  | word _ _ _ ih =>
    rw [List.cons_append, Wording.write_word, ih, List.flatMap_cons, List.append_assoc,
      getLast?_append_or]
    rfl
  | other _ _ _ ih =>
    rw [List.cons_append, Wording.write_other, ih, List.flatMap_cons, List.append_assoc,
      getLast?_append_or]
    rfl

/-- The normal form of a name is that of its tokens, with no space put in. -/
theorem normalize_eq_flatMap (hw : ∀ d ∈ w, inName d = true) :
    normalize w = (tokens w).flatMap words.render := by
  have hwrite := (splits_tokens hw).write_append none []
  rw [List.append_nil, Wording.write, List.append_nil] at hwrite
  rw [normalize_eq, ← tokens_eq, hwrite]

/-- The normal form of a word is made of characters of names. -/
theorem inName_of_mem_normalWord (hw : IsWord startsWord continuesWord w) :
    ∀ d ∈ normalWord w, inName d = true := fun d hd =>
  inName_of_continuesWord (words.continues_of_isWord (words.isWord_normal w hw) d hd)

/-- What is written for a token of a name belongs to a name, and it is something. -/
theorem Splits.render (h : Splits w ts) :
    (∀ d ∈ ts.flatMap words.render, inName d = true) ∧
      (w ≠ [] → ts.flatMap words.render ≠ []) := by
  induction h with
  | nil => exact ⟨nofun, fun h => absurd rfl h⟩
  | word hw _ _ ih =>
    rw [List.flatMap_cons, List.forall_mem_append]
    refine ⟨⟨inName_of_mem_normalWord hw, ih.1⟩, fun _ hnil => ?_⟩
    obtain ⟨d, ds, heq, -⟩ := (words.isWord_normal _ hw).exists_cons
    have hrender : words.normal _ = [] := (List.append_eq_nil_iff.1 hnil).1
    rw [heq] at hrender
    cases hrender
  | other hc _ _ ih =>
    rw [List.flatMap_cons]
    exact ⟨List.forall_mem_cons.2 ⟨hc, ih.1⟩, nofun⟩

/-- The normal form of a name is a name. -/
theorem isWord_normalize (hw : IsWord inName inName w) : IsWord inName inName (normalize w) := by
  rw [isWord_inName_iff] at hw ⊢
  have hrender := (splits_tokens hw.2).render
  rw [normalize_eq_flatMap hw.2]
  exact ⟨hrender.2 hw.1, hrender.1⟩

/-- A word alone is one token. -/
theorem tokens_word (hw : IsWord startsWord continuesWord w) : tokens w = [.word w] := by
  have hlexes : Lexes words (w ++ []) [.word w] := .word hw nofun .nil
  rw [List.append_nil] at hlexes
  rw [tokens_eq, Wording.tokens_of_lexes hlexes]

/-- A word is put in normal form as a whole. -/
theorem normalize_word (hw : IsWord startsWord continuesWord w) : normalize w = normalWord w := by
  rw [normalize_eq, ← tokens_eq, tokens_word hw, Wording.write_word]
  exact List.append_nil _

/-- The names that the scan for an `or` reads. Their normal forms are those of texts. -/
def names : Wording where
  starts := inName
  continues := inName
  normal := normalize
  continues_of_starts _ := id
  not_continues _ := inName_of_separates
  isWord_normal _ := isWord_normalize
  normal_normal w _ := normalize_normalize w
  isWord_comparison op := isWord_inName_of_isWord (words.isWord_comparison op)
  normal_comparison op := by
    rw [normalize_word (words.isWord_comparison op)]
    exact words.normal_comparison op

/-! ## Texts in names -/

/-- The words of a name, and other tokens as they are. -/
def Token.split : Token → List Token
  | .word w => tokens w
  | t => [t]

/-- Split into their words, the names of a text are the tokens of the text. -/
theorem Lexes.split (h : Lexes names cs ts) : Lexes words cs (ts.flatMap Token.split) := by
  induction h with
  | nil => exact .nil
  | literal text hrest _ ih => exact .literal text hrest ih
  | openLiteral text => exact .openLiteral text
  | operator hsymbol _ ih => exact .operator hsymbol ih
  | word hw hrest _ ih =>
    exact (splits_tokens (names.continues_of_isWord hw)).lexes_append hrest ih
  | @other c _ _ hquote hc hsymbol _ ih =>
    refine .other hquote ?_ hsymbol ih
    rw [← Bool.not_eq_true]
    intro hstarts
    have hname : inName c = false := hc
    rw [inName_of_continuesWord (continuesWord_of_startsWord hstarts)] at hname
    cases hname

/-- The tokens of a text are those of its names, where names are split. -/
theorem tokens_eq_split (cs : List Char) : tokens cs = (names.tokens cs).flatMap Token.split := by
  rw [tokens_eq, Wording.tokens_of_lexes (names.lexes_tokens cs).split]

/-! ### The normal form of a text -/

/-- The space that an operator needs in front of a text. -/
def spaceTo : (next : Option Char) → List Char
  | none => []
  | some c => if Text.isBlank c || c == ')' then [] else [' ']

/-- An operator needs a space in front of a name. -/
theorem spaceTo_of_not_separates (h : separates c = false) : spaceTo (some c) = [' '] := by
  simp only [separates, Bool.or_eq_false_iff] at h
  rw [spaceTo, h.1.1.1.1, h.1.2]
  rfl

/-- The space behind an operator depends on the first character of what follows only. -/
theorem Lexes.spaceAfter_eq {W : Wording} (h : Lexes W cs ts) :
    spaceAfter ts = spaceTo cs.head? := by
  cases h with
  | nil => rfl
  | literal text _ _ => rfl
  | openLiteral text => rfl
  | operator hsymbol _ =>
    obtain ⟨symbol, rfl, hne, hmarks⟩ := hsymbol.exists_symbol
    obtain ⟨d, symbol, rfl⟩ := List.exists_cons_of_ne_nil hne
    have hd := hmarks d List.mem_cons_self
    simp only [inSymbol, Bool.or_eq_true, beq_iff_eq] at hd
    rcases hd with ((rfl | rfl) | rfl) | rfl <;> rfl
  | word hw _ _ =>
    obtain ⟨d, ds, rfl, hd⟩ := hw.exists_cons
    exact (spaceTo_of_not_separates (W.not_separates (W.continues_of_starts d hd))).symm
  | other _ _ _ _ => rfl

/-- Writing the words of a text is writing its names. -/
theorem Lexes.write_split (h : Lexes names cs ts) (last : Option Char) :
    words.write last (ts.flatMap Token.split) = names.write last ts := by
  induction h generalizing last with
  | nil => rfl
  | literal text _ _ ih => exact congrArg (Literal.quote text ++ ·) (ih _)
  | openLiteral text => rfl
  | @operator _ _ op ts _ hrest ih =>
    show words.write last (.operator op :: ts.flatMap Token.split) = _
    rw [Wording.write_operator, Wording.write_operator, hrest.split.spaceAfter_eq,
      hrest.spaceAfter_eq, ih]
  | word hw _ _ ih =>
    have hname := names.continues_of_isWord hw
    rw [List.flatMap_cons, Token.split, (splits_tokens hname).write_append,
      ← normalize_eq_flatMap hname, ih]
    rfl
  | @other c _ _ _ _ _ _ ih => exact congrArg (c :: ·) (ih _)

/-- The names of the normal form are the normal forms of the names. -/
theorem renders_names (cs : List Char) :
    Renders names (normalize cs) (names.tokens cs) (names.tokens (normalize cs)) := by
  rw [normalize_eq, ← tokens_eq, tokens_eq_split, (names.lexes_tokens cs).write_split]
  exact names.renders_write cs

/-! ## The scan for an `or` -/

/-- The parentheses that are open behind a token. A closing one too many leaves none open. -/
def Token.nest (depth : Nat) : Token → Nat
  | .other c => if c = '(' then depth + 1 else if c = ')' then depth - 1 else depth
  | _ => depth

/-- The token is the word `or` in any case. -/
def Token.isOr : Token → Bool
  | .word w => RawText.isOr w
  | _ => false

/-- There is an `or` outside of parentheses, with `depth` of them open. -/
def orFrom : (depth : Nat) → List Token → Bool
  | _, [] => false
  | depth, t :: ts => depth == 0 && t.isOr || orFrom (t.nest depth) ts

/-- The scan for an `or` passes over a character of a symbol. -/
theorem hasOrWithin_mark {c : Char} (h : inSymbol c = true) (fuel depth : Nat) (cs : List Char) :
    hasOrWithin (fuel + 1) depth (c :: cs) = hasOrWithin fuel depth cs := by
  simp only [inSymbol, Bool.or_eq_true, beq_iff_eq] at h
  rcases h with ((rfl | rfl) | rfl) | rfl <;> rfl

theorem hasOrWithin_symbol {symbol : List Char} (h : ∀ c ∈ symbol, inSymbol c = true)
    (fuel depth : Nat) (cs : List Char) :
    hasOrWithin (symbol.length + fuel) depth (symbol ++ cs) = hasOrWithin fuel depth cs := by
  induction symbol with
  | nil => rw [List.length_nil, Nat.zero_add, List.nil_append]
  | cons c symbol ih =>
    rw [List.forall_mem_cons] at h
    rw [List.length_cons, Nat.add_right_comm, List.cons_append, hasOrWithin_mark h.1, ih h.2]

/-- Any other character opens or closes a parenthesis, or is passed over. -/
theorem hasOrWithin_other {c : Char} (hquote : c ≠ '\'') (hc : inName c = false)
    (fuel depth : Nat) (cs : List Char) : hasOrWithin (fuel + 1) depth (c :: cs) =
      hasOrWithin fuel ((Token.other c).nest depth) cs := by
  simp only [hasOrWithin, hquote, hc, if_false, Bool.false_eq_true, Token.nest]
  split
  · rfl
  · split <;> rfl

/-- The scan goes from name to name. -/
theorem Lexes.hasOrWithin_eq (h : Lexes names cs ts) {fuel : Nat} (hfuel : cs.length ≤ fuel)
    (depth : Nat) : hasOrWithin fuel depth cs = orFrom depth ts := by
  -- Induction on the tokens. Each needs no more fuel than it has characters.
  induction h generalizing fuel depth with
  | nil => cases fuel <;> rfl
  | @literal text rest ts hrest _ ih =>
    simp only [Literal.quote, List.append_assoc, List.cons_append, List.nil_append,
      List.length_cons, List.length_append] at hfuel ⊢
    obtain ⟨fuel, rfl⟩ := Nat.exists_eq_add_one_of_ne_zero (n := fuel) (by omega)
    rw [hasOrWithin_literal text hrest, ih (by omega)]
    simp [orFrom, Token.isOr, Token.nest]
  | openLiteral text =>
    obtain ⟨fuel, rfl⟩ := Nat.exists_eq_add_one_of_ne_zero
      (Nat.ne_of_gt (Nat.lt_of_lt_of_le (Nat.succ_pos _) hfuel))
    rw [hasOrWithin, if_pos rfl, Literal.scan_escape]
    cases fuel <;> simp [hasOrWithin, orFrom, Token.isOr]
  | operator hsymbol _ ih =>
    obtain ⟨symbol, rfl, -, hmarks⟩ := hsymbol.exists_symbol
    rw [List.length_append] at hfuel
    obtain ⟨more, rfl⟩ := Nat.exists_eq_add_of_le (Nat.le_trans (Nat.le_add_right _ _) hfuel)
    rw [hasOrWithin_symbol hmarks, ih (by omega)]
    simp [orFrom, Token.isOr, Token.nest]
  | word hw hrest _ ih =>
    cases hw with
    | mk hc hcs =>
      rw [List.cons_append, List.length_cons, List.length_append] at hfuel
      obtain ⟨fuel, rfl⟩ := Nat.exists_eq_add_one_of_ne_zero (n := fuel) (by omega)
      rw [List.cons_append, hasOrWithin_name hc, Text.takeWhile_run (p := inName) hcs hrest,
        Text.dropWhile_run (p := inName) hcs hrest, ih (by omega)]
      rfl
  | other hquote hc _ _ ih =>
    rw [List.length_cons] at hfuel
    obtain ⟨fuel, rfl⟩ := Nat.exists_eq_add_one_of_ne_zero (n := fuel) (by omega)
    rw [hasOrWithin_other hquote hc, ih (by omega)]
    simp [orFrom, Token.isOr]

/-- The scan for an `or` looks at the names of the text. -/
theorem hasOr_eq (cs : List Char) : hasOr cs = orFrom 0 (names.tokens cs) :=
  (names.lexes_tokens cs).hasOrWithin_eq (Nat.le_refl _) 0

/-! ## Keywords among names and words -/

/-- What is a letter in lower case starts a word. -/
theorem startsWord_of_toLower (h : c.toLower.isLower = true) : startsWord c = true := by
  obtain ⟨hascii, halpha⟩ := Text.isAlpha_of_toLower h
  rw [startsWord, Text.isAlphabetic_of_ascii hascii, halpha, Bool.true_or]

/-- Keywords are words of small letters. -/
theorem keyword_laws : ∀ k ∈ keywords, k.toList ≠ [] ∧ k.toList.all Char.isLower = true ∧
    k.toList.map Char.toLower = k.toList := by
  decide

/-- A keyword in any case is a word. -/
theorem isWord_of_keyword (h : Text.lowercase (.ofList w) ∈ keywords) :
    IsWord startsWord continuesWord w := by
  have hmap := (lowercase_eq_keyword_iff h).1 rfl
  obtain ⟨hne, hlower, -⟩ := keyword_laws _ h
  rw [← hmap, String.toList_ofList] at hne hlower
  have hstarts : ∀ d ∈ w, startsWord d = true := fun d hd =>
    startsWord_of_toLower (List.all_eq_true.1 hlower _ (List.mem_map_of_mem hd))
  obtain ⟨c, cs, rfl⟩ := List.exists_cons_of_ne_nil (l := w) (by rintro rfl; exact hne rfl)
  rw [List.forall_mem_cons] at hstarts
  exact .mk hstarts.1 fun d hd => continuesWord_of_startsWord (hstarts.2 d hd)

/-- The normal form of a word differs in the case of letters only. -/
theorem map_toLower_normalWord (w : List Char) :
    (normalWord w).map Char.toLower = w.map Char.toLower := by
  simp only [normalWord, List.contains_iff_mem]
  split
  · next h =>
    have hlaws := (keyword_laws _ h).2.2
    rwa [String.toList_ofList] at hlaws
  · rfl

theorem Splits.map_toLower (h : Splits w ts) :
    (ts.flatMap words.render).map Char.toLower = w.map Char.toLower := by
  induction h with
  | nil => rfl
  | word _ _ _ ih =>
    rw [List.flatMap_cons, List.map_append, ih, List.map_append]
    exact congrArg (· ++ _) (map_toLower_normalWord _)
  | @other c _ _ _ _ _ ih => exact congrArg (c.toLower :: ·) ih

/-- A name is an `or` if and only if its normal form is one. -/
theorem isOr_normalize (hw : ∀ d ∈ w, inName d = true) : isOr (normalize w) = isOr w := by
  rw [isOr, isOr, normalize_eq_flatMap hw, (splits_tokens hw).map_toLower]

/-- A name that is an `or` is a keyword. -/
theorem lowercase_mem_of_isOr (h : isOr w = true) : Text.lowercase (.ofList w) ∈ keywords := by
  have hor : "or" ∈ keywords := by decide
  rw [(lowercase_eq_keyword_iff hor).2 (by rw [beq_iff_eq.1 h])]
  exact hor

/-- A token is in normal form if its normal form is the token. -/
theorem isNormal_iff (t : Token) : words.IsNormal t ↔ t.normal = t := by
  rw [Wording.IsNormal, normalToken_eq, and_iff_right_iff_imp]
  rintro h op rfl
  cases h

/-- A text is in normal form if all of its tokens are. -/
theorem normalize_eq_self_iff : normalize cs = cs ↔ ∀ t ∈ tokens cs, t.normal = t := by
  constructor
  · intro h t ht
    have hnormal := (renders_normalize cs).isNormal
    rw [h, ← tokens_eq] at hnormal
    exact (isNormal_iff t).1 (hnormal t ht)
  · intro h
    have hlexes := words.lexes_tokens cs
    rw [← tokens_eq] at hlexes
    exact normalize_of_isNormal hlexes fun t ht => (isNormal_iff t).2 (h t ht)

/-- A name is put in normal form as a word would be, unless a part of it is. -/
theorem normalToken_names_iff (t : Token) :
    names.normalToken t = t.normal ↔ ∀ u ∈ t.split, u.normal ≠ u → u = t := by
  cases t with
  | literal text => exact ⟨fun _ u hu _ => List.mem_singleton.1 hu, fun _ => rfl⟩
  | operator op => exact ⟨fun _ u hu _ => List.mem_singleton.1 hu, fun _ => rfl⟩
  | other c => exact ⟨fun _ u hu _ => List.mem_singleton.1 hu, fun _ => rfl⟩
  | word w =>
    show Token.word (normalize w) = _ ↔ ∀ u ∈ tokens w, u.normal ≠ u → u = .word w
    by_cases hkeyword : Text.lowercase (.ofList w) ∈ keywords
    · have hword := isWord_of_keyword hkeyword
      rw [tokens_word hword, normalize_word hword, normalWord_eq_lowercase]
      exact ⟨fun _ u hu _ => List.mem_singleton.1 hu, fun _ => rfl⟩
    · have hsame : (Token.word w).normal = .word w := congrArg Token.word (if_neg hkeyword)
      rw [hsame, Token.word.injEq, normalize_eq_self_iff]
      refine forall₂_congr fun u _ => ⟨fun h hne => absurd h hne, fun h => ?_⟩
      by_contra hne
      obtain rfl := h hne
      exact hne hsame

/-! ## Junctions -/

/-- The token has a say in where an `or` binds: it is a literal, a parenthesis or an `or`. -/
def Token.isJunction (t : Token) : Bool :=
  t.isFrame || t.isOr

/-- The junctions of a text. -/
def junctions (ts : List Token) : List Token :=
  ts.filter Token.isJunction

/-- White space is no junction. -/
theorem isBlank_of_isJunction {t : Token} (h : t.isJunction = true) : t.isBlank = false := by
  rcases Bool.or_eq_true_iff.1 h with hframe | hor
  · exact isBlank_of_isFrame hframe
  · cases t <;> first | rfl | cases hor

/-- Nothing else matters to the scan. -/
theorem orFrom_junctions (depth : Nat) : orFrom depth (junctions ts) = orFrom depth ts := by
  induction ts generalizing depth with
  | nil => rfl
  | cons t ts ih =>
    rw [junctions, List.filter_cons]
    split
    · exact congrArg (depth == 0 && t.isOr || ·) (ih _)
    · next ht =>
      rw [Bool.not_eq_true, Token.isJunction, Bool.or_eq_false_iff] at ht
      have hnest : t.nest depth = depth := by
        cases t with
        | other c =>
          have hc := ht.1
          simp only [Token.isFrame, Bool.or_eq_false_iff, beq_eq_false_iff_ne] at hc
          rw [Token.nest, if_neg hc.1, if_neg hc.2]
        | _ => rfl
      rw [orFrom, ht.2, Bool.and_false, Bool.false_or, hnest]
      exact ih depth

/-- A token is a junction if and only if its normal form is one. -/
theorem isJunction_normalToken {t : Token} (ht : ∀ w, t = .word w → ∀ d ∈ w, inName d = true) :
    (names.normalToken t).isJunction = t.isJunction := by
  cases t with
  | literal _ => rfl
  | operator op => cases op <;> decide
  | word w => exact isOr_normalize (ht w rfl)
  | other _ => rfl

/-- An `or` is not split. -/
theorem split_of_isOr {t : Token} (h : t.isOr = true) : t.split = [t] := by
  cases t with
  | word w => exact tokens_word (isWord_of_keyword (lowercase_mem_of_isOr h))
  | _ => rfl

/-- Literals and parentheses are not split. -/
theorem split_of_isFrame {t : Token} (h : t.isFrame = true) : t.split = [t] := by
  cases t with
  | word w => cases h
  | _ => rfl

theorem split_of_isJunction {t : Token} (h : t.isJunction = true) : t.split = [t] := by
  rcases Bool.or_eq_true_iff.1 h with hframe | hor
  · exact split_of_isFrame hframe
  · exact split_of_isOr hor

/-- The normal form of a junction is the same among names and among words. -/
theorem normalToken_of_isJunction {t : Token} (h : t.isJunction = true) :
    names.normalToken t = t.normal := by
  rw [normalToken_names_iff, split_of_isJunction h]
  exact fun u hu _ => List.mem_singleton.1 hu

/-- The junctions that the scan meets in the normal form are those of the names of the text. -/
theorem junctions_names_normalize (cs : List Char) :
    junctions (names.tokens (normalize cs)) = (junctions (names.tokens cs)).map Token.normal := by
  have hname : ∀ t ∈ significant (names.tokens cs),
      (Token.isJunction ∘ names.normalToken) t = t.isJunction := by
    rintro t ht
    refine isJunction_normalToken ?_
    rintro w rfl
    exact names.continues_of_isWord
      (Wording.isWord_of_mem (names.lexes_tokens cs) (List.mem_of_mem_filter ht))
  calc junctions (names.tokens (normalize cs))
    _ = junctions (significant (names.tokens (normalize cs))) :=
      (filter_significant (fun _ => isBlank_of_isJunction) _).symm
    _ = ((significant (names.tokens cs)).filter Token.isJunction).map names.normalToken := by
      rw [(renders_names cs).significant_eq, junctions, List.filter_map, List.filter_congr hname]
    _ = (junctions (names.tokens cs)).map names.normalToken := by
      rw [filter_significant (fun _ => isBlank_of_isJunction), junctions]
    _ = (junctions (names.tokens cs)).map Token.normal :=
      List.map_congr_left fun t ht => normalToken_of_isJunction (List.of_mem_filter ht)

/-- Those that the normal form is made by may be more: parts of names are among them. -/
theorem junctions_tokens (cs : List Char) :
    junctions (tokens cs) = (names.tokens cs).flatMap fun t => junctions t.split := by
  rw [tokens_eq_split, junctions, List.filter_flatMap]
  rfl

/-- The parts of a name have at least the junctions of the name. -/
theorem junctions_sublist_split (t : Token) : (junctions [t]).Sublist (junctions t.split) := by
  cases h : t.isJunction with
  | true => rw [split_of_isJunction h]
  | false =>
    rw [junctions, List.filter_cons, h]
    exact List.nil_sublist _

/-- A name has no junctions but an `or` among its parts. -/
theorem Splits.isOr_of_isJunction (h : Splits w ts) : ∀ t ∈ ts, t.isJunction = true →
    t.isOr = true := by
  induction h with
  | nil => nofun
  | word _ _ _ ih => exact List.forall_mem_cons.2 ⟨id, ih⟩
  | @other c _ _ hc _ _ ih =>
    refine List.forall_mem_cons.2 ⟨fun hjunction => ?_, ih⟩
    simp only [Token.isJunction, Token.isFrame, Token.isOr, Bool.or_false, Bool.or_eq_true,
      beq_iff_eq] at hjunction
    rcases hjunction with rfl | rfl <;> cases hc

/-- A token has all its junctions in common with its parts just if no proper part is an `or`. -/
theorem junctions_eq_split_iff {t : Token} (ht : ∀ w, t = .word w → ∀ d ∈ w, inName d = true) :
    junctions [t] = junctions t.split ↔ ∀ u ∈ t.split, u.isOr = true → u = t := by
  constructor
  · intro h u hu hor
    have hmem : u ∈ junctions t.split :=
      List.mem_filter.2 ⟨hu, by rw [Token.isJunction, hor, Bool.or_true]⟩
    rw [← h] at hmem
    exact List.mem_singleton.1 (List.mem_of_mem_filter hmem)
  · intro h
    cases hjunction : t.isJunction with
    | true => rw [split_of_isJunction hjunction]
    | false =>
      have hnone : ∀ u ∈ t.split, ¬ u.isJunction = true := by
        intro u hu hu'
        have hself : u = t := by
          cases t with
          | word w => exact h u hu ((splits_tokens (ht w rfl)).isOr_of_isJunction u hu hu')
          | _ => exact List.mem_singleton.1 hu
        rw [hself, hjunction] at hu'
        cases hu'
      rw [junctions, junctions, List.filter_eq_nil_iff.2 hnone, List.filter_cons, hjunction]
      rfl

section FlatMap

variable {α β : Type} {l : List α} {f g : α → List β}

/-- Lists that are parts of others piece by piece are the whole only if every piece is. -/
theorem flatMap_eq_iff (h : ∀ a ∈ l, (f a).Sublist (g a)) :
    l.flatMap f = l.flatMap g ↔ ∀ a ∈ l, f a = g a := by
  refine ⟨fun heq => ?_, List.flatMap_congr⟩
  induction l with
  | nil => nofun
  | cons a l ih =>
    rw [List.forall_mem_cons] at h ⊢
    rw [List.flatMap_cons, List.flatMap_cons] at heq
    have hlength := congrArg List.length heq
    have hfirst := h.1.length_le
    have hrest := (List.Sublist.flatMap_right l h.2).length_le
    rw [List.length_append, List.length_append] at hlength
    obtain ⟨hhead, htail⟩ := List.append_inj heq (by omega)
    exact ⟨hhead, ih h.2 htail⟩

end FlatMap

/-! ## Names in normal form -/

/-- The names of the normal form are the normal forms of the names. Each is in lower case if it is a
keyword and is kept if it is none, just if no proper part of it is a keyword in another case. Every
`or` that is met in the normal form is one that the normal form was made by, in its place among the
literals and parentheses; there are no others just if no proper part of a name is an `or`. -/
theorem names_normalize (cs : List Char) :
    significant (names.tokens (normalize cs)) =
        (significant (names.tokens cs)).map names.normalToken ∧
      (∀ t ∈ names.tokens cs,
        names.normalToken t = t.normal ↔ ∀ u ∈ t.split, u.normal ≠ u → u = t) ∧
      (junctions (names.tokens (normalize cs))).Sublist ((junctions (tokens cs)).map Token.normal) ∧
      (junctions (names.tokens (normalize cs)) = (junctions (tokens cs)).map Token.normal ↔
        ∀ t ∈ names.tokens cs, ∀ u ∈ t.split, u.isOr = true → u = t) ∧
      hasOr (normalize cs) = orFrom 0 (junctions (names.tokens (normalize cs))) := by
  have hpieces : junctions (names.tokens cs) =
      (names.tokens cs).flatMap fun t => junctions [t] := by
    unfold junctions
    rw [← List.filter_flatMap, List.flatMap_singleton']
  -- Names read as wholes lose the junctions that stand within them, and gain none.
  have hsublist : (junctions (names.tokens cs)).Sublist (junctions (tokens cs)) := by
    rw [hpieces, junctions_tokens]
    exact List.Sublist.flatMap_right _ fun t _ => junctions_sublist_split t
  have hwhole : junctions (names.tokens cs) = junctions (tokens cs) ↔
      ∀ t ∈ names.tokens cs, ∀ u ∈ t.split, u.isOr = true → u = t := by
    rw [hpieces, junctions_tokens, flatMap_eq_iff fun t _ => junctions_sublist_split t]
    refine forall₂_congr fun t ht => junctions_eq_split_iff ?_
    rintro w rfl
    exact names.continues_of_isWord (Wording.isWord_of_mem (names.lexes_tokens cs) ht)
  refine ⟨(renders_names cs).significant_eq, fun t _ => normalToken_names_iff t, ?_, ?_, ?_⟩
  · rw [junctions_names_normalize]
    exact hsublist.map _
  · rw [junctions_names_normalize, ← hwhole]
    refine ⟨fun heq => hsublist.eq_of_length ?_, congrArg _⟩
    simpa using congrArg List.length heq
  · rw [hasOr_eq, orFrom_junctions]

/-- Names with digits and dots in front of an `or` in capitals. -/
theorem names_normalize_rating :
    (∀ t ∈ names.tokens "rating.eu > 4 OR 2nd = 'a'".toList, ∀ u ∈ t.split,
        u.isOr = true → u = t) ∧
      junctions (names.tokens (normalize "rating.eu > 4 OR 2nd = 'a'".toList)) =
        (junctions (tokens "rating.eu > 4 OR 2nd = 'a'".toList)).map Token.normal :=
  have h : ∀ t ∈ names.tokens "rating.eu > 4 OR 2nd = 'a'".toList, ∀ u ∈ t.split,
      u.isOr = true → u = t := by decide
  ⟨h, (names_normalize _).2.2.2.1.2 h⟩

/-- A name that is no keyword is changed since a part of it is one. The normal form is made by an
`or` outside of parentheses, and none is met in it. -/
theorem exists_divided_name : ∃ cs w, .word w ∈ names.tokens cs ∧
    Text.lowercase (.ofList w) ∉ keywords ∧ normalize w ≠ w ∧
    .word (normalize w) ∈ names.tokens (normalize cs) ∧
    orFrom 0 (tokens cs) = true ∧ hasOr (normalize cs) = false :=
  ⟨"vendor.OR eq 1".toList, "vendor.OR".toList, by decide, by decide, by decide, by decide,
    by decide, by decide⟩

end SearchIndex.Filter.RawText
