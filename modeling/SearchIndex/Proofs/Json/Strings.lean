import SearchIndex.Proofs.Json.Numerals

/-!
# Strings in a text

How the characters of a string may be written between its quotes (`IsBody`): most of them as they
are, some as a letter behind a backslash, and any of them by its code, those beyond sixteen bits by
a pair of codes. No escape stands for half of a pair, so what is written has a value. A string is read
up to its closing quote (`readString_append`).
-/

namespace SearchIndex.Json

open Text (hexValue?)

/-! ## White space -/

/-- The text is white space. -/
def IsBlank (cs : List Char) : Prop :=
  ∀ c ∈ cs, isSpace c = true

/-- White space is skipped. -/
theorem skipSpace_append {blank : List Char} (h : IsBlank blank) (rest : List Char) :
    skipSpace (blank ++ rest) = skipSpace rest :=
  List.dropWhile_append_of_pos h

theorem skipSpace_cons {c : Char} (h : isSpace c = false) (rest : List Char) :
    skipSpace (c :: rest) = c :: rest :=
  List.dropWhile_cons_of_neg (by simp [h])

/-- Skipping twice is skipping once. -/
theorem skipSpace_skipSpace (text : List Char) : skipSpace (skipSpace text) = skipSpace text := by
  unfold skipSpace
  induction text with
  | nil => rfl
  | cons c text ih =>
    cases h : isSpace c with
    | true => rw [List.dropWhile_cons_of_pos h, ih]
    | false =>
      have hstop : ¬isSpace c = true := by simp [h]
      rw [List.dropWhile_cons_of_neg hstop, List.dropWhile_cons_of_neg hstop]

/-- White space does not go on with a numeral. -/
theorem endsNumeral_append {blank rest : List Char} (hblank : IsBlank blank)
    (hrest : EndsNumeral rest) : EndsNumeral (blank ++ rest) := by
  cases blank with
  | nil => exact hrest
  | cons c blank =>
    have hc := hblank c List.mem_cons_self
    simp only [isSpace, Bool.or_eq_true, beq_iff_eq] at hc
    obtain ((rfl | rfl) | rfl) | rfl := hc <;> rfl

/-! ## Strings -/

/-- The letters of the short escapes, and the characters that they stand for. -/
def shortEscapes : List (Char × Char) := [
  ('"', '"'), ('\\', '\\'), ('/', '/'), ('b', '\x08'), ('f', '\x0c'), ('n', '\n'), ('r', '\r'),
  ('t', '\t')]

/-- Four hexadecimal digits, in either case, and the code that they give. -/
inductive IsCode : Nat → List Char → Prop
  | mk {a b c d : Char} {i j k l : Nat} (ha : hexValue? a = some i) (hb : hexValue? b = some j)
      (hc : hexValue? c = some k) (hd : hexValue? d = some l) :
      IsCode (((i * 16 + j) * 16 + k) * 16 + l) [a, b, c, d]

/-- A character, and what may stand for it behind a backslash. -/
inductive IsEscape : Char → List Char → Prop
  | short {letter c : Char} (h : (letter, c) ∈ shortEscapes) : IsEscape c [letter]
  | code {code : Nat} {digits : List Char} (hcode : IsCode code digits)
      (hsurrogate : code < 0xD800 ∨ 0xDFFF < code) : IsEscape (Char.ofNat code) ('u' :: digits)
  /-- A character of the supplementary planes, as a pair of surrogates. -/
  | pair {high low : Nat} {digits more : List Char} (hhigh : IsCode high digits)
      (hlow : IsCode low more) (hleading : 0xD800 ≤ high ∧ high ≤ 0xDBFF)
      (htrailing : 0xDC00 ≤ low ∧ low ≤ 0xDFFF) :
      IsEscape (Char.ofNat (0x10000 + (high - 0xD800) * 0x400 + (low - 0xDC00)))
        ('u' :: digits ++ '\\' :: 'u' :: more)

/-- The characters of a string, and how they may be written between its quotes. -/
inductive IsBody : List Char → List Char → Prop
  | nil : IsBody [] []
  | plain {c : Char} {cs written : List Char} (hquote : c ≠ '"') (hslash : c ≠ '\\')
      (hcontrol : 0x20 ≤ c.toNat) (h : IsBody cs written) : IsBody (c :: cs) (c :: written)
  | escape {c : Char} {cs escaped written : List Char} (hc : IsEscape c escaped)
      (h : IsBody cs written) : IsBody (c :: cs) ('\\' :: escaped ++ written)

/-- The character stands for itself between quotes. -/
def isPlain (c : Char) : Bool :=
  c != '"' && c != '\\' && 0x20 ≤ c.toNat

/-- A string without quotes, backslashes and controls is written as it is. -/
theorem isBody_self {cs : List Char} (h : cs.all isPlain = true) : IsBody cs cs := by
  induction cs with
  | nil => exact .nil
  | cons c cs ih =>
    rw [List.all_cons, Bool.and_eq_true] at h
    obtain ⟨⟨hquote, hslash⟩, hcontrol⟩ : (c ≠ '"' ∧ c ≠ '\\') ∧ 0x20 ≤ c.toNat := by
      simpa [isPlain] using h.1
    exact .plain hquote hslash hcontrol (ih h.2)

/-- The letter of a short escape reads as its character, and starts no code. -/
theorem shortEscape?_of_mem {letter c : Char} (h : (letter, c) ∈ shortEscapes) :
    letter ≠ 'u' ∧ shortEscape? letter = some c := by
  have hall : (shortEscapes.all fun e => e.1 != 'u' && shortEscape? e.1 == some e.2) = true := by
    decide
  simpa using List.all_eq_true.1 hall _ h

/-- Four hexadecimal digits are read as their code. -/
theorem readCode_append {code : Nat} {digits : List Char} (h : IsCode code digits)
    (rest : List Char) : readCode (digits ++ rest) = .ok (code, rest) := by
  obtain ⟨ha, hb, hc, hd⟩ := h
  next a b c d i j k l =>
    have hcount : ¬byteCount [a, b, c, d] < 4 := by
      have ha := a.utf8Size_pos
      have hb := b.utf8Size_pos
      have hc := c.utf8Size_pos
      have hd := d.utf8Size_pos
      simp only [byteCount, List.foldl_cons, List.foldl_nil]
      omega
    simp only [readCode, List.cons_append, List.nil_append, List.take_succ_cons, List.take_zero,
      if_neg hcount, ha, hb, hc, hd]

/-- What is escaped is read as its character, also where two codes make it. -/
theorem readEscape_append {c : Char} {escaped : List Char} (h : IsEscape c escaped)
    (rest : List Char) : readEscape (escaped ++ rest) = .ok (c, rest) := by
  cases h with
  | short hmem =>
    obtain ⟨hu, hshort⟩ := shortEscape?_of_mem hmem
    simp only [List.cons_append, List.nil_append, readEscape, if_neg hu, hshort]
  | @code code digits hcode hsurrogate =>
    have htrailing : ¬(0xDC00 ≤ code ∧ code ≤ 0xDFFF) := by omega
    have hleading : ¬(0xD800 ≤ code ∧ code ≤ 0xDBFF) := by omega
    simp only [List.cons_append, readEscape, if_true, readCodeEscape, readCode_append hcode,
      Step.andThen, if_neg htrailing, if_neg hleading]
  | @pair high low digits more hhigh hlow hleading htrailing =>
    have hnot : ¬(0xDC00 ≤ high ∧ high ≤ 0xDFFF) := by omega
    simp only [List.cons_append, List.append_assoc, readEscape, if_true, readCodeEscape,
      readCode_append hhigh, Step.andThen, readPairMark, readCode_append hlow, if_pos hleading,
      if_pos htrailing, if_neg hnot]

/-- A string is read up to its closing quote. -/
theorem readChars_append {cs written : List Char} (h : IsBody cs written) (rest : List Char)
    {fuel : Nat} (hfuel : cs.length < fuel) (seen : List Char) :
    readChars fuel seen (written ++ '"' :: rest) =
      .ok (String.ofList (seen.reverse ++ cs), rest) := by
  induction h generalizing fuel seen with
  | nil =>
    obtain ⟨fuel, rfl⟩ := Nat.exists_eq_add_one_of_ne_zero (Nat.ne_zero_of_lt hfuel)
    simp only [List.nil_append, readChars, if_true, List.append_nil]
  | @plain c cs written hquote hslash hcontrol _ ih =>
    obtain ⟨fuel, rfl⟩ := Nat.exists_eq_add_one_of_ne_zero (Nat.ne_zero_of_lt hfuel)
    have hbound : ¬c.toNat < 0x20 := Nat.not_lt.2 hcontrol
    simp only [List.cons_append, readChars, if_neg hquote, if_neg hslash, if_neg hbound]
    rw [ih (Nat.lt_of_succ_lt_succ hfuel), List.reverse_cons, List.append_assoc,
      List.singleton_append]
  | @escape c cs escaped written hc _ ih =>
    obtain ⟨fuel, rfl⟩ := Nat.exists_eq_add_one_of_ne_zero (Nat.ne_zero_of_lt hfuel)
    have hquote : '\\' ≠ '"' := by decide
    simp only [List.cons_append, List.append_assoc, readChars, if_neg hquote, if_true,
      readEscape_append hc, Step.andThen]
    rw [ih (Nat.lt_of_succ_lt_succ hfuel), List.reverse_cons, List.append_assoc,
      List.singleton_append]

/-- A string is no longer than what is written for it. -/
theorem IsBody.length_le {cs written : List Char} (h : IsBody cs written) :
    cs.length ≤ written.length := by
  induction h with
  | nil => exact Nat.le_refl 0
  | plain _ _ _ _ ih => exact Nat.succ_le_succ ih
  | escape _ _ ih =>
    simp only [List.length_cons, List.length_append]
    omega

/-- What is written for a string is read as the string, up to the closing quote. -/
theorem readString_append {cs written : List Char} (h : IsBody cs written) (rest : List Char) :
    readString (written ++ '"' :: rest) = .ok (String.ofList cs, rest) := by
  have hlength := h.length_le
  have hfuel : cs.length < (written ++ '"' :: rest).length + 1 := by
    rw [List.length_append]
    omega
  exact readChars_append h rest hfuel []

end SearchIndex.Json
