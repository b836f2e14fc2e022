import SearchIndex.Json.Reader
import SearchIndex.Proofs.Decimal.Form

/-!
# Numerals in a text

A reader of numbers takes the longest numeral that it finds. So a numeral that is read to its end by
itself is read the same in front of anything that does not go on with it (`Extends`), which is the
one lemma that each of the readers needs.

Of the numerals, those without a point and an exponent are written back as they were exactly if
they are written the way that whole numbers are, and fit a word (`text_eq_iff`): zero with a minus
sign and numbers beyond a word become doubles, and a double is never written without a point or an
exponent.
-/

namespace SearchIndex.Json

/-! ## Reading in front of other text -/

/-- The character goes on with a numeral. -/
def continuesNumeral (c : Char) : Bool :=
  (digitValue? c).isSome || c == '.' || c == 'e' || c == 'E'

/-- The text does not go on with a numeral. -/
def EndsNumeral (rest : List Char) : Prop :=
  rest.head?.any continuesNumeral = false

/-- What the reader takes from a text, it takes from the text in front of another one. -/
def Extends {α : Type} (read : List Char → Step α) : Prop :=
  ∀ text a left rest, EndsNumeral rest → read text = .ok (a, left) →
    read (text ++ rest) = .ok (a, left ++ rest)

section Extends

variable {rest : List Char}

theorem endsNumeral_nil : EndsNumeral [] := rfl

/-- A number ends at the end of the text, or in front of a character that it cannot go on with. -/
theorem EndsNumeral.cases (h : EndsNumeral rest) : rest = [] ∨
    ∃ c cs, rest = c :: cs ∧ digitValue? c = none ∧ c ≠ '.' ∧ c ≠ 'e' ∧ c ≠ 'E' := by
  cases rest with
  | nil => exact .inl rfl
  | cons c cs =>
    simp only [EndsNumeral, List.head?_cons, Option.any_some, continuesNumeral,
      Bool.or_eq_false_iff, beq_eq_false_iff_ne, Option.isSome_eq_false_iff,
      Option.isNone_iff_eq_none] at h
    obtain ⟨⟨⟨hdigit, hpoint⟩, hlower⟩, hupper⟩ := h
    exact .inr ⟨c, cs, rfl, hdigit, hpoint, hlower, hupper⟩

/-- Digits are gathered up to the end of a numeral. -/
theorem gatherWhole_append (h : EndsNumeral rest) (g : Gathered) (text : List Char) :
    gatherWhole g (text ++ rest) = ((gatherWhole g text).1, (gatherWhole g text).2 ++ rest) := by
  induction text generalizing g with
  | nil =>
    obtain rfl | ⟨c, cs, rfl, hdigit, -⟩ := h.cases
    · rfl
    · simp only [List.nil_append, gatherWhole, hdigit]
  | cons c text ih =>
    cases hdigit : digitValue? c with
    | none => simp only [List.cons_append, gatherWhole, hdigit]
    | some digit =>
      simp only [List.cons_append, gatherWhole, hdigit]
      split <;> exact ih _

/-- Digits are skipped up to the end of the number. -/
theorem skipDigits_append (h : EndsNumeral rest) (text : List Char) :
    skipDigits (text ++ rest) = skipDigits text ++ rest := by
  induction text with
  | nil =>
    obtain rfl | ⟨c, cs, rfl, hdigit, -⟩ := h.cases
    · rfl
    · simp [skipDigits, hdigit]
  | cons c text ih =>
    cases hdigit : digitValue? c with
    | none => simp [skipDigits, hdigit]
    | some digit => simpa [skipDigits, hdigit] using ih

/-- The digits behind the point are gathered up to the end of the number. -/
theorem gatherFraction_append (h : EndsNumeral rest) (g : Gathered) (text : List Char) :
    gatherFraction g (text ++ rest) =
      ((gatherFraction g text).1, (gatherFraction g text).2 ++ rest) := by
  induction text generalizing g with
  | nil =>
    obtain rfl | ⟨c, cs, rfl, hdigit, -⟩ := h.cases
    · rfl
    · simp only [List.nil_append, gatherFraction, hdigit]
  | cons c text ih =>
    cases hdigit : digitValue? c with
    | none => simp only [List.cons_append, gatherFraction, hdigit]
    | some digit =>
      simp only [List.cons_append, gatherFraction, hdigit]
      split
      · exact ih _
      · rw [skipDigits_append h]

theorem gatherExponent_append (h : EndsNumeral rest) (exponent : Nat) (text : List Char) :
    gatherExponent exponent (text ++ rest) =
      match gatherExponent exponent text with
      | .ok (e, left) => .ok (e, left ++ rest)
      | .error left => .error (left ++ rest) := by
  induction text generalizing exponent with
  | nil =>
    obtain rfl | ⟨c, cs, rfl, hdigit, -⟩ := h.cases
    · rfl
    · simp only [List.nil_append, gatherExponent, hdigit]
  | cons c text ih =>
    cases hdigit : digitValue? c with
    | none => simp only [List.cons_append, gatherExponent, hdigit]
    | some digit =>
      simp only [List.cons_append, gatherExponent, hdigit]
      split
      · exact ih _
      · rfl

/-- The mark of the exponent is no part of the rest. -/
theorem exponentMark?_append (h : EndsNumeral rest) (text : List Char) :
    exponentMark? (text ++ rest) = (exponentMark? text).map (· ++ rest) := by
  cases text with
  | nil =>
    obtain rfl | ⟨c, cs, rfl, -, -, hlower, hupper⟩ := h.cases
    · rfl
    · simp [exponentMark?, hlower, hupper]
  | cons c text =>
    simp only [List.cons_append, exponentMark?]
    split <;> rfl

/-- A real number is finished without a look at the rest. -/
theorem extends_finishReal (negative : Bool) (g : Gathered) : Extends (finishReal negative g) := by
  intro text n left rest _ h
  unfold finishReal at h ⊢
  split at h
  · cases h
    rfl
  · cases h

theorem extends_finishWhole (negative : Bool) (g : Gathered) :
    Extends (finishWhole negative g) := by
  intro text n left rest hrest h
  have hreal := extends_finishReal negative g text n left rest hrest
  by_cases hodd : g.power ≠ 0 ∨ negative ∧ g.digits = 0
  · simp only [finishWhole, if_pos hodd] at h ⊢
    exact hreal h
  · simp only [finishWhole, if_neg hodd] at h ⊢
    cases hwhole : Number.ofInt? (if negative then -(g.digits : Int) else g.digits) with
    | some m =>
      simp only [hwhole] at h ⊢
      cases h
      rfl
    | none =>
      simp only [hwhole] at h ⊢
      exact hreal h

/-- Reads the digits of an exponent, behind its sign, and ends the number. -/
def readPower (negative : Bool) (g : Gathered) (down : Bool) : List Char → Step Number
  | [] => stopHere .endInValue []
  | c :: rest =>
    match digitValue? c with
    | none => stopAtNext .badNumber (c :: rest)
    | some digit =>
      match gatherExponent digit rest with
      | .ok (exponent, rest) =>
        finishReal negative ⟨g.digits, if down then g.power - exponent else g.power + exponent⟩ rest
      | .error rest =>
        if g.digits ≠ 0 ∧ !down then stopHere .numberTooLarge rest
        else .ok (.real (if negative then -0.0 else 0.0), skipDigits rest)

/-- The power of ten is taken from its own text. -/
theorem extends_readPower (negative : Bool) (g : Gathered) (down : Bool) :
    Extends (readPower negative g down) := by
  intro text n left rest hrest h
  cases text with
  | nil => cases h
  | cons c text =>
    cases hdigit : digitValue? c with
    | none =>
      simp only [readPower, hdigit] at h
      cases h
    | some digit =>
      simp only [List.cons_append, readPower, hdigit, gatherExponent_append hrest] at h ⊢
      cases hgather : gatherExponent digit text with
      | ok read =>
        simp only [hgather] at h ⊢
        exact extends_finishReal _ _ _ _ _ _ hrest h
      | error left' =>
        simp only [hgather] at h ⊢
        split at h
        · cases h
        · next hzero =>
          rw [if_neg hzero, skipDigits_append hrest]
          cases h
          rfl

theorem extends_readExponent (negative : Bool) (g : Gathered) :
    Extends (readExponent negative g) := by
  intro text n left rest hrest h
  cases text with
  | nil => cases h
  | cons c text =>
    -- Only the sign is taken off before the digits are read.
    by_cases hplus : c = '+'
    · subst hplus
      exact extends_readPower negative g false text n left rest hrest h
    · by_cases hminus : c = '-'
      · subst hminus
        exact extends_readPower negative g true text n left rest hrest h
      · have hunsigned (text : List Char) :
            readExponent negative g (c :: text) = readPower negative g false (c :: text) := by
          unfold readExponent
          split
          next heq =>
            split at heq
            · next hc => exact absurd (List.cons.inj hc).1 hplus
            · next hc => exact absurd (List.cons.inj hc).1 hminus
            · cases heq
              rfl
        rw [hunsigned] at h
        rw [List.cons_append, hunsigned]
        exact extends_readPower negative g false (c :: text) n left rest hrest h

theorem extends_readFraction (negative : Bool) (g : Gathered) :
    Extends (readFraction negative g) := by
  intro text n left rest hrest h
  cases text with
  | nil => cases h
  | cons c text =>
    cases hdigit : digitValue? c with
    | none =>
      simp only [readFraction, hdigit] at h
      cases h
    | some digit =>
      simp only [List.cons_append, readFraction, hdigit] at h ⊢
      rw [← List.cons_append, gatherFraction_append hrest]
      simp only [exponentMark?_append hrest]
      cases hmark : exponentMark? (gatherFraction g (c :: text)).2 with
      | none =>
        simp only [hmark, Option.map_none] at h ⊢
        exact extends_finishReal _ _ _ _ _ _ hrest h
      | some behind =>
        simp only [hmark, Option.map_some] at h ⊢
        exact extends_readExponent _ _ _ _ _ _ hrest h

/-- Reads on behind the whole part of a number. -/
def readBehindWhole (negative : Bool) (g : Gathered) (text : List Char) : Step Number :=
  match text with
  | '.' :: rest => readFraction negative g rest
  | _ =>
    match exponentMark? text with
    | some rest => readExponent negative g rest
    | none => finishWhole negative g text

theorem extends_readBehindWhole (negative : Bool) (g : Gathered) :
    Extends (readBehindWhole negative g) := by
  intro text n left rest hrest h
  -- The point comes first, so it is a case of its own in front of either text.
  have hmarked (text' : List Char) (hpoint : text'.head? ≠ some '.') :
      readBehindWhole negative g text' = match exponentMark? text' with
        | some rest => readExponent negative g rest
        | none => finishWhole negative g text' := by
    unfold readBehindWhole
    split
    · next heq => exact absurd rfl hpoint
    · rfl
  by_cases hpoint : text.head? = some '.'
  · obtain ⟨text, rfl⟩ := List.head?_eq_some_iff.1 hpoint
    exact extends_readFraction negative g text n left rest hrest h
  · have hfront : (text ++ rest).head? ≠ some '.' := by
      cases text with
      | nil =>
        obtain rfl | ⟨c, cs, rfl, -, hc, -⟩ := hrest.cases
        · exact nofun
        · simpa using hc
      | cons c text => simpa using hpoint
    rw [hmarked text hpoint] at h
    rw [hmarked _ hfront, exponentMark?_append hrest]
    cases hmark : exponentMark? text with
    | none =>
      simp only [hmark, Option.map_none] at h ⊢
      exact extends_finishWhole negative g text n left rest hrest h
    | some behind =>
      simp only [hmark, Option.map_some] at h ⊢
      exact extends_readExponent negative g behind n left rest hrest h

section ReadNumber

variable {negative : Bool} {c : Char} {digit : Nat} {text : List Char}

/-- A zero is a whole part by itself. -/
theorem readNumber_zero (hdigit : digitValue? c = some 0)
    (hnext : text.head?.any (fun d => (digitValue? d).isSome) = false) :
    readNumber negative (c :: text) = readBehindWhole negative ⟨0, 0⟩ text := by
  cases text with
  | nil =>
    simp only [readNumber, hdigit, if_true]
    rfl
  | cons d text =>
    have hd : (digitValue? d).isSome = false := hnext
    simp only [readNumber, hdigit, if_true, hd, Bool.false_eq_true, if_false]
    rfl

/-- No digit may follow a zero at the start. -/
theorem readNumber_zero_digit (hdigit : digitValue? c = some 0)
    (hnext : text.head?.any (fun d => (digitValue? d).isSome) = true) :
    readNumber negative (c :: text) = stopAtNext .badNumber text := by
  cases text with
  | nil => cases hnext
  | cons d text =>
    have hd : (digitValue? d).isSome = true := hnext
    simp only [readNumber, hdigit, if_true, hd, stopAtNext]

/-- Any other digit starts the whole part. -/
theorem readNumber_nonzero (hdigit : digitValue? c = some digit) (hzero : digit ≠ 0) :
    readNumber negative (c :: text) =
      readBehindWhole negative (gatherWhole ⟨digit, 0⟩ text).1 (gatherWhole ⟨digit, 0⟩ text).2 := by
  simp only [readNumber, hdigit, hzero, if_false]
  rfl

end ReadNumber

/-- A number is taken from its own text. -/
theorem extends_readNumber (negative : Bool) : Extends (readNumber negative) := by
  intro text n left rest hrest h
  cases text with
  | nil => cases h
  | cons c text =>
    cases hdigit : digitValue? c with
    | none =>
      simp only [readNumber, hdigit] at h
      cases h
    | some digit =>
      by_cases hzero : digit = 0
      · subst hzero
        cases hnext : text.head?.any (fun d => (digitValue? d).isSome) with
        | true =>
          rw [readNumber_zero_digit hdigit hnext] at h
          cases h
        | false =>
          have hfront : (text ++ rest).head?.any (fun d => (digitValue? d).isSome) = false := by
            cases text with
            | nil =>
              obtain rfl | ⟨d, cs, rfl, hd, -⟩ := hrest.cases
              · rfl
              · simp [hd]
            | cons d text => exact hnext
          rw [readNumber_zero hdigit hnext] at h
          rw [List.cons_append, readNumber_zero hdigit hfront]
          exact extends_readBehindWhole negative _ text n left rest hrest h
      · rw [readNumber_nonzero hdigit hzero] at h
        rw [List.cons_append, readNumber_nonzero hdigit hzero, gatherWhole_append hrest]
        exact extends_readBehindWhole negative _ _ n left rest hrest h

end Extends

/-! ## Numerals -/

/-- The text is a numeral, with its sign, and stands for the number. -/
def IsNumeral (n : Number) (numeral : List Char) : Prop :=
  match numeral with
  | '-' :: digits => readNumber true digits = .ok (n, [])
  | digits => readNumber false digits = .ok (n, [])

/-- A numeral is read in front of anything that does not go on with it, by the reader for its
sign. -/
theorem IsNumeral.cases {n : Number} {numeral : List Char} (h : IsNumeral n numeral) :
    (∃ digits, numeral = '-' :: digits ∧
      ∀ rest, EndsNumeral rest → readNumber true (digits ++ rest) = .ok (n, rest)) ∨
    ∃ c digits, numeral = c :: digits ∧ (digitValue? c).isSome = true ∧
      ∀ rest, EndsNumeral rest → readNumber false (c :: digits ++ rest) = .ok (n, rest) := by
  unfold IsNumeral at h
  split at h
  · next digits =>
    refine .inl ⟨digits, rfl, fun rest hrest => ?_⟩
    exact extends_readNumber true digits n [] rest hrest h
  · cases numeral with
    | nil => cases h
    | cons c digits =>
      refine .inr ⟨c, digits, rfl, ?_, fun rest hrest => ?_⟩
      · cases hdigit : digitValue? c with
        | none =>
          simp only [readNumber, hdigit] at h
          cases h
        | some digit => rfl
      · exact extends_readNumber false (c :: digits) n [] rest hrest h

/-- A text is a numeral for one number at most. -/
theorem IsNumeral.unique {n m : Number} {numeral : List Char} (hn : IsNumeral n numeral)
    (hm : IsNumeral m numeral) : n = m := by
  unfold IsNumeral at hn hm
  split at hn
  · exact (Prod.mk.inj (Except.ok.inj (hn.symm.trans hm))).1
  · next hminus =>
    split at hm
    · next digits => exact absurd rfl (hminus digits)
    · exact (Prod.mk.inj (Except.ok.inj (hn.symm.trans hm))).1

/-! ## Whole numerals -/

/-- The text is a row of digits that starts with a zero only if it has no others. -/
def isWhole : List Char → Bool
  | [] => false
  | c :: rest => (c :: rest).all Char.isDigit && (c != '0' || rest.isEmpty)

/-- The text is a numeral without a point and an exponent. -/
def isInteger : List Char → Bool
  | '-' :: digits => isWhole digits
  | digits => isWhole digits

section Whole

open Decimal (naturalDigits signedDigits)

/-- An integer is made of digits and perhaps a minus sign. -/
theorem isDigit_or_minus_of_isInteger {literal : List Char} (h : isInteger literal = true) :
    ∀ c ∈ literal, c.isDigit = true ∨ c = '-' := by
  have hwhole {digits : List Char} (hdigits : isWhole digits = true) :
      ∀ c ∈ digits, c.isDigit = true := by
    cases digits with
    | nil => cases hdigits
    | cons c digits => exact List.all_eq_true.1 (Bool.and_eq_true_iff.1 hdigits).1
  unfold isInteger at h
  split at h
  · intro c hc
    rcases List.mem_cons.1 hc with rfl | hc
    · exact .inr rfl
    · exact .inl (hwhole h c hc)
  · exact fun c hc => .inl (hwhole h c hc)

/-- A double is never written without a point or an exponent. -/
theorem mark_mem_render_real (x : Float) :
    '.' ∈ (Number.real x).render ∨ 'e' ∈ (Number.real x).render := by
  have hrender (d : Decimal.Numeral) : '.' ∈ realLayout.render d ∨ 'e' ∈ realLayout.render d := by
    simp only [Decimal.Layout.render]
    split
    · exact .inl (by simp [realLayout])
    · split
      · refine .inl ?_
        simp only [Decimal.Layout.positional]
        split
        · simp
        · split <;> simp [realLayout]
      · exact .inr (by simp [Decimal.Layout.scientific, realLayout])
  rw [Number.render, Decimal.Layout.renderBits]
  split
  · exact (hrender _).imp (List.mem_cons_of_mem '-') (List.mem_cons_of_mem '-')
  · exact hrender _

/-! ### Digits of a natural number -/

/-- The value of a digit is its distance from the zero. -/
theorem digitValue?_of_isDigit {c : Char} (h : c.isDigit = true) :
    digitValue? c = some (c.toNat - 48) := by
  simp only [Char.isDigit, Bool.and_eq_true, decide_eq_true_eq] at h
  exact if_pos ⟨h.1, h.2⟩

/-- More digits do not make a number smaller. -/
theorem le_ofDigitChars (digits : List Char) (start : Nat) :
    start ≤ Nat.ofDigitChars 10 digits start := by
  induction digits generalizing start with
  | nil => exact Nat.le_refl start
  | cons c digits ih =>
    rw [Nat.ofDigitChars_cons]
    exact Nat.le_trans (by omega) (ih _)

/-- Digits whose number fits a word are gathered to it. -/
theorem gatherWhole_digits {digits : List Char} (h : ∀ c ∈ digits, c.isDigit = true) {start : Nat}
    (hword : Nat.ofDigitChars 10 digits start < 0x10000000000000000) :
    gatherWhole ⟨start, 0⟩ digits = (⟨Nat.ofDigitChars 10 digits start, 0⟩, []) := by
  induction digits generalizing start with
  | nil => rfl
  | cons c digits ih =>
    have hvalue := digitValue?_of_isDigit (h c List.mem_cons_self)
    rw [Nat.ofDigitChars_cons, Nat.mul_comm 10 start] at hword ⊢
    have hadmits : (⟨start, 0⟩ : Gathered).admits (c.toNat - 48) = true :=
      decide_eq_true (Nat.lt_of_le_of_lt (le_ofDigitChars digits _) hword)
    simp only [gatherWhole, hvalue, hadmits, and_self, if_true]
    exact ih (fun d hd => h d (List.mem_cons_of_mem c hd)) hword

/-- The digits of a number other than zero do not start with a zero. -/
theorem head?_naturalDigits {n : Nat} (h : n ≠ 0) : (naturalDigits n).head? ≠ some '0' := by
  induction n using Nat.strongRecOn with
  | ind n ih =>
    unfold naturalDigits at ih ⊢
    rw [Nat.toDigits_eq_if (by decide)]
    split
    · simpa using h
    · have hrest := ih (n / 10) (by omega) (by omega)
      cases hdigits : Nat.toDigits 10 (n / 10) with
      | nil => exact absurd hdigits Nat.toDigits_ne_nil
      | cons c digits =>
        rw [hdigits] at hrest
        exact hrest

/-- The digits of a number that fits a word are read as it, whatever the sign is. -/
theorem readNumber_naturalDigits (negative : Bool) {n : Nat} (h : n < 0x10000000000000000) :
    readNumber negative (naturalDigits n) = finishWhole negative ⟨n, 0⟩ [] := by
  by_cases hzero : n = 0
  · subst hzero
    rfl
  · have hhead := head?_naturalDigits hzero
    have hdigits := (Decimal.isDigits_iff.1 (Decimal.isDigits_naturalDigits n)).2
    have hvalue : Nat.ofDigitChars 10 (naturalDigits n) 0 = n := Nat.ofDigitChars_ten_toDigits
    cases hcs : naturalDigits n with
    | nil => exact absurd hcs Nat.toDigits_ne_nil
    | cons c digits =>
      rw [hcs] at hhead hdigits hvalue
      have hc := hdigits c List.mem_cons_self
      have hgathered : Nat.ofDigitChars 10 digits (c.toNat - 48) = n := by
        rwa [Nat.ofDigitChars_cons, Nat.mul_zero, Nat.zero_add] at hvalue
      -- The first digit is no zero, behind which no digit may stand.
      have hleading : c.toNat - 48 ≠ 0 := by
        intro hle
        simp only [Char.isDigit, Bool.and_eq_true, decide_eq_true_eq] at hc
        have hge := UInt32.le_iff_toNat_le.1 hc.1
        refine hhead (congrArg some (Char.toNat_inj.1 ?_))
        exact Nat.le_antisymm (Nat.sub_eq_zero_iff_le.1 hle) hge
      rw [readNumber_nonzero (digitValue?_of_isDigit hc) hleading,
        gatherWhole_digits (fun d hd => hdigits d (List.mem_cons_of_mem c hd))
          (by rwa [hgathered]), hgathered]
      rfl

/-! ### Integers -/

/-- Digits that fit a word are stored exactly, with their sign. -/
theorem finishWhole_of_fits {negative : Bool} {n : Nat} {k : Int}
    (hk : k = if negative then -(n : Int) else n) (hsign : ¬(negative = true ∧ n = 0))
    (hfits : Fits k) : finishWhole negative ⟨n, 0⟩ [] = .ok (.whole k hfits, []) := by
  subst hk
  have hregular : ¬((0 : Int) ≠ 0 ∨ negative = true ∧ n = 0) := by simpa using hsign
  simp only [finishWhole, if_neg hregular, Number.ofInt?, dif_pos hfits]

/-- An integer that fits a word is written as a numeral for it. -/
theorem isNumeral_signedDigits {k : Int} (hfits : Fits k) :
    IsNumeral (.whole k hfits) (signedDigits false k) := by
  have hbounds := hfits
  unfold Fits at hbounds
  have hword : k.natAbs < 0x10000000000000000 := by omega
  by_cases hk : k < 0
  · have hvalue : k = if true then -(k.natAbs : Int) else k.natAbs := by
      rw [if_pos rfl]
      omega
    have hread := readNumber_naturalDigits true hword
    rw [finishWhole_of_fits hvalue (by omega) hfits] at hread
    rw [signedDigits, if_pos hk]
    exact hread
  · have hvalue : k = if false then -(k.natAbs : Int) else k.natAbs := by
      rw [if_neg Bool.false_ne_true]
      omega
    have hread := readNumber_naturalDigits false hword
    rw [finishWhole_of_fits hvalue (fun h => Bool.false_ne_true h.1) hfits] at hread
    -- Digits do not start with a sign, so none is read where none is written.
    have hminus : (naturalDigits k.natAbs).head? ≠ some '-' := by
      intro hhead
      have hmem := List.mem_of_mem_head? hhead
      have hdigit := (Decimal.isDigits_iff.1 (Decimal.isDigits_naturalDigits k.natAbs)).2 _ hmem
      exact absurd hdigit (by decide)
    rw [signedDigits, if_neg hk, if_neg (by decide)]
    unfold IsNumeral
    split
    · next heq => exact absurd (by rw [heq]; rfl) hminus
    · exact hread

/-- A numeral without a point and an exponent is written back as it was exactly if it is the way
that an integer is written which fits a word. -/
theorem text_eq_iff {n : Number} {literal : List Char} (hliteral : isInteger literal = true)
    (h : IsNumeral n literal) :
    n.text.toList = literal ↔ ∃ k, Fits k ∧ literal = signedDigits false k := by
  constructor
  · rintro rfl
    rw [Number.text, String.toList_ofList] at hliteral ⊢
    cases n with
    | whole k hfits => exact ⟨k, hfits, rfl⟩
    | real x =>
      rcases mark_mem_render_real x with hmark | hmark
      · exact absurd (isDigit_or_minus_of_isInteger hliteral _ hmark) (by decide)
      · exact absurd (isDigit_or_minus_of_isInteger hliteral _ hmark) (by decide)
  · rintro ⟨k, hfits, rfl⟩
    rw [h.unique (isNumeral_signedDigits hfits), Number.text, String.toList_ofList, Number.render]

end Whole

end SearchIndex.Json
