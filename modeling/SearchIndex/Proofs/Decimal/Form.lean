import SearchIndex.Json.Number
import SearchIndex.Proofs.Text.Parts

/-!
# The form of written numbers

A number is written as digits, with a minus in front if it is negative, and perhaps a fraction and
an exponent behind. `isNumber` reads that form, and every JSON number is written in it:
`isNumber_render`.
-/

namespace SearchIndex.Decimal

open Text (takeWhile_run dropWhile_run)

/-! ## The form -/

/-- Digits, at least one. -/
def isDigits (cs : List Char) : Bool :=
  !cs.isEmpty && cs.all Char.isDigit

/-- Nothing, or an exponent. -/
def isExponent : List Char → Bool
  | [] => true
  | 'e' :: '+' :: digits => isDigits digits
  | 'e' :: '-' :: digits => isDigits digits
  | 'e' :: digits => isDigits digits
  | _ => false

/-- A fraction, if there is one, and an exponent, if there is one. -/
def isFraction : List Char → Bool
  | '.' :: cs => isDigits (cs.takeWhile Char.isDigit) && isExponent (cs.dropWhile Char.isDigit)
  | cs => isExponent cs

/-- A number without a sign. -/
def isUnsigned (cs : List Char) : Bool :=
  isDigits (cs.takeWhile Char.isDigit) && isFraction (cs.dropWhile Char.isDigit)

/-- A number. -/
def isNumber : List Char → Bool
  | '-' :: cs => isUnsigned cs
  | cs => isUnsigned cs

/-- The characters of numbers. -/
def inNumber (c : Char) : Bool :=
  c.isDigit || c == '-' || c == '+' || c == '.' || c == 'e'

/-! ## Parts of numbers -/

/-- A run of digits is not empty and has nothing but digits. -/
theorem isDigits_iff {cs : List Char} :
    isDigits cs = true ↔ cs ≠ [] ∧ ∀ c ∈ cs, c.isDigit = true := by
  simp [isDigits]

/-- A natural number is written as a run of digits. -/
theorem isDigits_naturalDigits (n : Nat) : isDigits (naturalDigits n) = true :=
  isDigits_iff.2 ⟨Nat.toDigits_ne_nil, fun _ hc => Nat.isDigit_of_mem_toDigits (by decide)
    (by decide) hc⟩

theorem isDigits_zero : isDigits ['0'] = true := rfl

/-- More digits behind a run make a run. -/
theorem isDigits_append {cs ds : List Char} (hc : isDigits cs = true)
    (hd : ∀ d ∈ ds, d.isDigit = true) : isDigits (cs ++ ds) = true := by
  obtain ⟨hne, hall⟩ := isDigits_iff.1 hc
  refine isDigits_iff.2 ⟨by simp [hne], fun c hm => ?_⟩
  exact (List.mem_append.1 hm).elim (hall c) (hd c)

/-- An exponent is written as its mark with an integer behind it. -/
theorem isExponent_signedDigits (plusSign : Bool) (n : Int) :
    isExponent ('e' :: signedDigits plusSign n) = true := by
  have hdigits := isDigits_naturalDigits n.natAbs
  simp only [signedDigits]
  split
  · exact hdigits
  · split
    · exact hdigits
    · obtain ⟨hne, hall⟩ := isDigits_iff.1 hdigits
      match h : naturalDigits n.natAbs with
      | [] => exact absurd h hne
      | d :: digits =>
        rw [h] at hdigits hall
        have hd : d.isDigit = true := hall d List.mem_cons_self
        rw [isExponent]
        · exact hdigits
        · intro rest hplus
          cases hplus
          exact absurd hd (by decide)
        · intro rest hminus
          cases hminus
          exact absurd hd (by decide)

/-- Digits in front of a fraction or an exponent are a number. -/
theorem isUnsigned_append {digits rest : List Char} (hd : isDigits digits = true)
    (hr : isFraction rest = true) (hstop : ∀ c ∈ rest.head?, c.isDigit = false) :
    isUnsigned (digits ++ rest) = true := by
  obtain ⟨-, hall⟩ := isDigits_iff.1 hd
  rw [isUnsigned, takeWhile_run hall hstop, dropWhile_run hall hstop, hd, hr]
  rfl

/-- A point with digits behind it is a fraction, also before an exponent. -/
theorem isFraction_point {digits rest : List Char} (hd : isDigits digits = true)
    (hr : isExponent rest = true) (hstop : ∀ c ∈ rest.head?, c.isDigit = false) :
    isFraction ('.' :: digits ++ rest) = true := by
  obtain ⟨-, hall⟩ := isDigits_iff.1 hd
  rw [List.cons_append, isFraction, takeWhile_run hall hstop, dropWhile_run hall hstop, hd, hr]
  rfl

/-- Digits with a point between them are a number without a sign. -/
theorem isUnsigned_point {digits fraction : List Char} (hd : isDigits digits = true)
    (hf : isDigits fraction = true) : isUnsigned (digits ++ '.' :: fraction) = true := by
  refine isUnsigned_append hd ?_ (by simp)
  have h := isFraction_point hf (show isExponent [] = true from rfl) nofun
  rwa [List.append_nil] at h

theorem isUnsigned_of_isDigits {digits : List Char} (hd : isDigits digits = true) :
    isUnsigned digits = true := by
  have h := isUnsigned_append hd (show isFraction [] = true from rfl) nofun
  rwa [List.append_nil] at h

/-! ## Layouts -/

/-- Digits in positional layout are a number without a sign, wherever the point is. -/
theorem isUnsigned_positional {digits : List Char} (hd : isDigits digits = true) (point : Int) :
    isUnsigned (Json.realLayout.positional digits point) = true := by
  obtain ⟨hne, hall⟩ := isDigits_iff.1 hd
  have hzeros : ∀ k, ∀ c ∈ List.replicate k '0', c.isDigit = true := by
    intro k c hc
    rw [List.eq_of_mem_replicate hc]
    rfl
  simp only [Layout.positional]
  split
  · have hfraction : isDigits (List.replicate (-point).toNat '0' ++ digits) = true := by
      refine isDigits_iff.2 ⟨by simp [hne], fun c hc => ?_⟩
      exact (List.mem_append.1 hc).elim (hzeros _ c) (hall c)
    exact isUnsigned_point isDigits_zero hfraction
  · split
    · exact isUnsigned_point (isDigits_append hd (hzeros _)) isDigits_zero
    · next hpoint hlength =>
      -- The point stands behind the first digit and before the last one.
      have hleft : isDigits (digits.take point.toNat) = true := by
        refine isDigits_iff.2 ⟨?_, fun c hc => hall c (List.mem_of_mem_take hc)⟩
        simp only [ne_eq, List.take_eq_nil_iff, hne, or_false]
        omega
      have hright : isDigits (digits.drop point.toNat) = true := by
        refine isDigits_iff.2 ⟨?_, fun c hc => hall c (List.mem_of_mem_drop hc)⟩
        simpa [List.drop_eq_nil_iff] using hlength
      exact isUnsigned_point hleft hright

/-- Digits in scientific layout are one, whatever the power. -/
theorem isUnsigned_scientific {digits : List Char} (hd : isDigits digits = true) (power : Int) :
    isUnsigned (Json.realLayout.scientific digits power) = true := by
  obtain ⟨hne, hall⟩ := isDigits_iff.1 hd
  have hexponent := isExponent_signedDigits true power
  match digits with
  | [] => exact absurd rfl hne
  | [d] =>
    show isUnsigned ([d] ++ 'e' :: signedDigits true power) = true
    exact isUnsigned_append hd hexponent (by simp)
  | d :: e :: rest =>
    show isUnsigned ([d] ++ ('.' :: (e :: rest) ++ 'e' :: signedDigits true power)) = true
    have hfirst : isDigits [d] = true :=
      isDigits_iff.2 ⟨List.cons_ne_nil d [], fun c hc => hall c (by simp_all)⟩
    have hmore : isDigits (e :: rest) = true :=
      isDigits_iff.2 ⟨List.cons_ne_nil e rest, fun c hc => hall c (List.mem_cons_of_mem d hc)⟩
    exact isUnsigned_append hfirst (isFraction_point hmore hexponent (by simp)) (by simp)

/-- A numeral is written as a number without a sign in either layout. -/
theorem isUnsigned_render (d : Numeral) : isUnsigned (Json.realLayout.render d) = true := by
  have hdigits := isDigits_naturalDigits d.digits
  simp only [Layout.render]
  split
  · exact isUnsigned_point isDigits_zero isDigits_zero
  · split
    · exact isUnsigned_positional hdigits _
    · exact isUnsigned_scientific hdigits _

/-- Digits do not start with a minus. -/
theorem isNumber_of_isUnsigned {cs : List Char} (h : isUnsigned cs = true) :
    isNumber cs = true := by
  rw [isNumber]
  · exact h
  · rintro rest rfl
    exact absurd h (by simp [isUnsigned, isDigits])

/-! ## Characters of numbers -/

/-- Digits stand in numbers. -/
theorem inNumber_of_isDigit {c : Char} (h : c.isDigit = true) : inNumber c = true := by
  simp only [inNumber, h, Bool.true_or]

/-- Numbers are written in lower case. -/
theorem toLower_of_inNumber {c : Char} (h : inNumber c = true) : c.toLower = c := by
  simp only [inNumber, Bool.or_eq_true, beq_iff_eq] at h
  rcases h with (((hdigit | rfl) | rfl) | rfl) | rfl
  · refine dif_neg ?_
    simp only [Char.isDigit, Bool.and_eq_true, decide_eq_true_eq] at hdigit
    have hle := UInt32.le_iff_toNat_le.1 hdigit.2
    intro hupper
    have hge := UInt32.le_iff_toNat_le.1 hupper.1
    simp at hle hge
    omega
  all_goals decide

/-- All characters of an exponent stand in numbers. -/
theorem inNumber_of_isExponent {cs : List Char} (h : isExponent cs = true) :
    ∀ c ∈ cs, inNumber c = true := by
  have hdigits {ds : List Char} (hd : isDigits ds = true) : ∀ c ∈ ds, inNumber c = true :=
    fun c hc => inNumber_of_isDigit ((isDigits_iff.1 hd).2 c hc)
  intro c hc
  unfold isExponent at h
  split at h
  · cases hc
  · next ds =>
    simp only [List.mem_cons] at hc
    rcases hc with rfl | rfl | hc
    · rfl
    · rfl
    · exact hdigits h c hc
  · next ds =>
    simp only [List.mem_cons] at hc
    rcases hc with rfl | rfl | hc
    · rfl
    · rfl
    · exact hdigits h c hc
  · next ds _ _ =>
    rcases List.mem_cons.1 hc with rfl | hc
    · rfl
    · exact hdigits h c hc
  · exact absurd h Bool.false_ne_true

/-- A run of digits and what follows it. -/
private theorem inNumber_of_run {cs : List Char}
    (h : ∀ c ∈ cs.dropWhile Char.isDigit, inNumber c = true) : ∀ c ∈ cs, inNumber c = true := by
  intro c hc
  rw [← List.takeWhile_append_dropWhile (p := Char.isDigit) (l := cs)] at hc
  rcases List.mem_append.1 hc with hc | hc
  · exact inNumber_of_isDigit (List.all_eq_true.1 List.all_takeWhile c hc)
  · exact h c hc

/-- All characters of a number without a sign stand in numbers. -/
theorem inNumber_of_isUnsigned {cs : List Char} (h : isUnsigned cs = true) :
    ∀ c ∈ cs, inNumber c = true := by
  refine inNumber_of_run ?_
  have hrest := (Bool.and_eq_true_iff.1 h).2
  generalize cs.dropWhile Char.isDigit = rest at hrest ⊢
  unfold isFraction at hrest
  split at hrest
  · next fraction =>
    intro c hc
    rcases List.mem_cons.1 hc with rfl | hc
    · rfl
    · have hexponent := (Bool.and_eq_true_iff.1 hrest).2
      exact inNumber_of_run (inNumber_of_isExponent hexponent) c hc
  · exact inNumber_of_isExponent hrest

/-- A number has the characters of numbers only. -/
theorem inNumber_of_isNumber {cs : List Char} (h : isNumber cs = true) :
    ∀ c ∈ cs, inNumber c = true := by
  unfold isNumber at h
  split at h
  · intro c hc
    rcases List.mem_cons.1 hc with rfl | hc
    · rfl
    · exact inNumber_of_isUnsigned h c hc
  · exact inNumber_of_isUnsigned h

end SearchIndex.Decimal

namespace SearchIndex.Json

open Decimal

/-- Every number is written in the form of numbers. -/
theorem Number.isNumber_render (n : Number) : isNumber n.render = true := by
  cases n with
  | whole value fits =>
    have hdigits := isUnsigned_of_isDigits (isDigits_naturalDigits value.natAbs)
    simp only [Number.render, signedDigits, Bool.false_eq_true, if_false]
    split
    · exact hdigits
    · exact isNumber_of_isUnsigned hdigits
  | real value =>
    simp only [Number.render, Layout.renderBits]
    split
    · exact isUnsigned_render _
    · exact isNumber_of_isUnsigned (isUnsigned_render _)

/-- The text of a number has characters of numbers only. -/
theorem Number.inNumber_of_mem_text (n : Number) : ∀ c ∈ n.text.toList, inNumber c = true := by
  rw [Number.text, String.toList_ofList]
  exact inNumber_of_isNumber n.isNumber_render

end SearchIndex.Json
