import Mathlib.Data.List.Basic
import SearchIndex.Text.Lowercase

/-!
# ASCII words in any case

The lower-case form of a letter beyond ASCII is beyond ASCII, but for the Kelvin sign, whose lower-case
form is a `k`. So only ASCII texts have an ASCII word without a `k` as their lower-case form.
-/

namespace SearchIndex.Text

/-- An ASCII character that no letter beyond ASCII has as its lower-case form. -/
def isOwnCase (c : Char) : Bool :=
  Nat.blt c.toNat 0x80 && c != 'k'

/-- The lower-case forms of the run are characters beyond ASCII, or the run is the Kelvin sign. -/
def isApart : Nat × Nat × Nat × Int → Bool
  | (low, high, _, offset) =>
    decide (0x80 ≤ low + offset ∧ high + offset < 0xD800) ||
      decide (0xDFFF < low + offset ∧ high + offset < 0x110000) ||
        decide (low = 0x212A ∧ high = 0x212A ∧ offset = -8383)

/-- All runs of lower-case forms stay apart from ASCII. -/
theorem isApart_of_mem : ∀ run ∈ lowercaseRuns, isApart run = true :=
  List.all_eq_true.1 (by decide +kernel)

/-- Beyond ASCII no character is of its own case. -/
theorem isOwnCase_ofNat {n : Nat} (hvalid : n.isValidChar) (h : 0x80 ≤ n) :
    isOwnCase (Char.ofNat n) = false := by
  have hn : (Char.ofNat n).toNat = n := by
    rw [Char.ofNat, dif_pos hvalid]
    rfl
  have hascii : Nat.blt n 0x80 = false := by
    rw [← Bool.not_eq_true, Nat.blt_eq]
    omega
  rw [isOwnCase, hn, hascii, Bool.false_and]

/-- What has a form of its own case in lower case is in ASCII. -/
theorem ascii_of_lowercaseChar {c : Char} (h : ∀ d ∈ lowercaseChar c, isOwnCase d = true) :
    c.toNat < 0x80 := by
  refine Decidable.byContradiction fun hascii => ?_
  rw [lowercaseChar, if_neg hascii] at h
  split at h
  · exact absurd (h (Char.ofNat 0x307) (by simp)) (by decide)
  · split at h
    · next low high step offset hfind =>
      have hrun := List.find?_some hfind
      have hapart := isApart_of_mem _ (List.mem_of_find?_eq_some hfind)
      have hown := h _ List.mem_cons_self
      simp only [Bool.and_eq_true, Nat.ble_eq] at hrun
      simp only [isApart, Bool.or_eq_true, decide_eq_true_eq] at hapart
      -- But for the Kelvin sign, whose form is a letter k, all runs lead beyond ASCII.
      rcases hapart with (⟨hlow, hhigh⟩ | ⟨hlow, hhigh⟩) | ⟨rfl, rfl, rfl⟩
      · rw [isOwnCase_ofNat (.inl (by omega)) (by omega)] at hown
        cases hown
      · rw [isOwnCase_ofNat (.inr (by omega)) (by omega)] at hown
        cases hown
      · have hkelvin : c.toNat = 0x212A := by omega
        rw [hkelvin] at hown
        cases hown
    · have hown := h c List.mem_cons_self
      simp only [isOwnCase, Bool.and_eq_true, Nat.blt_eq] at hown
      exact hascii hown.1

theorem ascii_of_lowercaseFrom {before cs : List Char}
    (h : ∀ d ∈ lowercaseFrom before cs, isOwnCase d = true) : ∀ c ∈ cs, c.toNat < 0x80 := by
  induction cs generalizing before with
  | nil => nofun
  | cons c cs ih =>
    rw [lowercaseFrom] at h
    split at h
    · -- Neither form of a small sigma is in ASCII.
      have hsigma := h _ List.mem_cons_self
      split at hsigma <;> exact absurd hsigma (by decide)
    · rw [List.forall_mem_append] at h
      exact List.forall_mem_cons.2 ⟨ascii_of_lowercaseChar h.1, ih h.2⟩

/-- Only capitals have a lower-case form other than themselves. -/
theorem toLower_eq_self_or (c : Char) : c.toLower = c ∨ 0x41 ≤ c.toNat ∧ c.toNat ≤ 0x5A := by
  by_cases h : c.val ≥ 'A'.val ∧ c.val ≤ 'Z'.val
  · exact .inr ⟨h.1, h.2⟩
  · exact .inl (dif_neg h)

/-- The capitals by their code points. -/
theorem isUpper_iff {c : Char} : c.isUpper = true ↔ 0x41 ≤ c.toNat ∧ c.toNat ≤ 0x5A :=
  decide_eq_true_iff

/-- The small letters by their code points. -/
theorem isLower_iff {c : Char} : c.isLower = true ↔ 0x61 ≤ c.toNat ∧ c.toNat ≤ 0x7A :=
  Bool.and_eq_true_iff.trans (and_congr decide_eq_true_iff decide_eq_true_iff)

/-- The digits by their code points. -/
theorem isDigit_iff {c : Char} : c.isDigit = true ↔ 0x30 ≤ c.toNat ∧ c.toNat ≤ 0x39 :=
  Bool.and_eq_true_iff.trans (and_congr decide_eq_true_iff decide_eq_true_iff)

/-- A letter is a capital or a small letter. -/
theorem isAlpha_iff {c : Char} : c.isAlpha = true ↔ c.isUpper = true ∨ c.isLower = true :=
  Bool.or_eq_true_iff

/-- The lower-case form of a letter only is a small letter. -/
theorem isAlpha_of_toLower {c : Char} (h : c.toLower.isLower = true) :
    c.toNat < 0x80 ∧ c.isAlpha = true := by
  rw [isAlpha_iff]
  rcases toLower_eq_self_or c with hc | hupper
  · rw [hc] at h
    exact ⟨by have := isLower_iff.1 h; omega, .inr h⟩
  · exact ⟨by omega, .inl (isUpper_iff.2 hupper)⟩

/-- A character whose lower case is in ASCII is in ASCII. -/
theorem ascii_of_toLower {c : Char} (h : c.toLower.toNat < 0x80) : c.toNat < 0x80 := by
  rcases toLower_eq_self_or c with hc | ⟨-, hhigh⟩
  · rwa [hc] at h
  · omega

/-- Such a word is the lower-case form of a text in Unicode just if it is in ASCII. -/
theorem lowercase_eq_iff {cs word : List Char} (hword : word.all isOwnCase = true) :
    lowercase (.ofList cs) = .ofList word ↔ cs.map Char.toLower = word := by
  rw [List.all_eq_true] at hword
  rw [lowercase, String.toList_ofList, String.ofList_inj]
  constructor
  · rintro rfl
    exact (lowercaseFrom_of_ascii (ascii_of_lowercaseFrom hword) []).symm
  · rintro rfl
    refine lowercaseFrom_of_ascii (fun c hc => ascii_of_toLower ?_) []
    have hown := hword _ (List.mem_map_of_mem hc)
    simp only [isOwnCase, Bool.and_eq_true, Nat.blt_eq] at hown
    exact hown.1

end SearchIndex.Text
