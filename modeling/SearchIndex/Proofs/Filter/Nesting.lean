import Mathlib.Data.List.Basic
import SearchIndex.Filter.RawText
import SearchIndex.Proofs.Filter.Segment

/-!
# Parentheses and words

What stands outside the literals of a text: how deep in parentheses each place is, and which words
there are. `Sealed` texts close their parentheses and have no `or` outside of them, so they stay one
condition of any conjunction that they are put into.

Sealed texts can be put in a row, as long as no word runs over the seam (`Sealed.append`), and a text
with closed parentheses is sealed by parentheses of its own (`sealed_enclosed`).
-/

namespace SearchIndex.Filter

namespace Segment

/-! ## Depth -/

/-- The depth behind a segment; there is none if it closes a parenthesis that is not open. -/
def nest (depth : Nat) : Segment → Option Nat
  | .literal _ => some depth
  | .plain c =>
    if c = '(' then some (depth + 1)
    else if c = ')' then if depth = 0 then none else some (depth - 1)
    else some depth

/-- The depth behind segments that start at a depth. -/
def depthFrom (depth : Nat) (ss : List Segment) : Option Nat :=
  ss.foldlM nest depth

@[simp] theorem depthFrom_nil (depth : Nat) : depthFrom depth [] = some depth := rfl

theorem depthFrom_cons (depth : Nat) (s : Segment) (ss : List Segment) :
    depthFrom depth (s :: ss) = (nest depth s).bind fun d => depthFrom d ss := rfl

/-- The depth behind two parts is that behind the second, from the depth behind the first. -/
theorem depthFrom_append (depth : Nat) (ss ts : List Segment) :
    depthFrom depth (ss ++ ts) = (depthFrom depth ss).bind fun d => depthFrom d ts :=
  List.foldlM_append

/-- A segment changes the depth by the same amount with more parentheses around it. -/
theorem nest_add {d e : Nat} {s : Segment} (h : nest d s = some e) (k : Nat) :
    nest (d + k) s = some (e + k) := by
  cases s with
  | literal text =>
    cases h
    rfl
  | plain c =>
    simp only [nest] at h ⊢
    split_ifs at h ⊢ with h1 h2 h3
    all_goals simp only [Option.some.injEq] at h ⊢
    all_goals omega

/-- Starting deeper, one is deeper all along. -/
theorem depthFrom_add {d e : Nat} {ss : List Segment} (h : depthFrom d ss = some e) (k : Nat) :
    depthFrom (d + k) ss = some (e + k) := by
  induction ss generalizing d with
  | nil =>
    cases h
    rfl
  | cons s ss ih =>
    rw [depthFrom_cons] at h ⊢
    obtain ⟨f, hf, h⟩ := Option.bind_eq_some_iff.1 h
    rw [nest_add hf k]
    exact ih h

/-- The depth of a text without parentheses does not change. -/
theorem depthFrom_plains {cs : List Char} (hopen : '(' ∉ cs) (hclose : ')' ∉ cs) (depth : Nat) :
    depthFrom depth (plains cs) = some depth := by
  induction cs with
  | nil => rfl
  | cons c cs ih =>
    simp only [List.mem_cons, not_or] at hopen hclose
    show (nest depth (.plain c)).bind _ = _
    rw [nest, if_neg (Ne.symm hopen.1), if_neg (Ne.symm hclose.1)]
    exact ih hopen.2 hclose.2

/-! ## Words -/

/-- The segment is a character of a name. -/
def inName : Segment → Bool
  | .literal _ => false
  | .plain c => RawText.inName c

/-- Between the segments before and after it stands a word, a longest run of characters of names. -/
structure IsWord (before : List Segment) (word : List Char) (after : List Segment) : Prop where
  nonempty : word ≠ []
  inName : ∀ c ∈ word, RawText.inName c = true
  starts : ∀ s ∈ before.getLast?, s.inName = false
  ends : ∀ s ∈ after.head?, s.inName = false

/-- One of the words outside of literals and parentheses is an `or`. -/
def HasTopLevelOr (ss : List Segment) : Prop :=
  ∃ before word after, ss = before ++ plains word ++ after ∧ IsWord before word after ∧
    depthFrom 0 before = some 0 ∧ RawText.isOr word = true

/-- The parentheses are closed, and there is no `or` outside of them. -/
def Sealed (ss : List Segment) : Prop :=
  depthFrom 0 ss = some 0 ∧ ¬ HasTopLevelOr ss

/-- A word of a text in two parts is a word of one of the parts, unless it runs over the seam. -/
theorem hasTopLevelOr_append {ss ts : List Segment} (hdepth : depthFrom 0 ss = some 0)
    (hseam : (∀ s ∈ ss.getLast?, s.inName = false) ∨ ∀ t ∈ ts.head?, t.inName = false)
    (h : HasTopLevelOr (ss ++ ts)) : HasTopLevelOr ss ∨ HasTopLevelOr ts := by
  obtain ⟨before, word, after, heq, hword, hbefore, hor⟩ := h
  rw [List.append_assoc, List.append_eq_append_iff] at heq
  obtain ⟨more, rfl, rfl⟩ | ⟨more, rfl, heq⟩ := heq
  · -- The word stands in the second part.
    rw [depthFrom_append, hdepth] at hbefore
    refine .inr ⟨more, word, after, (List.append_assoc ..).symm, ?_, hbefore, hor⟩
    refine ⟨hword.nonempty, hword.inName, fun s hs => hword.starts s ?_, hword.ends⟩
    rw [List.getLast?_append, Option.mem_def.1 hs]
    rfl
  · rw [List.append_eq_append_iff] at heq
    obtain ⟨rest, rfl, rfl⟩ | ⟨rest, heq, rfl⟩ := heq
    · -- The word stands in the first part.
      refine .inl ⟨before, word, rest, (List.append_assoc ..).symm, ?_, hbefore, hor⟩
      refine ⟨hword.nonempty, hword.inName, hword.starts, fun s hs => hword.ends s ?_⟩
      rw [List.head?_append, Option.mem_def.1 hs]
      rfl
    · obtain ⟨left, right, rfl, rfl, rfl⟩ := List.map_eq_append_iff.1 heq
      cases right with
      | nil =>
        refine .inl ⟨before, left, [], by simp [plains], ?_, hbefore, by simpa using hor⟩
        refine ⟨by simpa using hword.nonempty, by simpa using hword.inName, hword.starts, ?_⟩
        rintro _ ⟨⟩
      | cons d right =>
        have hd := hword.inName d (List.mem_append_right left List.mem_cons_self)
        obtain rfl | ⟨left, c, rfl⟩ := List.eq_nil_or_concat left
        · refine .inr ⟨[], d :: right, after, rfl, ?_, rfl, hor⟩
          refine ⟨hword.nonempty, hword.inName, ?_, hword.ends⟩
          rintro _ ⟨⟩
        · -- A word over the seam would have a character of names on both sides of it.
          have hc := hword.inName c (by simp)
          rcases hseam with hseam | hseam
          · have := hseam (.plain c) (by simp)
            rw [Segment.inName, hc] at this
            cases this
          · have := hseam (.plain d) (by simp)
            rw [Segment.inName, hd] at this
            cases this

/-- A text without one of the letters has no `or`. -/
theorem not_hasTopLevelOr_plains {cs : List Char}
    (h : 'o' ∉ cs.map Char.toLower ∨ 'r' ∉ cs.map Char.toLower) :
    ¬ HasTopLevelOr (plains cs) := by
  rintro ⟨before, word, after, heq, -, -, hor⟩
  have hsub : ∀ c ∈ word, c ∈ cs := by
    intro c hc
    have hm : Segment.plain c ∈ plains cs := by
      rw [heq]
      simp [plains, hc]
    simpa [plains] using hm
  have hletters : word.map Char.toLower = ['o', 'r'] := by simpa [RawText.isOr] using hor
  have hmem : ∀ d ∈ ['o', 'r'], d ∈ cs.map Char.toLower := by
    intro d hd
    rw [← hletters] at hd
    exact List.map_subset _ hsub hd
  exact h.elim (fun h => h (hmem 'o' (by simp))) (fun h => h (hmem 'r' (by simp)))

/-! ## Sealed texts -/

theorem sealed_nil : Sealed [] := by
  have hor : ¬ HasTopLevelOr (plains []) := not_hasTopLevelOr_plains (.inl nofun)
  exact ⟨rfl, hor⟩

/-- A literal is sealed, whatever is in it. -/
theorem sealed_literal (text : List Char) : Sealed [.literal text] := by
  refine ⟨rfl, ?_⟩
  rintro ⟨before, word, after, heq, hword, -, -⟩
  obtain ⟨c, word, rfl⟩ := List.exists_cons_of_ne_nil hword.nonempty
  have hm : Segment.plain c ∈ [Segment.literal text] := by simp [heq, plains]
  simp at hm

/-- Characters without parentheses are sealed if they lack a letter of `or`. -/
theorem sealed_plains {cs : List Char} (hopen : '(' ∉ cs) (hclose : ')' ∉ cs)
    (h : 'o' ∉ cs.map Char.toLower ∨ 'r' ∉ cs.map Char.toLower) : Sealed (plains cs) :=
  ⟨depthFrom_plains hopen hclose 0, not_hasTopLevelOr_plains h⟩

/-- Sealed parts make one, unless two of their names meet. -/
theorem Sealed.append {ss ts : List Segment} (hs : Sealed ss) (ht : Sealed ts)
    (hseam : (∀ s ∈ ss.getLast?, s.inName = false) ∨ ∀ t ∈ ts.head?, t.inName = false) :
    Sealed (ss ++ ts) := by
  refine ⟨?_, fun h => ?_⟩
  · rw [depthFrom_append, hs.1]
    exact ht.1
  · exact (hasTopLevelOr_append hs.1 hseam h).elim hs.2 ht.2

/-- Characters that do not go on with a word may follow. -/
theorem Sealed.append_plains {ss : List Segment} {cs : List Char} (hs : Sealed ss)
    (hc : Sealed (plains cs)) (hseam : ∀ c ∈ cs.head?, RawText.inName c = false) :
    Sealed (ss ++ plains cs) := by
  refine hs.append hc (.inr fun t ht => ?_)
  obtain ⟨c, hc, rfl⟩ := Option.map_eq_some_iff.1 (List.head?_map.symm.trans (Option.mem_def.1 ht))
  exact hseam c hc

/-- Anything sealed may follow characters that do not end in a word. -/
theorem Sealed.plains_append {cs : List Char} {ts : List Segment} (hc : Sealed (plains cs))
    (ht : Sealed ts) (hseam : ∀ c ∈ cs.getLast?, RawText.inName c = false) :
    Sealed (plains cs ++ ts) := by
  refine hc.append ht (.inl fun s hs => ?_)
  obtain ⟨c, hc, rfl⟩ :=
    Option.map_eq_some_iff.1 (List.getLast?_map.symm.trans (Option.mem_def.1 hs))
  exact hseam c hc

/-- Inside of parentheses that are not closed again, no place is outside. -/
theorem sealed_enclosed {ss : List Segment} (h : depthFrom 0 ss = some 0) :
    Sealed (.plain '(' :: ss ++ [.plain ')']) := by
  have hinner : depthFrom 1 ss = some 1 := depthFrom_add h 1
  refine ⟨?_, ?_⟩
  · rw [List.cons_append, depthFrom_cons]
    show depthFrom 1 (ss ++ [.plain ')']) = some 0
    rw [depthFrom_append, hinner]
    rfl
  · rintro ⟨before, word, after, heq, hword, hbefore, -⟩
    obtain ⟨c, word, rfl⟩ := List.exists_cons_of_ne_nil hword.nonempty
    have hc := hword.inName c List.mem_cons_self
    cases before with
    | nil =>
      obtain ⟨rfl, -⟩ : '(' = c ∧ _ := by simpa [plains] using heq
      exact absurd hc (by decide)
    | cons b before =>
      simp only [List.cons_append, List.cons.injEq] at heq
      obtain ⟨rfl, heq⟩ := heq
      have hdepth : depthFrom 1 before = some 0 := hbefore
      -- What stands before the word is a beginning of what the parentheses enclose.
      rw [List.append_assoc, List.append_eq_append_iff] at heq
      obtain ⟨more, rfl, heq⟩ | ⟨more, rfl, -⟩ := heq
      · cases more with
        | nil =>
          rw [List.append_nil, hinner] at hdepth
          cases hdepth
        | cons m more => simp [plains] at heq
      · rw [depthFrom_append] at h
        obtain ⟨k, hk, -⟩ := Option.bind_eq_some_iff.1 h
        rw [depthFrom_add hk 1] at hdepth
        cases hdepth

/-- A name may stand in front of the parentheses. -/
theorem sealed_call {name : List Char} {ss : List Segment} (hname : Sealed (plains name))
    (h : depthFrom 0 ss = some 0) : Sealed (plains name ++ (.plain '(' :: ss ++ [.plain ')'])) := by
  refine hname.append (sealed_enclosed h) (.inr fun t ht => ?_)
  obtain rfl : t = .plain '(' := by simpa using ht.symm
  decide

end Segment

end SearchIndex.Filter
