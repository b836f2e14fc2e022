import SearchIndex.Filter.Literal

/-!
# Segments of a text

A text of the grammar is cut into its string literals and the characters outside of them.
`Segment.cut` is a plain machine that reads one character after the other; it is written apart from
the scanners of the compiler, so that what is said of a compiled filter does not rest on them.

`Cuts` is the same as a relation: `cut_eq_some_iff`. It is what proofs go by induction on, since a
step of it is a whole literal, and `Cuts.append` puts texts together. The one thing to watch is a
literal in front of a quote, which would swallow it.
-/

namespace SearchIndex.Filter

/-- A literal, by the text that it stands for, or a character outside of literals. -/
inductive Segment where
  | literal (text : List Char)
  | plain (c : Char)
deriving DecidableEq, Repr

namespace Segment

/-- Cuts a text, where `inside` is what was read of a literal that is still open. There are no
segments if a literal is open at the end. -/
def cutFrom : (inside : Option (List Char)) → List Char → Option (List Segment)
  | none, [] => some []
  | some _, [] => none
  | none, c :: rest =>
    if c = '\'' then cutFrom (some []) rest else (cutFrom none rest).map (.plain c :: ·)
  | some text, '\'' :: '\'' :: rest => cutFrom (some (text ++ ['\''])) rest
  | some text, c :: rest =>
    if c = '\'' then (cutFrom none rest).map (.literal text :: ·)
    else cutFrom (some (text ++ [c])) rest

/-- The segments of a text, if its literals are closed. -/
def cut (cs : List Char) : Option (List Segment) :=
  cutFrom none cs

/-- The characters of a text without literals as segments. -/
def plains (cs : List Char) : List Segment :=
  cs.map .plain

theorem plains_append (cs ds : List Char) : plains (cs ++ ds) = plains cs ++ plains ds :=
  List.map_append

/-- The text of a literal, if the segment is one. -/
def text? : Segment → Option (List Char)
  | .literal text => some text
  | .plain _ => none

/-- The literals among the segments, in order. -/
def literals (ss : List Segment) : List (List Char) :=
  ss.filterMap text?

@[simp] theorem literals_nil : literals [] = [] := rfl

@[simp] theorem literals_cons_literal (text : List Char) (ss : List Segment) :
    literals (.literal text :: ss) = text :: literals ss := rfl

@[simp] theorem literals_cons_plain (c : Char) (ss : List Segment) :
    literals (.plain c :: ss) = literals ss := rfl

@[simp] theorem literals_append (ss ts : List Segment) :
    literals (ss ++ ts) = literals ss ++ literals ts :=
  List.filterMap_append

@[simp] theorem literals_plains (cs : List Char) : literals (plains cs) = [] := by
  simp [literals, plains, text?, List.filterMap_map, Function.comp_def]

end Segment

open Segment (cut cutFrom plains)

/-! ## Cutting as a relation -/

/-- The text is cut into the segments. A literal does not stand in front of a quote. -/
inductive Cuts : List Char → List Segment → Prop
  | nil : Cuts [] []
  | plain {c : Char} {cs : List Char} {ss : List Segment} (hc : c ≠ '\'') (h : Cuts cs ss) :
      Cuts (c :: cs) (.plain c :: ss)
  | literal (text : List Char) {cs : List Char} {ss : List Segment}
      (hcs : cs.head? ≠ some '\'') (h : Cuts cs ss) :
      Cuts (Literal.quote text ++ cs) (.literal text :: ss)

namespace Cuts

variable {cs ds : List Char} {ss ts : List Segment}

/-- What follows does not change how a text is cut, unless a quote comes right behind it. -/
theorem append (hc : Cuts cs ss) (hd : Cuts ds ts) (h : ds.head? ≠ some '\'') :
    Cuts (cs ++ ds) (ss ++ ts) := by
  induction hc with
  | nil => exact hd
  | plain hc _ ih => exact .plain hc ih
  | @literal text cs ss hcs _ ih =>
    rw [List.append_assoc, List.cons_append]
    refine .literal text ?_ ih
    cases cs with
    | nil => exact h
    | cons c cs => exact hcs

theorem plains_append (h : '\'' ∉ cs) (hd : Cuts ds ts) : Cuts (cs ++ ds) (plains cs ++ ts) := by
  induction cs with
  | nil => exact hd
  | cons c cs ih =>
    refine .plain ?_ (ih fun hm => h (List.mem_cons_of_mem c hm))
    rintro rfl
    exact h List.mem_cons_self

/-- Texts without a quote are cut into their characters. -/
theorem ofPlain (h : '\'' ∉ cs) : Cuts cs (plains cs) := by
  have hcuts := plains_append h .nil
  rwa [List.append_nil, List.append_nil] at hcuts

/-- A quoted text is one literal. -/
theorem quote (text : List Char) : Cuts (Literal.quote text) [.literal text] := by
  have h : Cuts (Literal.quote text ++ []) [.literal text] := .literal text nofun .nil
  rwa [List.append_nil] at h

/-- Only the empty text has no segments. -/
theorem eq_nil_iff (hcuts : Cuts cs ss) : cs = [] ↔ ss = [] := by
  cases hcuts <;> simp [Literal.quote]

/-- A character at the beginning of the segments is one at the beginning of the text. -/
theorem mem_head? {c : Char} (hcuts : Cuts cs ss) (h : .plain c ∈ ss.head?) : c ∈ cs.head? := by
  cases hcuts with
  | nil => cases h
  | plain _ _ =>
    cases h
    rfl
  | literal text _ _ => cases h

/-- A character at the end of the segments is one at the end of the text. -/
theorem mem_getLast? {c : Char} (hcuts : Cuts cs ss) (h : .plain c ∈ ss.getLast?) :
    c ∈ cs.getLast? := by
  induction hcuts with
  | nil => cases h
  | @plain d cs ss _ hcuts ih =>
    by_cases hnil : cs = []
    · obtain rfl := hcuts.eq_nil_iff.1 hnil
      subst hnil
      obtain rfl : d = c := by simpa using h
      rfl
    · rw [List.getLast?_cons_of_ne_nil (hnil ∘ hcuts.eq_nil_iff.2)] at h
      rw [List.getLast?_cons_of_ne_nil hnil]
      exact ih h
  | @literal text cs ss _ hcuts ih =>
    by_cases hnil : cs = []
    · obtain rfl := hcuts.eq_nil_iff.1 hnil
      simp at h
    · rw [List.getLast?_cons_of_ne_nil (hnil ∘ hcuts.eq_nil_iff.2)] at h
      have hlast := ih h
      rw [List.getLast?_append, Option.mem_def.1 hlast]
      rfl

end Cuts

/-! ## The machine and the relation -/

/-- Outside of a literal a character is a segment. -/
theorem cutFrom_none_cons {c : Char} (hc : c ≠ '\'') (cs : List Char) :
    cutFrom none (c :: cs) = (cutFrom none cs).map (.plain c :: ·) := by
  simp only [cutFrom, hc, if_false]

/-- Inside of a literal a character belongs to its text. -/
theorem cutFrom_some_cons {c : Char} (hc : c ≠ '\'') (text cs : List Char) :
    cutFrom (some text) (c :: cs) = cutFrom (some (text ++ [c])) cs := by
  rw [cutFrom]
  · simp only [hc, if_false]
  · exact fun _ h _ => hc h

/-- A quote that no other quote follows ends a literal. -/
theorem cutFrom_some_quote {cs : List Char} (hcs : cs.head? ≠ some '\'') (text : List Char) :
    cutFrom (some text) ('\'' :: cs) = (cutFrom none cs).map (.literal text :: ·) := by
  rw [cutFrom]
  · simp only [if_true]
  · exact fun _ _ h => hcs (by rw [h]; rfl)

/-- Inside a literal, the machine reads the rest of it and closes it. -/
theorem cutFrom_escape (read text cs : List Char) (hcs : cs.head? ≠ some '\'') :
    cutFrom (some read) (Literal.escape text ++ '\'' :: cs) =
      (cutFrom none cs).map (.literal (read ++ text) :: ·) := by
  induction text generalizing read with
  | nil => rw [Literal.escape, List.nil_append, cutFrom_some_quote hcs, List.append_nil]
  | cons c text ih =>
    by_cases hc : c = '\''
    · subst hc
      simp only [Literal.escape, if_true, List.cons_append, cutFrom, ih, List.append_assoc,
        List.nil_append]
    · simp only [Literal.escape, hc, if_false, List.cons_append, cutFrom_some_cons hc, ih,
        List.append_assoc, List.nil_append]

/-- What can be cut is cut so. -/
theorem cut_of_cuts {cs : List Char} {ss : List Segment} (h : Cuts cs ss) : cut cs = some ss := by
  induction h with
  | nil => rfl
  | plain hc _ ih =>
    rw [cut] at ih ⊢
    rw [cutFrom_none_cons hc, ih, Option.map_some]
  | literal text hcs _ ih =>
    rw [cut] at ih ⊢
    rw [Literal.quote, List.append_assoc, List.cons_append, List.singleton_append]
    simp only [cutFrom, if_true]
    rw [cutFrom_escape [] text _ hcs, ih, Option.map_some, List.nil_append]

/-- What the machine finds, from where it stands: outside, the segments of the text; inside, the
rest of the open literal and the segments of what follows it. -/
private def Finds (inside : Option (List Char)) (cs : List Char) (ss : List Segment) : Prop :=
  match inside with
  | none => Cuts cs ss
  | some read => ∃ text rest ts, cs = Literal.escape text ++ '\'' :: rest ∧
      rest.head? ≠ some '\'' ∧ ss = .literal (read ++ text) :: ts ∧ Cuts rest ts

/-- What is cut from inside or outside of a literal is found there. -/
private theorem finds_of_cutFrom {inside : Option (List Char)} {cs : List Char}
    {ss : List Segment} (h : cutFrom inside cs = some ss) : Finds inside cs ss := by
  fun_induction cutFrom inside cs generalizing ss with
  | case1 => cases h; exact .nil
  | case2 => cases h
  | case3 rest ih =>
    obtain ⟨text, after, ts, rfl, hafter, rfl, hts⟩ := ih h
    have hcuts : Cuts (Literal.quote text ++ after) (.literal text :: ts) :=
      .literal text hafter hts
    show Cuts _ _
    simpa only [Literal.quote, List.append_assoc, List.cons_append, List.nil_append] using hcuts
  | case4 c rest hc ih =>
    obtain ⟨ts, hts, rfl⟩ := Option.map_eq_some_iff.1 h
    exact .plain hc (ih hts)
  | case5 read rest ih =>
    obtain ⟨text, after, ts, rfl, hafter, rfl, hts⟩ := ih h
    -- Two quotes within a literal stand for one, which is read as part of its text.
    refine ⟨'\'' :: text, after, ts, ?_, hafter, ?_, hts⟩
    · simp only [Literal.escape, if_true, List.cons_append]
    · rw [List.append_assoc, List.singleton_append]
  | case6 read rest hne ih =>
    obtain ⟨ts, hts, rfl⟩ := Option.map_eq_some_iff.1 h
    refine ⟨[], rest, ts, rfl, ?_, by rw [List.append_nil], ih hts⟩
    cases rest with
    | nil => rintro ⟨⟩
    | cons d rest =>
      intro hd
      obtain rfl : d = '\'' := by simpa using hd
      exact hne rest rfl rfl
  | case7 read c rest _ hc ih =>
    obtain ⟨text, after, ts, rfl, hafter, rfl, hts⟩ := ih h
    refine ⟨c :: text, after, ts, ?_, hafter, ?_, hts⟩
    · simp only [Literal.escape, hc, if_false, List.cons_append]
    · rw [List.append_assoc, List.singleton_append]

/-- The cut of a text is the only way to cut it. -/
theorem cut_eq_some_iff {cs : List Char} {ss : List Segment} : cut cs = some ss ↔ Cuts cs ss :=
  ⟨finds_of_cutFrom, cut_of_cuts⟩

/-- A text is cut in one way at most. -/
theorem Cuts.unique {cs : List Char} {ss ts : List Segment} (hs : Cuts cs ss) (ht : Cuts cs ts) :
    ss = ts :=
  Option.some_inj.1 ((cut_of_cuts hs).symm.trans (cut_of_cuts ht))

end SearchIndex.Filter
