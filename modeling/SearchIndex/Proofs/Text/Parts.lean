import SearchIndex.Text.Pieces

/-!
# Parts of a text

Readers take the longest run of characters of a kind, or all that stands between two marks. A part
that was written between the right neighbours is found again: as the longest run
(`takeWhile_run`, `dropWhile_run`), and as a piece (`mem_pieces`). A property of joined texts is one
that texts keep when they are put behind each other (`joinWith_induction`).
-/

namespace SearchIndex.Text

/-! ## Runs -/

section Runs

variable {α : Type} {p : α → Bool} {run rest : List α}

/-- A test that fails at the end of a list, if there is one. -/
theorem eq_false_of_any_eq_false {last : Option α} (h : last.any p = false) :
    ∀ a ∈ last, p a = false := by
  rintro a rfl
  exact h

/-- The longest run of a kind, in front of something else. -/
theorem takeWhile_run (hrun : ∀ a ∈ run, p a = true) (hrest : ∀ a ∈ rest.head?, p a = false) :
    (run ++ rest).takeWhile p = run := by
  rw [List.takeWhile_append_of_pos hrun]
  cases rest with
  | nil => rw [List.takeWhile_nil, List.append_nil]
  | cons a rest =>
    have ha : p a = false := hrest a rfl
    rw [List.takeWhile_cons_of_neg (by simp [ha]), List.append_nil]

/-- What follows the longest run of a kind. -/
theorem dropWhile_run (hrun : ∀ a ∈ run, p a = true) (hrest : ∀ a ∈ rest.head?, p a = false) :
    (run ++ rest).dropWhile p = rest := by
  rw [List.dropWhile_append_of_pos hrun]
  cases rest with
  | nil => rfl
  | cons a rest =>
    have ha : p a = false := hrest a rfl
    rw [List.dropWhile_cons_of_neg (by simp [ha])]

/-- A run ends where something else stands. -/
theorem head?_dropWhile (p : α → Bool) (l : List α) : ∀ a ∈ (l.dropWhile p).head?, p a = false := by
  intro a ha
  simpa [Option.mem_def.1 ha] using List.head?_dropWhile_not p l

end Runs

/-! ## Pieces -/

section Pieces

variable {isMark : Char → Bool}

/-- What stands between two marks, or a mark and an end of the text, is a piece of it. -/
theorem mem_pieces {before piece after : List Char} (hpiece : ∀ c ∈ piece, isMark c = false)
    (hbefore : ∀ c ∈ before.getLast?, isMark c = true)
    (hafter : ∀ c ∈ after.head?, isMark c = true) :
    piece ∈ pieces isMark (before ++ piece ++ after) := by
  have hfirst : piece ∈ pieces isMark (piece ++ after) := by
    cases after with
    | nil => simp [pieces_eq_singleton hpiece]
    | cons mark after =>
      rw [pieces_append_cons (hafter mark rfl), pieces_eq_singleton hpiece]
      exact List.mem_append_left _ List.mem_cons_self
  obtain rfl | ⟨before, mark, rfl⟩ := List.eq_nil_or_concat before
  · exact hfirst
  · have hmark : isMark mark = true := hbefore mark (by simp)
    simp only [List.concat_eq_append, List.append_assoc, List.cons_append]
    rw [pieces_append_cons hmark]
    exact List.mem_append_right _ hfirst

/-- What is in a piece is in the text. -/
theorem mem_of_mem_pieces {cs piece : List Char} {c : Char} (hpiece : piece ∈ pieces isMark cs)
    (hc : c ∈ piece) : c ∈ cs := by
  induction cs generalizing piece with
  | nil =>
    obtain rfl := List.mem_singleton.1 hpiece
    exact hc
  | cons d cs ih =>
    rw [pieces] at hpiece
    split at hpiece
    · rcases List.mem_cons.1 hpiece with rfl | hpiece
      · cases hc
      · exact List.mem_cons_of_mem d (ih hpiece hc)
    · cases hcs : pieces isMark cs with
      | nil => exact absurd hcs (pieces_ne_nil isMark cs)
      | cons first more =>
        rw [hcs] at hpiece ih
        rcases List.mem_cons.1 hpiece with rfl | hpiece
        · exact (List.mem_cons.1 hc).elim (· ▸ List.mem_cons_self)
            fun hc => List.mem_cons_of_mem d (ih List.mem_cons_self hc)
        · exact List.mem_cons_of_mem d (ih (List.mem_cons_of_mem first hpiece) hc)

end Pieces

/-! ## Joins -/

/-- The characters of joined texts. -/
theorem toList_joinWith (separator : String) (texts : List String) :
    (joinWith separator texts).toList =
      separator.toList.intercalate (texts.map String.toList) := by
  induction texts with
  | nil => rfl
  | cons s rest ih =>
    cases rest with
    | nil => rw [joinWith_singleton, List.map_singleton, List.intercalate_singleton]
    | cons t rest =>
      rw [List.map_cons] at ih
      rw [joinWith_cons_cons, String.toList_append, String.toList_append, ih, List.map_cons,
        List.map_cons, List.intercalate_cons_cons]

/-- What holds of nothing, and of two texts with the separator between them if it holds of both, holds
of joined texts. -/
theorem joinWith_induction {P : String → Prop} {separator : String} {texts : List String}
    (hnil : P "") (happend : ∀ s t, P s → P t → P (s ++ (separator ++ t)))
    (h : ∀ text ∈ texts, P text) : P (joinWith separator texts) := by
  induction texts with
  | nil => exact hnil
  | cons s rest ih =>
    cases rest with
    | nil => exact h s List.mem_cons_self
    | cons t rest =>
      have hrest := ih fun text hm => h text (List.mem_cons_of_mem s hm)
      rw [joinWith_cons_cons, String.append_assoc]
      exact happend s _ (h s List.mem_cons_self) hrest

end SearchIndex.Text
