/-!
# Pieces of a text

Texts are joined with a separator between neighbours. Marks part a text into pieces: one more than
there are marks, of which some may be empty.
-/

namespace SearchIndex.Text

/-! ## Joined texts -/

/-- Texts with a separator between neighbours. -/
def joinWith (separator : String) : List String → String
  | [] => ""
  | [s] => s
  | s :: t :: rest => s ++ separator ++ joinWith separator (t :: rest)

@[simp] theorem joinWith_nil (separator : String) : joinWith separator [] = "" := rfl

@[simp] theorem joinWith_singleton (separator s : String) : joinWith separator [s] = s := rfl

theorem joinWith_cons_cons (separator s t : String) (rest : List String) :
    joinWith separator (s :: t :: rest) = s ++ separator ++ joinWith separator (t :: rest) := rfl

/-! ## Pieces -/

/-- The pieces of a text between its marks. -/
def pieces (isMark : Char → Bool) : List Char → List (List Char)
  | [] => [[]]
  | c :: rest =>
    if isMark c then [] :: pieces isMark rest
    else
      match pieces isMark rest with
      | [] => [[c]]
      | piece :: more => (c :: piece) :: more

/-- There is always a piece. -/
theorem pieces_ne_nil (isMark : Char → Bool) (cs : List Char) : pieces isMark cs ≠ [] := by
  cases cs with
  | nil => simp [pieces]
  | cons c cs =>
    simp only [pieces]
    split
    · simp
    · split <;> simp

/-- No piece has a mark in it. -/
theorem not_isMark_of_mem_pieces {isMark : Char → Bool} {cs piece : List Char} {c : Char}
    (hp : piece ∈ pieces isMark cs) (hc : c ∈ piece) : isMark c = false := by
  induction cs generalizing piece with
  | nil =>
    simp only [pieces, List.mem_singleton] at hp
    subst hp
    cases hc
  | cons d cs ih =>
    simp only [pieces] at hp
    split at hp
    · rcases List.mem_cons.1 hp with rfl | hp
      · cases hc
      · exact ih hp hc
    · next hd =>
      split at hp
      · next hnil => exact absurd hnil (pieces_ne_nil isMark cs)
      · next first more hcs =>
        rw [hcs] at ih
        rcases List.mem_cons.1 hp with rfl | hp
        · rcases List.mem_cons.1 hc with rfl | hc
          · simpa using hd
          · exact ih List.mem_cons_self hc
        · exact ih (List.mem_cons_of_mem first hp) hc

/-- What is in a text is in it with others. -/
theorem mem_intercalate_of_mem {separator piece : List Char} {all : List (List Char)} {c : Char}
    (hp : piece ∈ all) (hc : c ∈ piece) : c ∈ separator.intercalate all := by
  induction all with
  | nil => cases hp
  | cons first rest ih =>
    cases rest with
    | nil =>
      obtain rfl : piece = first := by simpa using hp
      simpa [List.intercalate] using hc
    | cons next rest =>
      rcases List.mem_cons.1 hp with rfl | hp
      · simp [List.intercalate, hc]
      · have := ih hp
        simp only [List.intercalate] at this ⊢
        simp only [List.intersperse, List.flatten_cons, List.mem_append]
        exact .inr (.inr this)

/-- The pieces with a mark between them give the text again. -/
theorem intercalate_pieces (mark : Char) (cs : List Char) :
    [mark].intercalate (pieces (· == mark) cs) = cs := by
  induction cs with
  | nil => rfl
  | cons c cs ih =>
    simp only [pieces]
    split
    · next hc =>
      have hmark : c = mark := by simpa using hc
      match h : pieces (· == mark) cs with
      | [] => exact absurd h (pieces_ne_nil _ cs)
      | piece :: more =>
        rw [h] at ih
        rw [← ih, hmark]
        simp [List.intercalate]
    · match h : pieces (· == mark) cs with
      | [] => exact absurd h (pieces_ne_nil _ cs)
      | [piece] =>
        rw [h] at ih
        rw [← ih]
        simp [List.intercalate]
      | piece :: next :: more =>
        rw [h] at ih
        rw [← ih]
        simp [List.intercalate]

/-- A mark ends a piece, wherever it stands. -/
theorem pieces_append_cons {isMark : Char → Bool} {mark : Char} (h : isMark mark = true)
    (cs ds : List Char) :
    pieces isMark (cs ++ mark :: ds) = pieces isMark cs ++ pieces isMark ds := by
  induction cs with
  | nil => simp [pieces, h]
  | cons c cs ih =>
    simp only [List.cons_append, pieces]
    split
    · rw [ih, List.cons_append]
    · rw [ih]
      cases hcs : pieces isMark cs with
      | nil => exact absurd hcs (pieces_ne_nil isMark cs)
      | cons piece more => rfl

/-- A text without marks is its only piece. -/
theorem pieces_eq_singleton {isMark : Char → Bool} {cs : List Char}
    (h : ∀ c ∈ cs, isMark c = false) : pieces isMark cs = [cs] := by
  induction cs with
  | nil => rfl
  | cons c cs ih =>
    have hc : isMark c = false := h c List.mem_cons_self
    have hcs := ih fun d hd => h d (List.mem_cons_of_mem c hd)
    simp only [pieces, hc, Bool.false_eq_true, if_false, hcs]

/-- Texts without the mark are the pieces of what they give with a mark between them. -/
theorem pieces_intercalate {mark : Char} {all : List (List Char)} (hne : all ≠ [])
    (h : ∀ piece ∈ all, mark ∉ piece) :
    pieces (· == mark) ([mark].intercalate all) = all := by
  induction all with
  | nil => exact absurd rfl hne
  | cons first rest ih =>
    have hfirst : pieces (· == mark) first = [first] := pieces_eq_singleton fun c hc =>
      beq_eq_false_iff_ne.2 fun heq => h first List.mem_cons_self (heq ▸ hc)
    cases rest with
    | nil => rwa [List.intercalate_singleton]
    | cons next rest =>
      rw [List.intercalate_cons_cons, List.append_assoc, List.singleton_append,
        pieces_append_cons (by simp), hfirst, List.singleton_append,
        ih (by simp) fun piece hp => h piece (List.mem_cons_of_mem first hp)]

end SearchIndex.Text
