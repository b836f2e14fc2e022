/-!
# String literals

A literal of the grammar stands between single quotes, and a quote inside it is written twice. A
scanner that meets an opening quote ends the literal at the first quote that is not doubled, or at
the end of the text. Reading a literal accepts exactly what writing one produces.
-/

namespace SearchIndex.Filter.Literal

/-! ## Writing -/

/-- The characters of a literal between its quotes. -/
def escape : List Char → List Char
  | [] => []
  | c :: rest => if c = '\'' then '\'' :: '\'' :: escape rest else c :: escape rest

/-- The literal of a text. -/
def quote (cs : List Char) : List Char :=
  '\'' :: escape cs ++ ['\'']

/-! ## Reading -/

/-- Takes doubled quotes for single ones; a quote that stands alone is refused. -/
def undouble : List Char → Option (List Char)
  | [] => some []
  | '\'' :: '\'' :: rest => (undouble rest).map ('\'' :: ·)
  | c :: rest => if c = '\'' then none else (undouble rest).map (c :: ·)

/-- The text of a literal. -/
def unquote? : List Char → Option (List Char)
  | [] => none
  | c :: rest =>
    if c = '\'' ∧ rest.getLast? = some '\'' then undouble rest.dropLast else none

/-! ## Scanning -/

/-- Cuts a text, after an opening quote, into the rest of the literal with its closing quote, and
what follows. -/
def scan : List Char → List Char × List Char
  | [] => ([], [])
  | '\'' :: '\'' :: rest => ('\'' :: '\'' :: (scan rest).1, (scan rest).2)
  | c :: rest => if c = '\'' then (['\''], rest) else (c :: (scan rest).1, (scan rest).2)

/-! ## Laws -/

theorem undouble_cons {c : Char} (h : c ≠ '\'') (rest : List Char) :
    undouble (c :: rest) = (undouble rest).map (c :: ·) := by
  rw [undouble]
  · simp only [h, if_false]
  · exact fun _ hc _ => h hc

theorem scan_cons {c : Char} (h : c ≠ '\'') (rest : List Char) :
    scan (c :: rest) = (c :: (scan rest).1, (scan rest).2) := by
  rw [scan]
  · simp only [h, if_false]
  · exact fun _ hc _ => h hc

/-- A quote that no other quote follows ends the literal. -/
theorem scan_quote_of_head? {rest : List Char} (h : rest.head? ≠ some '\'') :
    scan ('\'' :: rest) = (['\''], rest) := by
  rw [scan]
  · simp only [if_true]
  · exact fun _ _ hr => h (by rw [hr]; rfl)

/-- What is escaped reads back. -/
theorem undouble_escape (cs : List Char) : undouble (escape cs) = some cs := by
  induction cs with
  | nil => rfl
  | cons c rest ih =>
    by_cases h : c = '\''
    · subst h
      simp only [escape, if_true, undouble, ih, Option.map_some]
    · simp only [escape, h, if_false, undouble_cons h, ih, Option.map_some]

/-- Only what is escaped can be read. -/
theorem eq_escape_of_undouble {t cs : List Char} (h : undouble t = some cs) : t = escape cs := by
  fun_induction undouble t generalizing cs with
  | case1 => cases h; rfl
  | case2 rest ih =>
    obtain ⟨u, hu, rfl⟩ := Option.map_eq_some_iff.1 h
    simp only [escape, if_true, ih hu]
  | case3 => cases h
  | case4 c rest _ hc ih =>
    obtain ⟨u, hu, rfl⟩ := Option.map_eq_some_iff.1 h
    simp only [escape, hc, if_false, ih hu]

/-- A literal is read as the text that it was written for. -/
theorem unquote?_quote (cs : List Char) : unquote? (quote cs) = some cs := by
  rw [quote, List.cons_append, unquote?, List.getLast?_concat, List.dropLast_concat,
    if_pos ⟨rfl, rfl⟩, undouble_escape]

/-- A scan loses nothing. -/
theorem scan_append (cs : List Char) : (scan cs).1 ++ (scan cs).2 = cs := by
  fun_induction scan cs with
  | case1 => rfl
  | case2 rest ih => simp only [List.cons_append, ih]
  | case3 => rfl
  | case4 c rest _ hc ih => simp only [List.cons_append, ih]

/-- What is left behind a literal is no longer than the text. -/
theorem length_scan_snd_le (cs : List Char) : (scan cs).2.length ≤ cs.length := by
  have h := congrArg List.length (scan_append cs)
  rw [List.length_append] at h
  omega

/-- A scan stops at the end of a written literal, whatever follows other than a quote. -/
theorem scan_escape_append (cs rest : List Char) (h : rest.head? ≠ some '\'') :
    scan (escape cs ++ '\'' :: rest) = (escape cs ++ ['\''], rest) := by
  induction cs with
  | nil => exact scan_quote_of_head? h
  | cons c cs ih =>
    by_cases hc : c = '\''
    · subst hc
      simp only [escape, if_true, List.cons_append, scan, ih]
    · simp only [escape, hc, if_false, List.cons_append, scan_cons hc, ih]

end SearchIndex.Filter.Literal
