import SearchIndex.Files.Path
import SearchIndex.Proofs.Text.Parts

/-!
# Components of paths

A path leads through the names between its slashes. Two slashes behind each other have no name
between them, and a single dot stays where it is, so neither counts.

A path that is joined to a directory goes on from there, unless it starts at the root. Expansion
joins twice: what follows `~/` to the home directory, and what is still relative to the current one.
So the text behind a tilde leads out of the home directory when it starts with a slash of its own.
-/

namespace SearchIndex.Files

/-- The names that a path leads through. -/
def components (path : List Char) : List (List Char) :=
  (Text.pieces (· == '/') path).filter fun piece => !(piece.isEmpty || piece == ['.'])

/-- A slash stands between components. -/
theorem components_append_slash (directory path : List Char) :
    components (directory ++ '/' :: path) = components directory ++ components path := by
  rw [components, Text.pieces_append_cons (by rfl), List.filter_append]
  rfl

theorem components_nil : components [] = [] :=
  rfl

/-- A slash at the end of a directory names nothing more. -/
theorem components_concat_slash (directory : List Char) :
    components (directory ++ ['/']) = components directory := by
  rw [components_append_slash, components_nil, List.append_nil]

/-! ## Joins -/

section Join

variable {directory path : List Char}

/-- An absolute path does not depend on the directory. -/
theorem join_of_isAbsolute (h : isAbsolute path = true) : join directory path = path := by
  rw [join, if_pos h]

/-- A relative path goes on from the directory that it is joined to. -/
theorem components_join (h : isAbsolute path = false) :
    components (join directory path) = components directory ++ components path := by
  rw [join, if_neg (by simp [h])]
  obtain rfl | ⟨front, last, rfl⟩ := List.eq_nil_or_concat directory
  · rfl
  · rw [List.concat_eq_append]
    by_cases hlast : last = '/'
    · subst hlast
      rw [if_pos (by simp), List.append_assoc, List.singleton_append, components_append_slash,
        components_concat_slash]
    · rw [if_neg (by simp [hlast]), components_append_slash]

/-- A path that goes on from an absolute one is absolute. -/
theorem isAbsolute_append (h : isAbsolute directory = true) (path : List Char) :
    isAbsolute (directory ++ path) = true := by
  cases directory with
  | nil => cases h
  | cons c directory => exact h

/-- A join with an absolute directory is absolute. -/
theorem isAbsolute_join (h : isAbsolute directory = true) :
    isAbsolute (join directory path) = true := by
  unfold join
  split
  · assumption
  · split
    · exact isAbsolute_append h path
    · exact isAbsolute_append h ('/' :: path)

end Join

/-! ## Expansion -/

section Expansion

variable {places : Places} {path : String}

/-- A blank path is the current directory. -/
theorem expand_blank (h : (Text.trim path).toList = []) : expand places path = places.current := by
  simp only [expand, h]

/-- A tilde alone is the home directory. -/
theorem expand_tilde (h : (Text.trim path).toList = ['~']) :
    (expand places path).toList = join places.current.toList places.home.toList := by
  simp only [expand, h, String.toList_ofList]

/-- What is behind a tilde and a slash is seen from the home directory. -/
theorem expand_tilde_slash {rest : List Char} (h : (Text.trim path).toList = '~' :: '/' :: rest) :
    (expand places path).toList =
      join places.current.toList (join places.home.toList rest) := by
  simp only [expand, h, String.toList_ofList]

/-- Any other text is seen from the current directory. -/
theorem expand_other {c : Char} {cs : List Char} (h : (Text.trim path).toList = c :: cs)
    (htilde : c :: cs ≠ ['~']) (hslash : ∀ rest, c :: cs ≠ '~' :: '/' :: rest) :
    (expand places path).toList = join places.current.toList (c :: cs) := by
  simp only [expand, h, String.toList_ofList]

/-- What a user writes becomes an absolute path. -/
theorem isAbsolute_expand (hcurrent : isAbsolute places.current.toList = true) :
    isAbsolute (expand places path).toList = true := by
  unfold expand
  split
  · exact hcurrent
  · rw [String.toList_ofList]
    exact isAbsolute_join hcurrent

/-- A tilde alone leads to the home directory. -/
theorem components_expand_tilde (hhome : isAbsolute places.home.toList = true)
    (h : (Text.trim path).toList = ['~']) :
    components (expand places path).toList = components places.home.toList := by
  rw [expand_tilde h, join_of_isAbsolute hhome]

/-- A path behind a tilde and a slash leads below the home directory, unless it is absolute itself.
-/
theorem components_expand_tilde_slash (hhome : isAbsolute places.home.toList = true)
    {rest : List Char} (h : (Text.trim path).toList = '~' :: '/' :: rest) :
    components (expand places path).toList =
      if isAbsolute rest = true then components rest
      else components places.home.toList ++ components rest := by
  rw [expand_tilde_slash h, join_of_isAbsolute (isAbsolute_join hhome)]
  split
  · next hrest => rw [join_of_isAbsolute hrest]
  · next hrest => exact components_join (Bool.not_eq_true _ ▸ hrest)

/-- Other paths lead below the current directory. -/
theorem components_expand_other (hroot : isAbsolute (Text.trim path).toList = false)
    (htilde : (Text.trim path).toList ≠ ['~'])
    (hslash : ∀ rest, (Text.trim path).toList ≠ '~' :: '/' :: rest) :
    components (expand places path).toList =
      components places.current.toList ++ components (Text.trim path).toList := by
  cases h : (Text.trim path).toList with
  | nil => rw [expand_blank h, components_nil, List.append_nil]
  | cons c cs =>
    rw [h] at hroot htilde hslash
    rw [expand_other h htilde hslash, components_join hroot]

/-- An absolute path stays as it is, without white space around it. -/
theorem expand_of_isAbsolute (h : isAbsolute (Text.trim path).toList = true) :
    (expand places path).toList = (Text.trim path).toList := by
  cases htrim : (Text.trim path).toList with
  | nil => rw [htrim] at h; cases h
  | cons c cs =>
    rw [htrim] at h
    obtain rfl : c = '/' := by simpa [isAbsolute] using h
    rw [expand_other htrim (by simp) (by simp), join_of_isAbsolute h]

/-- Where an expanded path leads. It is absolute. A tilde is the home directory, and what follows
`~/` goes on from there exactly when it does not start at the root, or the home directory is the
root itself; otherwise it leads where it would lead without the tilde. A relative path goes on from the
current directory, and an absolute one is kept. -/
theorem expand_leads (places : Places) (path : String)
    (hhome : isAbsolute places.home.toList = true)
    (hcurrent : isAbsolute places.current.toList = true) :
    isAbsolute (expand places path).toList = true ∧
    ((Text.trim path).toList = ['~'] →
      components (expand places path).toList = components places.home.toList) ∧
    (∀ rest, (Text.trim path).toList = '~' :: '/' :: rest →
      (components (expand places path).toList =
          components places.home.toList ++ components rest ↔
        isAbsolute rest = false ∨ components places.home.toList = []) ∧
      (isAbsolute rest = true → (expand places path).toList = rest)) ∧
    (isAbsolute (Text.trim path).toList = false → (Text.trim path).toList ≠ ['~'] →
      (∀ rest, (Text.trim path).toList ≠ '~' :: '/' :: rest) →
      components (expand places path).toList =
        components places.current.toList ++ components (Text.trim path).toList) ∧
    (isAbsolute (Text.trim path).toList = true →
      (expand places path).toList = (Text.trim path).toList) := by
  refine ⟨isAbsolute_expand hcurrent, components_expand_tilde hhome, fun rest h => ⟨?_, ?_⟩,
    components_expand_other, expand_of_isAbsolute⟩
  · rw [components_expand_tilde_slash hhome h]
    cases hrest : isAbsolute rest with
    | false => simp
    | true => simp [List.self_eq_append_left]
  · -- An absolute path takes the place of the directory it is joined to.
    intro hrest
    rw [expand_tilde_slash h, join_of_isAbsolute (isAbsolute_join hhome), join_of_isAbsolute hrest]

/-- A relative path behind the tilde, with slashes and dots that do not count. -/
theorem expand_leads_home :
    components (expand ⟨"/home/u", "/work"⟩ " ~/./a//b/ ").toList =
      ["home".toList, "u".toList, "a".toList, "b".toList] := by
  have h : (Text.trim " ~/./a//b/ ").toList = '~' :: '/' :: "./a//b/".toList := by decide
  have hleads := expand_leads ⟨"/home/u", "/work"⟩ " ~/./a//b/ " (by decide) (by decide)
  exact ((hleads.2.2.1 _ h).1.2 (.inl (by decide))).trans (by decide)

/-- A second slash behind the tilde leads out of the home directory. -/
theorem not_expand_leads_home :
    ¬ ∀ (places : Places) (path : String) (rest : List Char),
      isAbsolute places.home.toList = true → isAbsolute places.current.toList = true →
      (Text.trim path).toList = '~' :: '/' :: rest →
      components (expand places path).toList =
        components places.home.toList ++ components rest := by
  intro h
  have hout := h ⟨"/home/u", "/work"⟩ "~//etc/passwd" "/etc/passwd".toList (by decide) (by decide)
    (by decide)
  revert hout
  decide

end Expansion

end SearchIndex.Files
