import Mathlib.Data.List.Induction
import SearchIndex.Proofs.Filter.ClauseSegments
import SearchIndex.Proofs.Filter.Tokens

/-!
# The end of a literal

Two readers decide what a literal is. One takes off the quotes at both ends and pairs those between
them; the other starts at an opening quote and goes on to the first quote without a partner. They
meet in the runs of quotes behind the opening one (`IsClosed`): a run of even length pairs up, and a
run of odd length leaves its last quote over, where the literal ends.
-/

namespace SearchIndex.Filter

namespace Literal

/-- The place behind the literal that opens at a position. -/
def endAt (text : List Char) (position : Nat) : Nat :=
  position + 1 + (scan (text.drop (position + 1))).1.length

/-- The text from an opening quote to the end of its literal. -/
def piece (text : List Char) (position : Nat) : List Char :=
  (text.drop position).take (endAt text position - position)

/-- Some run of quotes, with other characters or nothing around it, has an odd length. -/
def IsClosed (cs : List Char) : Prop :=
  ∃ front n back, cs = front ++ List.replicate (2 * n + 1) '\'' ++ back ∧
    front.getLast? ≠ some '\'' ∧ back.head? ≠ some '\''

/-! ## Runs of quotes -/

/-- A written text is cut in two written texts behind any character but a quote. -/
theorem exists_escape_of_append {text front rest : List Char} (h : escape text = front ++ rest)
    (hfront : front.getLast? ≠ some '\'') : ∃ more, rest = escape more := by
  induction text generalizing front with
  | nil =>
    obtain ⟨rfl, rfl⟩ := List.append_eq_nil_iff.1 h.symm
    exact ⟨[], rfl⟩
  | cons c text ih =>
    cases front with
    | nil => exact ⟨c :: text, h.symm⟩
    | cons d front =>
      by_cases hc : c = '\''
      · subst hc
        simp only [escape, if_true, List.cons_append, List.cons.injEq] at h
        obtain ⟨rfl, h⟩ := h
        cases front with
        | nil => exact absurd rfl hfront
        | cons e front =>
          rw [List.cons_append, List.cons.injEq] at h
          refine ih h.2 fun hlast => hfront ?_
          simp [List.getLast?_cons, hlast]
      · simp only [escape, hc, if_false, List.cons_append, List.cons.injEq] at h
        refine ih h.2 fun hlast => hfront ?_
        simp [List.getLast?_cons, hlast]

/-- A written text does not start with a run of quotes of odd length. -/
theorem escape_ne_replicate_append (text : List Char) (n : Nat) {back : List Char}
    (hback : back.head? ≠ some '\'') :
    escape text ≠ List.replicate (2 * n + 1) '\'' ++ back := by
  -- Two quotes at a time stand for one of the text, so at last one is left without its pair.
  induction n generalizing text with
  | zero =>
    intro h
    cases text with
    | nil => cases h
    | cons c text =>
      by_cases hc : c = '\''
      · subst hc
        simp only [escape, if_true, Nat.mul_zero, Nat.zero_add, List.replicate_one,
          List.singleton_append, List.cons.injEq, true_and] at h
        exact hback (by rw [← h]; rfl)
      · simp only [escape, hc, if_false] at h
        exact hc (List.cons.inj h).1
  | succ n ih =>
    intro h
    rw [show 2 * (n + 1) + 1 = 2 * n + 1 + 1 + 1 by omega, List.replicate_succ,
      List.replicate_succ, List.cons_append, List.cons_append] at h
    cases text with
    | nil => cases h
    | cons c text =>
      by_cases hc : c = '\''
      · subst hc
        simp only [escape, if_true, List.cons.injEq, true_and] at h
        exact ih text h
      · simp only [escape, hc, if_false] at h
        exact hc (List.cons.inj h).1

/-- What is escaped does not close a literal. -/
theorem not_isClosed_escape (text : List Char) : ¬ IsClosed (escape text) := by
  rintro ⟨front, n, back, h, hfront, hback⟩
  rw [List.append_assoc] at h
  obtain ⟨more, hmore⟩ := exists_escape_of_append h hfront
  exact escape_ne_replicate_append more n hback hmore.symm

/-- Quotes are doubled. -/
theorem escape_replicate (n : Nat) :
    escape (List.replicate n '\'') = List.replicate (2 * n) '\'' := by
  induction n with
  | zero => rfl
  | succ n ih =>
    rw [List.replicate_succ, escape, if_pos rfl, ih, show 2 * (n + 1) = 2 * n + 1 + 1 by omega,
      List.replicate_succ, List.replicate_succ]

/-- A text ends in a run of quotes, which may be empty. -/
theorem exists_eq_append_replicate (text : List Char) :
    ∃ front n, text = front ++ List.replicate n '\'' ∧ front.getLast? ≠ some '\'' := by
  induction text using List.reverseRecOn with
  | nil => exact ⟨[], 0, rfl, nofun⟩
  | append_singleton text c ih =>
    by_cases hc : c = '\''
    · obtain ⟨front, n, rfl, hfront⟩ := ih
      refine ⟨front, n + 1, ?_, hfront⟩
      rw [hc, List.replicate_succ', List.append_assoc]
    · exact ⟨text ++ [c], 0, by simp, by simpa using hc⟩

/-- Escaping adds no quote at the end of a text that ends with something else. -/
theorem getLast?_escape_ne {text : List Char} (h : text.getLast? ≠ some '\'') :
    (escape text).getLast? ≠ some '\'' := by
  obtain rfl | ⟨front, c, rfl⟩ := List.eq_nil_or_concat text
  · exact h
  · rw [List.concat_eq_append] at h ⊢
    have hc : c ≠ '\'' := by simpa using h
    simp [escape_append, escape, hc]

/-- The quote behind a written text is left over, together with those at the end of the text. -/
theorem isClosed_escape_append (text : List Char) {rest : List Char}
    (h : rest.head? ≠ some '\'') : IsClosed (escape text ++ '\'' :: rest) := by
  obtain ⟨front, n, rfl, hfront⟩ := exists_eq_append_replicate text
  refine ⟨escape front, n, rest, ?_, getLast?_escape_ne hfront, h⟩
  rw [escape_append, escape_replicate, List.replicate_succ']
  simp only [List.append_assoc, List.singleton_append]

/-! ## Reading a literal -/

/-- A literal that is read is the quoted content. -/
theorem eq_quote_of_unquote? {text content : List Char} (h : unquote? text = some content) :
    text = quote content := by
  cases text with
  | nil => cases h
  | cons c rest =>
    rw [unquote?] at h
    split at h
    · next hends =>
      obtain ⟨rfl, hlast⟩ := hends
      obtain ⟨inner, rfl⟩ := List.getLast?_eq_some_iff.1 hlast
      rw [List.dropLast_concat] at h
      rw [quote, eq_escape_of_undouble h, List.cons_append]
    · cases h

/-- A text is read as a literal if it is some content in quotes. -/
theorem isSome_unquote?_iff {text : List Char} :
    (unquote? text).isSome = true ↔ ∃ content, text = quote content := by
  rw [Option.isSome_iff_exists]
  constructor
  · rintro ⟨content, h⟩
    exact ⟨content, eq_quote_of_unquote? h⟩
  · rintro ⟨content, rfl⟩
    exact ⟨content, unquote?_quote content⟩

/-- Without the quote that ends it, a literal is refused. -/
theorem unquote?_escape (text : List Char) : (unquote? ('\'' :: escape text)).isSome = false := by
  rw [Bool.eq_false_iff]
  intro h
  obtain ⟨content, hcontent⟩ := isSome_unquote?_iff.1 h
  rw [quote, List.cons_append] at hcontent
  refine not_isClosed_escape text ?_
  rw [(List.cons.inj hcontent).2]
  exact isClosed_escape_append content (by decide)

/-! ## The scan from a position -/

section Scan

variable {text : List Char} {position : Nat}

/-- The text from a position on starts with the character at the position. -/
theorem drop_of_getElem? {c : Char} (h : text[position]? = some c) :
    text.drop position = c :: text.drop (position + 1) := by
  obtain ⟨hlt, rfl⟩ := List.getElem?_eq_some_iff.1 h
  exact List.drop_eq_getElem_cons hlt

/-- A literal starts with its quote, and goes on as far as it is scanned. -/
theorem piece_eq (h : text[position]? = some '\'') :
    piece text position = '\'' :: (scan (text.drop (position + 1))).1 := by
  have hlength : endAt text position - position =
      (scan (text.drop (position + 1))).1.length + 1 := by
    unfold endAt
    omega
  have htake := congrArg (List.take (scan (text.drop (position + 1))).1.length)
    (scan_append (text.drop (position + 1)))
  rw [List.take_left] at htake
  rw [piece, hlength, drop_of_getElem? h, List.take_succ_cons, ← htake]

/-- A literal ends behind the quote that opens it. -/
theorem lt_endAt : position < endAt text position := by
  unfold endAt
  omega

/-- The end is within the text, by as much as the scan leaves. -/
theorem endAt_add_length (h : text[position]? = some '\'') :
    endAt text position + (scan (text.drop (position + 1))).2.length = text.length := by
  obtain ⟨hlt, -⟩ := List.getElem?_eq_some_iff.1 h
  have hlength := congrArg List.length (scan_append (text.drop (position + 1)))
  rw [List.length_append, List.length_drop] at hlength
  unfold endAt
  omega

/-- The two readers agree: what the scan takes is a literal exactly when a run of quotes behind the
opening one leaves a quote over. -/
theorem isSome_unquote?_piece_iff (h : text[position]? = some '\'') :
    (unquote? (piece text position)).isSome = true ↔ IsClosed (text.drop (position + 1)) := by
  rw [piece_eq h]
  obtain ⟨content, rest, hdrop, hrest, hscan⟩ | ⟨content, hdrop, hscan⟩ :=
    scan_cases (text.drop (position + 1))
  · rw [hscan, hdrop]
    refine iff_of_true ?_ (isClosed_escape_append content hrest)
    exact isSome_unquote?_iff.2 ⟨content, rfl⟩
  · rw [hscan, hdrop]
    exact iff_of_false (by rw [unquote?_escape]; exact nofun) (not_isClosed_escape content)

/-- A literal that is not closed takes the rest of the text. -/
theorem endAt_of_not_isClosed (h : text[position]? = some '\'')
    (hopen : ¬ IsClosed (text.drop (position + 1))) : endAt text position = text.length := by
  have hlength := endAt_add_length h
  obtain ⟨content, rest, hdrop, hrest, -⟩ | ⟨content, -, hscan⟩ :=
    scan_cases (text.drop (position + 1))
  · exact absurd (hdrop ▸ isClosed_escape_append content hrest) hopen
  · rw [hscan] at hlength
    exact hlength

/-- A quoted content in front of anything but a quote ends where it is written to end. -/
theorem endAt_of_drop_eq_quote {content rest : List Char}
    (h : text.drop position = quote content ++ rest) (hrest : rest.head? ≠ some '\'') :
    endAt text position = position + (quote content).length := by
  have hdrop : text.drop (position + 1) = escape content ++ '\'' :: rest := by
    rw [← List.tail_drop, h]
    simp [quote]
  rw [endAt, hdrop, scan_escape_append content rest hrest]
  simp only [quote, List.length_append, List.length_cons, List.length_nil]
  omega

end Scan

end Literal

/-- A text read as a literal is written back as it was. -/
theorem quoteText_of_unquoteText? {text content : String} (h : unquoteText? text = some content) :
    text = quoteText content := by
  obtain ⟨chars, hchars, rfl⟩ := Option.map_eq_some_iff.1 h
  apply String.toList_injective
  rw [quoteText, String.toList_ofList, String.toList_ofList, Literal.eq_quote_of_unquote? hchars]

/-- What is quoted is read again. -/
theorem unquoteText?_quoteText (content : String) :
    unquoteText? (quoteText content) = some content := by
  rw [unquoteText?, quoteText, String.toList_ofList, Literal.unquote?_quote, Option.map_some,
    String.ofList_toList]

/-- All readers agree on what a literal is. One accepts what writing a text produces and nothing
else. From a quote on, the other takes at least the quote and at most the rest of the text, and what
it takes is accepted by the first exactly when the literal is closed. One that is not closed takes
all the rest; one that is written, in front of anything but a quote, is taken as it was written. -/
theorem literal_readers_agree :
    (∀ content, unquoteText? (quoteText content) = some content) ∧
    (∀ text content, unquoteText? text = some content → text = quoteText content) ∧
    ∀ (text : List Char) (position : Nat), text[position]? = some '\'' →
      position < Literal.endAt text position ∧ Literal.endAt text position ≤ text.length ∧
      ((unquoteText? (String.ofList (Literal.piece text position))).isSome = true ↔
        Literal.IsClosed (text.drop (position + 1))) ∧
      (¬ Literal.IsClosed (text.drop (position + 1)) →
        Literal.endAt text position = text.length) ∧
      ∀ content rest, text.drop position = (quoteText content).toList ++ rest →
        rest.head? ≠ some '\'' →
        Literal.endAt text position = position + (quoteText content).toList.length := by
  refine ⟨unquoteText?_quoteText, fun text content => quoteText_of_unquoteText?,
    fun text position h => ⟨Literal.lt_endAt, ?_, ?_, Literal.endAt_of_not_isClosed h, ?_⟩⟩
  · have hlength := Literal.endAt_add_length h
    omega
  · rw [unquoteText?, String.toList_ofList, Option.isSome_map]
    exact Literal.isSome_unquote?_piece_iff h
  · intro content rest hdrop hrest
    rw [quoteText, String.toList_ofList] at hdrop ⊢
    exact Literal.endAt_of_drop_eq_quote hdrop hrest

/-- A run of three quotes ends the literal that opens before it: a doubled one, and one that is left
over. -/
theorem literal_readers_agree_run :
    Literal.endAt "a 'b''' c".toList 2 = 7 ∧
      unquoteText? "'b'''" = some "b'" ∧ Literal.IsClosed "b''' c".toList := by
  have h := literal_readers_agree.2.2 "a 'b''' c".toList 2 (by decide)
  have hend := h.2.2.2.2 "b'" " c".toList (by decide) (by decide)
  have hread := literal_readers_agree.1 "b'"
  exact ⟨hend, hread, h.2.2.1.1 (by decide)⟩

end SearchIndex.Filter
