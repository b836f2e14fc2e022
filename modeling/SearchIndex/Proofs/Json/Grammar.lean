import SearchIndex.Proofs.Json.Strings

/-!
# The grammar of JSON texts

Which texts stand for which values, and how many levels of brackets they open (`IsText`). One
relation tells it of values, of the items between two brackets and of the members between two
braces, so that what the reader does follows by one induction (`isText_reads`): a text is read if
the levels that it opens are free, and otherwise the reader stops for that reason alone
(`parse_of_isText`).

The levels are those of the text. A member whose name is written again does not stay in the value,
but its brackets count.
-/

namespace SearchIndex.Json

/-! ## Texts -/

/-- What a part of a text stands for. -/
inductive Content where
  | value (value : Value)
  /-- The items of an array, between its brackets. -/
  | items (items : List Value)
  /-- The members of an object as they are written between its braces, names again and again. -/
  | members (written : Members)

/-- The name of a member, with white space around it. -/
inductive IsName : String → List Char → Prop
  | mk {before cs written after : List Char} (hbefore : IsBlank before) (h : IsBody cs written)
      (hafter : IsBlank after) :
      IsName (String.ofList cs) (before ++ '"' :: written ++ '"' :: after)

/-- The text stands for the part, with white space around its tokens, and opens that many levels of
brackets and braces. -/
inductive IsText : (levels : Nat) → Content → List Char → Prop
  | null : IsText 0 (.value .null) ['n', 'u', 'l', 'l']
  | yes : IsText 0 (.value (.bool true)) ['t', 'r', 'u', 'e']
  | no : IsText 0 (.value (.bool false)) ['f', 'a', 'l', 's', 'e']
  | number {n : Number} {numeral : List Char} (h : IsNumeral n numeral) :
      IsText 0 (.value (.number n)) numeral
  | string {cs written : List Char} (h : IsBody cs written) :
      IsText 0 (.value (.string (String.ofList cs))) ('"' :: written ++ ['"'])
  | array {levels : Nat} {items : List Value} {row : List Char}
      (h : IsText levels (.items items) row) :
      IsText (levels + 1) (.value (.array items)) ('[' :: row ++ [']'])
  | object {levels : Nat} {written : Members} {row : List Char}
      (h : IsText levels (.members written) row) :
      IsText (levels + 1) (.value (.object (Members.setAll [] written))) ('\x7b' :: row ++ ['\x7d'])
  | space_before {levels : Nat} {v : Value} {c : Char} {text : List Char} (hc : isSpace c = true)
      (h : IsText levels (.value v) text) : IsText levels (.value v) (c :: text)
  | space_after {levels : Nat} {v : Value} {c : Char} {text : List Char} (hc : isSpace c = true)
      (h : IsText levels (.value v) text) : IsText levels (.value v) (text ++ [c])
  | no_items {blank : List Char} (h : IsBlank blank) : IsText 0 (.items []) blank
  | item {levels : Nat} {v : Value} {text : List Char} (h : IsText levels (.value v) text) :
      IsText levels (.items [v]) text
  | items {levels more : Nat} {v w : Value} {rest : List Value} {text row : List Char}
      (h : IsText levels (.value v) text) (hrest : IsText more (.items (w :: rest)) row) :
      IsText (max levels more) (.items (v :: w :: rest)) (text ++ ',' :: row)
  | no_members {blank : List Char} (h : IsBlank blank) : IsText 0 (.members []) blank
  | member {levels : Nat} {name : String} {v : Value} {nameText text : List Char}
      (hname : IsName name nameText) (h : IsText levels (.value v) text) :
      IsText levels (.members [(name, v)]) (nameText ++ ':' :: text)
  | members {levels more : Nat} {name : String} {v : Value} {m : String × Value} {rest : Members}
      {nameText text row : List Char} (hname : IsName name nameText)
      (h : IsText levels (.value v) text) (hrest : IsText more (.members (m :: rest)) row) :
      IsText (max levels more) (.members ((name, v) :: m :: rest))
        (nameText ++ ':' :: text ++ ',' :: row)

/-- A name without quotes, backslashes and controls is written as it is. -/
theorem isName_self {name : String} (h : name.toList.all isPlain = true) :
    IsName name ('"' :: name.toList ++ ['"']) := by
  have hblank : IsBlank [] := fun _ => nofun
  have hname := IsName.mk hblank (isBody_self h) hblank
  rwa [String.ofList_toList] at hname

/-! ## Outcomes -/

/-- With `room` levels free, a reader takes what stands in front of the rest, up to white space. If
the text opens more levels than that, the reader stops for that reason. -/
structure Outcome {α : Type} (levels room : Nat) (step : Step α) (a : α) (rest : List Char) :
    Prop where
  ok (h : levels ≤ room) : ∃ left, step = .ok (a, left) ∧ skipSpace left = skipSpace rest
  tooDeep (h : room < levels) : ∃ stop, step = .error stop ∧ stop.cause = .tooDeep

section Outcome

variable {α β : Type} {levels more room : Nat} {step : Step α} {a : α} {b : β}
  {middle rest : List Char}

/-- A reader that takes a text without brackets takes it with any room. -/
theorem outcome_of_ok (left : List Char) (h : step = .ok (a, left))
    (hleft : skipSpace left = skipSpace rest) : Outcome 0 room step a rest :=
  ⟨fun _ => ⟨left, h, hleft⟩, fun hroom => absurd hroom (Nat.not_lt_zero room)⟩

/-- What is made of the value does not change the outcome. -/
theorem Outcome.map (h : Outcome levels room step a rest) (f : α → β) :
    Outcome levels room (step.map f) (f a) rest := by
  constructor
  · intro hlevels
    obtain ⟨left, rfl, hleft⟩ := h.ok hlevels
    exact ⟨left, rfl, hleft⟩
  · intro hroom
    obtain ⟨stop, rfl, hstop⟩ := h.tooDeep hroom
    exact ⟨stop, rfl, hstop⟩

/-- White space at the start of the rest does not count. -/
theorem Outcome.congr {rest' : List Char} (h : Outcome levels room step a rest)
    (hrest : skipSpace rest = skipSpace rest') : Outcome levels room step a rest' := by
  refine ⟨fun hlevels => ?_, h.tooDeep⟩
  obtain ⟨left, hstep, hleft⟩ := h.ok hlevels
  exact ⟨left, hstep, hleft.trans hrest⟩

/-- Two readers, one behind the other. -/
theorem Outcome.andThen {next : α → List Char → Step β} (h : Outcome levels room step a middle)
    (hnext : ∀ left, skipSpace left = skipSpace middle →
      Outcome more room (next a left) b rest) :
    Outcome (max levels more) room (step.andThen next) b rest := by
  constructor
  · intro hmax
    obtain ⟨left, rfl, hleft⟩ := h.ok (Nat.le_trans (Nat.le_max_left _ _) hmax)
    exact (hnext left hleft).ok (Nat.le_trans (Nat.le_max_right _ _) hmax)
  · intro hmax
    by_cases hroom : room < levels
    · obtain ⟨stop, rfl, hstop⟩ := h.tooDeep hroom
      exact ⟨stop, rfl, hstop⟩
    · obtain ⟨left, rfl, hleft⟩ := h.ok (Nat.not_lt.1 hroom)
      exact (hnext left hleft).tooDeep (by omega)

end Outcome

/-! ## Values between tokens -/

section Values

variable {room levels : Nat} {c : Char} {v : Value} {text rest : List Char}

/-- White space in front of a value does not count. -/
theorem readValue_congr {text' : List Char} (h : skipSpace text = skipSpace text') :
    readValue room text = readValue room text' := by
  rw [readValue, readValue, h]

/-- White space in front of a value does not count. -/
theorem readValue_cons_space (hc : isSpace c = true) :
    readValue room (c :: text) = readValue room text :=
  readValue_congr (List.dropWhile_cons_of_pos hc)

/-- A digit is none of the characters that are no digits. -/
theorem ne_of_digit {d : Char} (hdigit : (digitValue? c).isSome = true)
    (hd : (digitValue? d).isSome = false) : c ≠ d := by
  rintro rfl
  rw [hdigit] at hd
  cases hd

/-- A digit is no white space. -/
theorem isSpace_of_digit (hdigit : (digitValue? c).isSome = true) : isSpace c = false := by
  have hspace := ne_of_digit (d := ' ') hdigit (by decide)
  have htab := ne_of_digit (d := '\t') hdigit (by decide)
  have hline := ne_of_digit (d := '\n') hdigit (by decide)
  have hreturn := ne_of_digit (d := '\r') hdigit (by decide)
  simp [isSpace, hspace, htab, hline, hreturn]

/-- The first token of a value is no closing bracket. -/
theorem IsText.exists_first (h : IsText levels (.value v) text) (rest : List Char) :
    ∃ c more, skipSpace (text ++ rest) = c :: more ∧ c ≠ ']' := by
  generalize hp : Content.value v = p at h
  induction h generalizing v rest with
  | space_before hc _ ih =>
    obtain ⟨d, more, hskip, hd⟩ := ih rest hp
    refine ⟨d, more, ?_, hd⟩
    rwa [List.cons_append, skipSpace, List.dropWhile_cons_of_pos hc]
  | @space_after levels v c text hc _ ih =>
    rw [List.append_assoc]
    exact ih ([c] ++ rest) hp
  | @number n numeral h =>
    obtain ⟨digits, rfl, -⟩ | ⟨c, digits, rfl, hdigit, -⟩ := h.cases
    · exact ⟨'-', digits ++ rest, rfl, by decide⟩
    · exact ⟨c, digits ++ rest, skipSpace_cons (isSpace_of_digit hdigit) _,
        ne_of_digit hdigit (by decide)⟩
  | null | yes | no | string | array | object =>
    exact ⟨_, _, skipSpace_cons (by decide) _, by decide⟩
  | no_items | item | items | no_members | member | members => cases hp

/-- A numeral is read as a value. -/
theorem outcome_numeral {n : Number} {numeral : List Char} (h : IsNumeral n numeral)
    (hrest : EndsNumeral rest) :
    Outcome 0 room (readValue room (numeral ++ rest)) (.number n) rest := by
  refine outcome_of_ok rest ?_ rfl
  obtain ⟨digits, rfl, hread⟩ | ⟨c, digits, rfl, hdigit, hread⟩ := h.cases
  · have hskip := skipSpace_cons (c := '-') (by decide) (digits ++ rest)
    rw [List.cons_append, readValue, hskip]
    simp only [hread rest hrest, Step.map, Step.andThen]
    rfl
  · have hskip := skipSpace_cons (isSpace_of_digit hdigit) (digits ++ rest)
    have hnull : c ≠ 'n' := ne_of_digit hdigit (by decide)
    have htrue : c ≠ 't' := ne_of_digit hdigit (by decide)
    have hfalse : c ≠ 'f' := ne_of_digit hdigit (by decide)
    have hquote : c ≠ '"' := ne_of_digit hdigit (by decide)
    have hminus : c ≠ '-' := ne_of_digit hdigit (by decide)
    have hnumber := hread rest hrest
    rw [List.cons_append] at hnumber ⊢
    rw [readValue, hskip]
    simp only [hnull, htrue, hfalse, hquote, hminus, hdigit, hnumber, if_true, if_false, Step.map,
      Step.andThen]

/-- A string is read up to its closing quote. -/
theorem outcome_string {cs written : List Char} (h : IsBody cs written) :
    Outcome 0 room (readValue room ('"' :: written ++ ['"'] ++ rest))
      (.string (String.ofList cs)) rest := by
  refine outcome_of_ok rest ?_ rfl
  have hskip := skipSpace_cons (c := '"') (by decide) (written ++ '"' :: rest)
  have hread := readString_append h rest
  rw [List.append_assoc, List.cons_append, List.singleton_append, readValue, hskip]
  simp only [hread, Step.map, Step.andThen]
  rfl

/-- A bracket takes a level. -/
theorem outcome_container {opening : Char} (hopening : opening = '[' ∨ opening = '\x7b')
    (h : ∀ room, Outcome levels room (readContainer (readValue room) opening text) v rest) :
    Outcome (levels + 1) room (readValue room (opening :: text)) v rest := by
  have hskip : skipSpace (opening :: text) = opening :: text :=
    skipSpace_cons (by obtain rfl | rfl := hopening <;> decide) text
  cases room with
  | zero =>
    have hread : readValue 0 (opening :: text) = stopAtNext .tooDeep (opening :: text) := by
      rw [readValue, hskip]
      obtain rfl | rfl := hopening <;> rfl
    rw [hread]
    exact ⟨fun hlevels => absurd hlevels (by omega), fun _ => ⟨_, rfl, rfl⟩⟩
  | succ room =>
    have hread : readValue (room + 1) (opening :: text) =
        readContainer (readValue room) opening text := by
      rw [readValue, hskip]
      obtain rfl | rfl := hopening <;> rfl
    rw [hread]
    exact ⟨fun hlevels => (h room).ok (Nat.le_of_succ_le_succ hlevels),
      fun hroom => (h room).tooDeep (Nat.lt_of_succ_lt_succ hroom)⟩

end Values

/-! ## Items and members -/

/-- What stands in front of the next item or member: nothing in front of the first one, and a comma
in front of the others. -/
def lead (first : Bool) : List Char :=
  if first then [] else [',']

section Rows

variable {first : Bool} {whole text rest : List Char}

/-- A closing bracket ends the items. -/
theorem nextItem_end (h : skipSpace whole = ']' :: rest) :
    nextItem first whole = .ok (false, ']' :: rest) := by
  rw [nextItem, h]
  rfl

/-- Behind what leads it an item starts with its first character. -/
theorem nextItem_value {c : Char} {more : List Char}
    (h : skipSpace whole = skipSpace (lead first ++ text)) (htext : skipSpace text = c :: more)
    (hc : c ≠ ']') : nextItem first whole = .ok (true, c :: more) := by
  rw [nextItem, h]
  cases first with
  | true =>
    simp only [lead, if_true, List.nil_append, htext, if_neg hc]
  | false =>
    have hskip := skipSpace_cons (c := ',') (by decide) text
    simp only [lead, Bool.false_eq_true, if_false, List.singleton_append, hskip, htext, if_neg hc]
    rfl

/-- A closing brace ends the members. -/
theorem nextName_end (h : skipSpace whole = '\x7d' :: rest) :
    nextName first whole = .ok (none, '\x7d' :: rest) := by
  rw [nextName, h]
  rfl

/-- The name of a member, and what is left behind it. -/
theorem nextName_name {name : String} {nameText : List Char} (hname : IsName name nameText)
    (h : skipSpace whole = skipSpace (lead first ++ nameText ++ text)) :
    ∃ left, nextName first whole = .ok (some name, left) ∧ skipSpace left = skipSpace text := by
  obtain ⟨hbefore, hbody, hafter⟩ := hname
  next before cs written after =>
    have hskip : skipSpace (before ++ '"' :: written ++ '"' :: after ++ text) =
        '"' :: (written ++ '"' :: (after ++ text)) := by
      simp only [List.append_assoc, List.cons_append, skipSpace_append hbefore]
      exact skipSpace_cons (by decide) _
    refine ⟨after ++ text, ?_, skipSpace_append hafter text⟩
    have hread := readString_append hbody (after ++ text)
    rw [nextName, h]
    cases first with
    | true =>
      simp only [lead, if_true, List.nil_append, hskip, hread, Step.map, Step.andThen]
      rfl
    | false =>
      have hcomma := skipSpace_cons (c := ',') (by decide)
        (before ++ '"' :: written ++ '"' :: after ++ text)
      simp only [lead, Bool.false_eq_true, if_false, List.append_assoc, List.cons_append,
        List.nil_append] at hcomma hskip ⊢
      simp only [hcomma, hskip, hread, Step.map, Step.andThen]
      rfl

/-- A colon is taken, whatever white space is in front of it. -/
theorem readColon_append (h : skipSpace whole = ':' :: rest) :
    readColon whole = .ok ((), rest) := by
  rw [readColon, h]
  rfl

end Rows

/-! ## Reading of parts -/

/-- How many values, items or members a part has. -/
def Content.count : Content → Nat
  | .value _ => 1
  | .items vs => vs.length
  | .members ms => ms.length

/-- Each of them takes a character at least. -/
theorem IsText.count_le {levels : Nat} {p : Content} {text : List Char} (h : IsText levels p text) :
    p.count ≤ text.length := by
  induction h with
  | null | yes | no => exact Nat.le_add_left 1 _
  | number h =>
    obtain ⟨digits, rfl, -⟩ | ⟨c, digits, rfl, -⟩ := h.cases
    · exact Nat.le_add_left 1 _
    · exact Nat.le_add_left 1 _
  | string _ | array _ _ | object _ _ => exact Nat.le_add_left 1 _
  | space_before _ _ ih => exact Nat.le_succ_of_le ih
  | space_after _ _ ih =>
    rw [List.length_append]
    exact Nat.le_add_right_of_le ih
  | no_items _ | no_members _ => exact Nat.zero_le _
  | item _ ih => exact ih
  | items _ _ ih ihrest =>
    simp only [Content.count, List.length_append, List.length_cons] at ih ihrest ⊢
    omega
  | member _ _ ih =>
    simp only [Content.count, List.length_append, List.length_cons, List.length_nil] at ih ⊢
    omega
  | members _ _ _ ih ihrest =>
    simp only [Content.count, List.length_append, List.length_cons] at ih ihrest ⊢
    omega

/-- What the readers make of a text that stands for a part, wherever it stands. -/
def Content.Reads (levels : Nat) (text : List Char) : Content → Prop
  | .value v => ∀ room rest, EndsNumeral rest →
      Outcome levels room (readValue room (text ++ rest)) v rest
  | .items vs => ∀ room first fuel seen whole rest, vs.length < fuel →
      (vs = [] → first = true) →
      skipSpace whole = skipSpace (lead first ++ text ++ ']' :: rest) →
      Outcome levels room (readItems (readValue room) fuel first seen whole)
        (seen.reverse ++ vs) rest
  | .members ms => ∀ room first fuel seen whole rest, ms.length < fuel →
      (ms = [] → first = true) →
      skipSpace whole = skipSpace (lead first ++ text ++ '\x7d' :: rest) →
      Outcome levels room (readMembers (readValue room) fuel first seen whole)
        (Members.setAll seen ms) rest

section Reads

variable {levels more room fuel : Nat} {first : Bool} {v : Value} {text row whole rest : List Char}

/-- At the closing bracket the items seen so far are the array. -/
theorem readItems_end {item : List Char → Step Value} {seen : List Value}
    (h : skipSpace whole = ']' :: rest) :
    readItems item (fuel + 1) first seen whole = .ok (seen.reverse, rest) := by
  rw [readItems, nextItem_end h]
  rfl

/-- At the closing brace the members seen so far are the object. -/
theorem readMembers_end {item : List Char → Step Value} {seen : Members}
    (h : skipSpace whole = '\x7d' :: rest) :
    readMembers item (fuel + 1) first seen whole = .ok (seen, rest) := by
  rw [readMembers, nextName_end h]
  rfl

/-- Reading of an item, in front of what follows it. -/
theorem outcome_item {items seen : List Value} {left : List Char}
    (h : IsText levels (.value v) text) (hreads : (Content.value v).Reads levels text)
    (hends : EndsNumeral left) (hwhole : skipSpace whole = skipSpace (lead first ++ (text ++ left)))
    (hnext : ∀ whole, skipSpace whole = skipSpace left →
      Outcome more room (readItems (readValue room) fuel false (v :: seen) whole)
        (seen.reverse ++ v :: items) rest) :
    Outcome (max levels more) room (readItems (readValue room) (fuel + 1) first seen whole)
      (seen.reverse ++ v :: items) rest := by
  obtain ⟨c, behind, hskip, hc⟩ := h.exists_first left
  rw [readItems, nextItem_value hwhole hskip hc]
  have hvalue := hreads room left hends
  rw [← readValue_congr (skipSpace_skipSpace (text ++ left)), hskip] at hvalue
  exact hvalue.andThen hnext

/-- Reading of a member, in front of what follows it. -/
theorem outcome_member {name : String} {seen all : Members} {nameText left : List Char}
    (hname : IsName name nameText) (hreads : (Content.value v).Reads levels text)
    (hends : EndsNumeral left)
    (hwhole : skipSpace whole = skipSpace (lead first ++ nameText ++ ':' :: (text ++ left)))
    (hnext : ∀ whole, skipSpace whole = skipSpace left →
      Outcome more room (readMembers (readValue room) fuel false (seen.set name v) whole) all
        rest) :
    Outcome (max levels more) room (readMembers (readValue room) (fuel + 1) first seen whole) all
      rest := by
  obtain ⟨behind, hread, hbehind⟩ := nextName_name hname hwhole
  have hcolon : skipSpace behind = ':' :: (text ++ left) := by
    rw [hbehind]
    exact skipSpace_cons (by decide) _
  rw [readMembers, hread]
  simp only [Step.andThen, readColon_append hcolon]
  exact (hreads room left hends).andThen hnext

/-- A comma or a closing bracket ends a number. -/
theorem endsNumeral_separator {c : Char} (hc : c = ',' ∨ c = ']' ∨ c = '\x7d') (rest : List Char) :
    EndsNumeral (c :: rest) := by
  obtain rfl | rfl | rfl := hc <;> rfl

/-! ### One constructor after the other -/

/-- The reader has fuel for each of the items, since each takes a character. -/
theorem reads_array {items : List Value} (hcount : items.length ≤ row.length)
    (h : (Content.items items).Reads levels row) :
    (Content.value (.array items)).Reads (levels + 1) ('[' :: row ++ [']']) := by
  intro room rest _
  rw [List.cons_append, List.cons_append, List.append_assoc, List.singleton_append]
  refine outcome_container (.inl rfl) fun room => Outcome.map ?_ Value.array
  refine h room true _ [] _ rest ?_ (fun _ => rfl) rfl
  rw [List.length_append]
  omega

/-- Members in braces are read as an object, in which a later member replaces an earlier one. -/
theorem reads_object {written : Members} (hcount : written.length ≤ row.length)
    (h : (Content.members written).Reads levels row) :
    (Content.value (.object (Members.setAll [] written))).Reads (levels + 1)
      ('\x7b' :: row ++ ['\x7d']) := by
  intro room rest _
  rw [List.cons_append, List.cons_append, List.append_assoc, List.singleton_append]
  refine outcome_container (.inr rfl) fun room => Outcome.map ?_ Value.object
  refine h room true _ [] _ rest ?_ (fun _ => rfl) rfl
  rw [List.length_append]
  omega

/-- White space in front of a value changes nothing. -/
theorem reads_space_before {c : Char} (hc : isSpace c = true)
    (h : (Content.value v).Reads levels text) : (Content.value v).Reads levels (c :: text) := by
  intro room rest hrest
  rw [List.cons_append, readValue_cons_space hc]
  exact h room rest hrest

theorem reads_space_after {c : Char} (hc : isSpace c = true)
    (h : (Content.value v).Reads levels text) : (Content.value v).Reads levels (text ++ [c]) := by
  intro room rest hrest
  have hblank : IsBlank [c] := fun d hd => by rwa [List.mem_singleton.1 hd]
  rw [List.append_assoc]
  have houtcome := h room ([c] ++ rest) (endsNumeral_append hblank hrest)
  exact houtcome.congr (skipSpace_append hblank rest)

/-- White space is read as no items. -/
theorem reads_no_items (h : IsBlank text) : (Content.items []).Reads 0 text := by
  intro room first fuel seen whole rest hfuel hfirst hwhole
  obtain ⟨fuel, rfl⟩ := Nat.exists_eq_add_one_of_ne_zero (Nat.ne_zero_of_lt hfuel)
  obtain rfl := hfirst rfl
  have hend : skipSpace whole = ']' :: rest :=
    hwhole.trans ((skipSpace_append h _).trans (skipSpace_cons (by decide) rest))
  rw [List.append_nil]
  exact outcome_of_ok rest (readItems_end hend) rfl

/-- A value alone is read as one item. -/
theorem reads_item (htext : IsText levels (.value v) text)
    (h : (Content.value v).Reads levels text) : (Content.items [v]).Reads levels text := by
  intro room first fuel seen whole rest hfuel _ hwhole
  obtain ⟨fuel, rfl⟩ : ∃ k, fuel = k + 1 + 1 := ⟨fuel - 2, by simp at hfuel; omega⟩
  rw [← Nat.max_zero levels]
  refine outcome_item htext h (endsNumeral_separator (.inr (.inl rfl)) rest) ?_ fun whole hend => ?_
  · rwa [List.append_assoc] at hwhole
  · rw [skipSpace_cons (by decide)] at hend
    rw [← List.reverse_cons]
    exact outcome_of_ok rest (readItems_end hend) rfl

/-- A value, a comma and items are read as the value and the items. -/
theorem reads_items {w : Value} {items : List Value} (htext : IsText levels (.value v) text)
    (h : (Content.value v).Reads levels text)
    (hrest : (Content.items (w :: items)).Reads more row) :
    (Content.items (v :: w :: items)).Reads (max levels more) (text ++ ',' :: row) := by
  intro room first fuel seen whole rest hfuel _ hwhole
  obtain ⟨fuel, rfl⟩ := Nat.exists_eq_add_one_of_ne_zero (Nat.ne_zero_of_lt hfuel)
  refine outcome_item htext h (endsNumeral_separator (.inl rfl) (row ++ ']' :: rest)) ?_
    fun whole hwhole => ?_
  · rw [hwhole]
    simp only [List.append_assoc, List.cons_append]
  · have hall := hrest room false fuel (v :: seen) whole rest (Nat.lt_of_succ_lt_succ hfuel)
      nofun hwhole
    rwa [List.reverse_cons, List.append_assoc, List.singleton_append] at hall

/-- White space is read as no members. -/
theorem reads_no_members (h : IsBlank text) : (Content.members []).Reads 0 text := by
  intro room first fuel seen whole rest hfuel hfirst hwhole
  obtain ⟨fuel, rfl⟩ := Nat.exists_eq_add_one_of_ne_zero (Nat.ne_zero_of_lt hfuel)
  obtain rfl := hfirst rfl
  have hend : skipSpace whole = '\x7d' :: rest :=
    hwhole.trans ((skipSpace_append h _).trans (skipSpace_cons (by decide) rest))
  exact outcome_of_ok rest (readMembers_end hend) rfl

/-- A name, a colon and a value are read as one member. -/
theorem reads_member {name : String} {nameText : List Char} (hname : IsName name nameText)
    (h : (Content.value v).Reads levels text) :
    (Content.members [(name, v)]).Reads levels (nameText ++ ':' :: text) := by
  intro room first fuel seen whole rest hfuel _ hwhole
  obtain ⟨fuel, rfl⟩ : ∃ k, fuel = k + 1 + 1 := ⟨fuel - 2, by simp at hfuel; omega⟩
  rw [← Nat.max_zero levels]
  refine outcome_member hname h (endsNumeral_separator (.inr (.inr rfl)) rest) ?_
    fun whole hend => ?_
  · rw [hwhole]
    simp only [List.append_assoc, List.cons_append]
  · rw [skipSpace_cons (by decide)] at hend
    exact outcome_of_ok rest (readMembers_end hend) rfl

/-- A member, a comma and members are read as the member and the members. -/
theorem reads_members {name : String} {nameText : List Char} {m : String × Value}
    {written : Members} (hname : IsName name nameText) (h : (Content.value v).Reads levels text)
    (hrest : (Content.members (m :: written)).Reads more row) :
    (Content.members ((name, v) :: m :: written)).Reads (max levels more)
      (nameText ++ ':' :: text ++ ',' :: row) := by
  intro room first fuel seen whole rest hfuel _ hwhole
  obtain ⟨fuel, rfl⟩ := Nat.exists_eq_add_one_of_ne_zero (Nat.ne_zero_of_lt hfuel)
  refine outcome_member hname h (endsNumeral_separator (.inl rfl) (row ++ '\x7d' :: rest)) ?_
    fun whole hwhole => ?_
  · rw [hwhole]
    simp only [List.append_assoc, List.cons_append]
  · exact hrest room false fuel (seen.set name v) whole rest (Nat.lt_of_succ_lt_succ hfuel)
      nofun hwhole

/-- What stands in a text is read, or the text opens too many levels. -/
theorem isText_reads {p : Content} (h : IsText levels p text) : p.Reads levels text := by
  induction h with
  | null | yes | no =>
    intro room rest _
    refine outcome_of_ok rest ?_ rfl
    rw [readValue, List.cons_append, skipSpace_cons (by decide)]
    rfl
  | number h => exact fun room rest hrest => outcome_numeral h hrest
  | string h => exact fun room rest _ => outcome_string h
  | array h ih => exact reads_array h.count_le ih
  | object h ih => exact reads_object h.count_le ih
  | space_before hc _ ih => exact reads_space_before hc ih
  | space_after hc _ ih => exact reads_space_after hc ih
  | no_items h => exact reads_no_items h
  | item h ih => exact reads_item h ih
  | items h _ ih ihrest => exact reads_items h ih ihrest
  | no_members h => exact reads_no_members h
  | member hname _ ih => exact reads_member hname ih
  | members hname _ _ ih ihrest => exact reads_members hname ih ihrest

end Reads

/-! ## Whole texts -/

/-- A text is read if it opens no more levels than the reader has free. If it opens more, that is
why the reader stops. -/
theorem parse_of_isText {levels : Nat} {v : Value} {text : String}
    (h : IsText levels (.value v) text.toList) :
    (levels ≤ depthLimit → parse text = .ok v) ∧
      (depthLimit < levels → ∃ fault, parse text = .error fault ∧ fault.cause = .tooDeep) := by
  have houtcome := isText_reads h depthLimit [] endsNumeral_nil
  rw [List.append_nil] at houtcome
  constructor
  · intro hlevels
    obtain ⟨left, hread, hleft⟩ := houtcome.ok hlevels
    have hend : readEnd left = .ok () := by
      rw [readEnd, hleft]
      rfl
    simp only [parse, parseWithin, hread, hend]
  · intro hdeep
    obtain ⟨stop, hread, hstop⟩ := houtcome.tooDeep hdeep
    refine ⟨stop.fault text.toList, ?_, hstop⟩
    simp only [parse, parseWithin, hread]

end SearchIndex.Json
