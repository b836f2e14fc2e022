import SearchIndex.Proofs.Decimal.Form
import SearchIndex.Proofs.Filter.ClauseSegments
import SearchIndex.Proofs.Filter.Tree

/-!
# The grammar of filters

A reader of the grammar that filters are written in, with no regard to how the compiler writes them.
A text is cut into segments and these into tokens; the tokens are read by recursive descent. A
disjunction is made of conjunctions, and a conjunction of conditions, each of which is a comparison, a
call, a negated condition, or a disjunction in parentheses. Keywords are known in any case.

The laws say what the reader does on tokens in front of others: `reads_comparison`, `reads_call`,
`reads_not` and `reads_enclosed` for a condition, `reads_row_of_condition` and `reads_row_cons` for
conditions in a row.
-/

namespace SearchIndex.Filter.Grammar

/-! ## Tokens -/

/-- A token of the grammar. -/
inductive Token where
  | opening
  | closing
  | comma
  | literal (text : List Char)
  | word (text : List Char)
deriving DecidableEq, Repr

/-- The character belongs to a word: a name, a keyword or a number. -/
def inWord (c : Char) : Bool :=
  RawText.continuesWord c || c == '/' || c == '.' || c == '-' || c == '+'

/-- The word that was read, if it is not empty. -/
def flush (word : List Char) : List Token :=
  if word.isEmpty then [] else [.word word]

theorem flush_nil : flush [] = [] := rfl

/-- What a character outside of words stands for: white space for nothing. -/
def mark? (c : Char) : Option (List Token) :=
  if c = '(' then some [.opening]
  else if c = ')' then some [.closing]
  else if c = ',' then some [.comma]
  else if Text.isBlank c then some []
  else none

/-- The tokens of segments, after the beginning of a word. -/
def lexFrom (word : List Char) : List Segment → Option (List Token)
  | [] => some (flush word)
  | .literal text :: ss => (lexFrom [] ss).map (flush word ++ .literal text :: ·)
  | .plain c :: ss =>
    if inWord c then lexFrom (word ++ [c]) ss
    else (mark? c).bind fun ts => (lexFrom [] ss).map (flush word ++ ts ++ ·)

/-- The tokens of a text. -/
def tokens? (text : String) : Option (List Token) :=
  (Segment.cut text.toList).bind (lexFrom [])

/-! ## Expressions -/

/-- What a column is compared with: a text, or a number, truth value or null as it is written. -/
inductive Operand where
  | text (text : List Char)
  | constant (word : List Char)
deriving DecidableEq, Repr

/-- A condition that is true or false of a record. -/
inductive Atom where
  | comparison (column : List Char) (c : Comparison) (operand : Operand)
  /-- The column matches the pattern. -/
  | ismatch (pattern column : List Char)
  /-- The column is in the list, whose members the delimiter parts. -/
  | isin (column list delimiter : List Char)
deriving DecidableEq, Repr

/-- An expression of the grammar. -/
inductive Expr where
  | atom (a : Atom)
  | not (e : Expr)
  | join (connective : Connective) (e f : Expr)
deriving DecidableEq, Repr

/-- The truth value of two conditions with a connective. -/
def combine : Connective → Bool → Bool → Bool
  | .and => (· && ·)
  | .or => (· || ·)

/-- The truth value of an expression, if the atoms have the given ones. -/
def Expr.holds (truth : Atom → Bool) : Expr → Bool
  | .atom a => truth a
  | .not e => !e.holds truth
  | .join connective e f => combine connective (e.holds truth) (f.holds truth)

/-! ## Reading -/

/-- The word is the keyword in any case. -/
def isKeyword (keyword : String) (word : List Char) : Bool :=
  word.map Char.toLower == keyword.toList

/-- The comparison of a word. -/
def comparison? (word : List Char) : Option Comparison :=
  [.eq, .ne, .gt, .ge, .lt, .le].find? fun c => isKeyword (Comparison.word c) word

/-- The word is a number, a truth value or null. -/
def isConstant (word : List Char) : Bool :=
  isKeyword "null" word || isKeyword "true" word || isKeyword "false" word ||
    Decimal.isNumber word

/-- The operand of a token. -/
def operand? : Token → Option Operand
  | .literal text => some (.text text)
  | .word word => if isConstant word then some (.constant word) else none
  | _ => none

/-- Reads a comparison behind its column. -/
def readComparison (column : List Char) : List Token → Option (Expr × List Token)
  | .word operator :: value :: rest =>
    (comparison? operator).bind fun c => (operand? value).map fun operand =>
      (.atom (.comparison column c operand), rest)
  | _ => none

/-- Reads a call behind its name. -/
def readCall (name : List Char) : List Token → Option (Expr × List Token)
  | .opening :: .literal pattern :: .comma :: .literal column :: .closing :: rest =>
    if name = "search.ismatch".toList then some (.atom (.ismatch pattern column), rest) else none
  | .opening :: .word column :: .comma :: .literal list :: .comma :: .literal delimiter ::
      .closing :: rest =>
    if name = "search.in".toList ∧ isIdentifier column then
      some (.atom (.isin column list delimiter), rest)
    else none
  | _ => none

mutual

/-- Reads conditions with the connective between them. A disjunction is made of conjunctions. -/
def readRow : (fuel : Nat) → Connective → List Token → Option (Expr × List Token)
  | 0, _, _ => none
  | fuel + 1, connective, ts =>
    (match connective with
      | .and => readCondition fuel ts
      | .or => readRow fuel .and ts).bind fun (e, rest) =>
    match rest with
    | .word word :: more =>
      if isKeyword connective.word word then
        (readRow fuel connective more).map fun (f, rest) => (.join connective e f, rest)
      else some (e, rest)
    | _ => some (e, rest)

/-- Reads one condition. A negation binds tighter than the connectives. -/
def readCondition : (fuel : Nat) → List Token → Option (Expr × List Token)
  | fuel + 1, .word word :: rest =>
    if isIdentifier word then readComparison word rest
    else if isKeyword "not" word then
      (readCondition fuel rest).map fun (e, rest) => (.not e, rest)
    else readCall word rest
  | fuel + 1, .opening :: rest =>
    match readRow fuel .or rest with
    | some (e, .closing :: more) => some (e, more)
    | _ => none
  | _, _ => none

end

/-- The expression that tokens are read as, all of them. Each token takes at most three steps. -/
def readAll (ts : List Token) : Option Expr :=
  match readRow (3 * ts.length + 2) .or ts with
  | some (e, []) => some e
  | _ => none

/-- The expression that a text is read as. -/
def parse (text : String) : Option Expr :=
  (tokens? text).bind readAll

example : parse "a eq 1 or b ne 'x' and NOT c gt 2" = some (.join .or
    (.atom (.comparison ['a'] .eq (.constant ['1'])))
    (.join .and (.atom (.comparison ['b'] .ne (.text ['x'])))
      (.not (.atom (.comparison ['c'] .gt (.constant ['2'])))))) := by
  rfl

/-! ## Tokens of texts in a row -/

/-- The segment belongs to a word. -/
def segmentInWord : Segment → Bool
  | .literal _ => false
  | .plain c => inWord c

/-- A word that has been read ends in front of a segment that belongs to none. -/
theorem lexFrom_of_head? (word : List Char) {ts : List Segment}
    (h : ∀ t ∈ ts.head?, segmentInWord t = false) :
    lexFrom word ts = (lexFrom [] ts).map (flush word ++ ·) := by
  cases ts with
  | nil => simp [lexFrom, flush_nil]
  | cons t ts =>
    have ht : segmentInWord t = false := h t rfl
    cases t with
    | literal text =>
      simp only [lexFrom, Option.map_map]
      rfl
    | plain c =>
      have hc : inWord c = false := ht
      simp only [lexFrom, hc, Bool.false_eq_true, if_false]
      cases mark? c with
      | none => rfl
      | some marks => simp [Function.comp_def, flush_nil]

/-- Segments are cut into tokens one after the other, if no word runs over the seam. -/
theorem lexFrom_append {word : List Char} {ss ts : List Segment}
    (hseam : (∀ t ∈ ts.head?, segmentInWord t = false) ∨
      (∀ s ∈ ss.getLast?, segmentInWord s = false) ∧ (ss = [] → word = [])) :
    lexFrom word (ss ++ ts) =
      (lexFrom word ss).bind fun tokens => (lexFrom [] ts).map (tokens ++ ·) := by
  induction ss generalizing word with
  | nil =>
    rcases hseam with hseam | ⟨-, hword⟩
    · exact lexFrom_of_head? word hseam
    · obtain rfl := hword rfl
      simp [lexFrom, flush]
  | cons s ss ih =>
    -- What holds of the last segment holds of it without the first one.
    have hlast (h : ∀ s' ∈ (s :: ss).getLast?, segmentInWord s' = false) :
        ∀ s' ∈ ss.getLast?, segmentInWord s' = false := by
      intro s' hs'
      refine h s' ?_
      rw [List.getLast?_cons, Option.mem_def.1 hs']
      rfl
    have hrest := @ih [] (hseam.imp_right fun h => ⟨hlast h.1, fun _ => rfl⟩)
    cases s with
    | literal text =>
      simp only [List.cons_append, lexFrom, hrest]
      cases lexFrom [] ss with
      | none => rfl
      | some tokens => simp [Function.comp_def]
    | plain c =>
      cases hc : inWord c with
      | true =>
        simp only [List.cons_append, lexFrom, hc, if_true]
        refine ih (hseam.imp_right fun h => ⟨hlast h.1, ?_⟩)
        rintro rfl
        have hplain : inWord c = false := h.1 (.plain c) rfl
        rw [hc] at hplain
        cases hplain
      | false =>
        simp only [List.cons_append, lexFrom, hc, Bool.false_eq_true, if_false, hrest]
        cases mark? c with
        | none => rfl
        | some marks =>
          cases lexFrom [] ss with
          | none => rfl
          | some tokens => simp [Function.comp_def]

/-- White space between words. -/
theorem lexFrom_space (ss : List Segment) : lexFrom [] (.plain ' ' :: ss) = lexFrom [] ss := by
  have hspace : inWord ' ' = false := by decide
  have hmark : mark? ' ' = some [] := by decide
  simp only [lexFrom, hspace, Bool.false_eq_true, if_false, hmark, Option.bind_some, flush_nil,
    List.nil_append, Option.map_id']

/-- The text is cut into the tokens. -/
def HasTokens (text : String) (ts : List Token) : Prop :=
  tokens? text = some ts

/-- The tokens of a text are those of the segments that it is cut into. -/
theorem hasTokens_iff {text : String} {ts : List Token} :
    HasTokens text ts ↔ ∃ ss, Cuts text.toList ss ∧ lexFrom [] ss = some ts := by
  simp only [HasTokens, tokens?, Option.bind_eq_some_iff, cut_eq_some_iff]

/-- The tokens of two texts follow each other, unless two quotes or two words meet. -/
theorem HasTokens.append {s t : String} {ts us : List Token} (hs : HasTokens s ts)
    (ht : HasTokens t us) (hquote : '\'' ∉ s.toList ∨ t.toList.head? ≠ some '\'')
    (hseam : t.toList.head?.any inWord = false ∨ s.toList.getLast?.any inWord = false) :
    HasTokens (s ++ t) (ts ++ us) := by
  obtain ⟨ss, hss, hlex⟩ := hasTokens_iff.1 hs
  obtain ⟨ss', hss', hlex'⟩ := hasTokens_iff.1 ht
  refine hasTokens_iff.2 ⟨ss ++ ss', cuts_append hss hss' hquote, ?_⟩
  rw [lexFrom_append, hlex, hlex']
  · rfl
  · refine hseam.imp (fun h s hs => ?_) fun h => ⟨fun s hs => ?_, fun _ => rfl⟩
    · cases s with
      | literal text => rfl
      | plain c => exact Text.eq_false_of_any_eq_false h c (hss'.mem_head? hs)
    · cases s with
      | literal text => rfl
      | plain c => exact Text.eq_false_of_any_eq_false h c (hss.mem_getLast? hs)

/-- The characters of a word, after the beginning of one. -/
theorem lexFrom_plains {word cs : List Char} (h : ∀ c ∈ cs, inWord c = true) :
    lexFrom word (Segment.plains cs) = some (flush (word ++ cs)) := by
  induction cs generalizing word with
  | nil =>
    rw [List.append_nil]
    rfl
  | cons c cs ih =>
    show lexFrom word (.plain c :: Segment.plains cs) = _
    rw [lexFrom, if_pos (h c List.mem_cons_self), ih fun d hd => h d (List.mem_cons_of_mem c hd),
      List.append_assoc]
    rfl

/-- An identifier is in one word. -/
theorem inWord_of_mem_identifier {column : List Char} (h : isIdentifier column = true) :
    ∀ c ∈ column, inWord c = true := by
  intro c hc
  simp only [inWord, continuesWord_of_mem_identifier h c hc, Bool.true_or]

/-- A column in front of what goes on with no word. -/
theorem lexFrom_column {column : List Char} (h : isIdentifier column = true) {ts : List Segment}
    (hseam : ∀ t ∈ ts.head?, segmentInWord t = false) :
    lexFrom [] (Segment.plains column ++ ts) = (lexFrom [] ts).map (.word column :: ·) := by
  rw [lexFrom_append (.inl hseam), lexFrom_plains (inWord_of_mem_identifier h), List.nil_append]
  cases column with
  | nil => cases h
  | cons c column => rfl

/-! ## Conditions in front of other tokens -/

/-- The tokens are read as the condition, whatever follows. -/
def ReadsCondition (ts : List Token) (e : Expr) : Prop :=
  ∀ fuel rest, 3 * ts.length ≤ fuel → readCondition fuel (ts ++ rest) = some (e, rest)

/-- The word of a comparison is read as the comparison. -/
theorem comparison?_word (c : Comparison) : comparison? c.word.toList = some c := by
  cases c <;> decide

/-- A column, a comparison and an operand are a condition. -/
theorem reads_comparison {column : List Char} (hcol : isIdentifier column = true) (c : Comparison)
    {value : Token} {operand : Operand} (hvalue : operand? value = some operand) :
    ReadsCondition [.word column, .word c.word.toList, value]
      (.atom (.comparison column c operand)) := by
  intro fuel rest hfuel
  obtain ⟨fuel, rfl⟩ : ∃ k, fuel = k + 1 := ⟨fuel - 1, by simp at hfuel; omega⟩
  simp only [List.cons_append, List.nil_append, readCondition, hcol, if_true, readComparison,
    comparison?_word, hvalue, Option.bind_some, Option.map_some]

/-- The name of a call is no identifier, because of its dot. -/
theorem reads_call {name : List Char} {ts : List Token} {e : Expr}
    (hname : isIdentifier name = false) (hnot : isKeyword "not" name = false)
    (hcall : ∀ rest, readCall name (ts ++ rest) = some (e, rest)) :
    ReadsCondition (.word name :: ts) e := by
  intro fuel rest hfuel
  rw [List.length_cons] at hfuel
  obtain ⟨fuel, rfl⟩ : ∃ k, fuel = k + 1 := ⟨fuel - 1, by omega⟩
  simp only [List.cons_append, readCondition, hname, hnot, Bool.false_eq_true, if_false, hcall]

/-- The call that matches a pattern is a condition. -/
theorem reads_ismatch (pattern column : List Char) :
    ReadsCondition [.word "search.ismatch".toList, .opening, .literal pattern, .comma,
      .literal column, .closing] (.atom (.ismatch pattern column)) := by
  refine reads_call (by decide) (by decide) fun rest => ?_
  simp only [List.cons_append, List.nil_append, readCall, if_true]

/-- The call that looks for a member is a condition. -/
theorem reads_isin {column : List Char} (hcol : isIdentifier column = true)
    (list delimiter : List Char) :
    ReadsCondition [.word "search.in".toList, .opening, .word column, .comma, .literal list, .comma,
      .literal delimiter, .closing] (.atom (.isin column list delimiter)) := by
  refine reads_call (by decide) (by decide) fun rest => ?_
  simp only [List.cons_append, List.nil_append, readCall, hcol, and_self, if_true]

theorem reads_not {ts : List Token} {e : Expr} (h : ReadsCondition ts e) :
    ReadsCondition (.word "not".toList :: ts) (.not e) := by
  intro fuel rest hfuel
  rw [List.length_cons] at hfuel
  obtain ⟨fuel, rfl⟩ : ∃ k, fuel = k + 1 := ⟨fuel - 1, by omega⟩
  have hname : isIdentifier "not".toList = false := by decide
  have hnot : isKeyword "not" "not".toList = true := by decide
  simp only [List.cons_append, readCondition, hname, hnot, Bool.false_eq_true, if_false, if_true,
    h fuel rest (by omega), Option.map_some]

/-! ## Rows of conditions -/

/-- A row of conditions ends before the tokens: they do not go on with a connective. -/
def Stops (connective : Connective) : List Token → Prop
  | .word word :: _ => isKeyword "and" word = false ∧
      (connective = .or → isKeyword "or" word = false)
  | _ => True

/-- How many calls deeper than a condition a row is read. -/
def level : Connective → Nat
  | .and => 1
  | .or => 2

/-- The tokens are read as the conditions with the connective between them, if the row ends before
what follows. -/
def ReadsRow (connective : Connective) (ts : List Token) (e : Expr) : Prop :=
  ∀ fuel rest, 3 * ts.length + level connective ≤ fuel → Stops connective rest →
    readRow fuel connective (ts ++ rest) = some (e, rest)

/-- A condition alone is a conjunction. -/
theorem reads_and_of_condition {ts : List Token} {e : Expr} (h : ReadsCondition ts e) :
    ReadsRow .and ts e := by
  intro fuel rest hfuel hstop
  obtain ⟨fuel, rfl⟩ : ∃ k, fuel = k + 1 := ⟨fuel - 1, by simp only [level] at hfuel; omega⟩
  simp only [readRow, h fuel rest (by simp only [level] at hfuel; omega), Option.bind_some]
  match rest, hstop with
  | .word word :: more, hstop => simp only [Connective.word, hstop.1, Bool.false_eq_true, if_false]
  | [], _ | .opening :: _, _ | .closing :: _, _ | .comma :: _, _ | .literal _ :: _, _ => rfl

/-- A conjunction alone is a disjunction. -/
theorem reads_or_of_and {ts : List Token} {e : Expr} (h : ReadsRow .and ts e) :
    ReadsRow .or ts e := by
  intro fuel rest hfuel hstop
  obtain ⟨fuel, rfl⟩ : ∃ k, fuel = k + 1 := ⟨fuel - 1, by simp only [level] at hfuel; omega⟩
  have hand : Stops .and rest := by
    match rest, hstop with
    | .word word :: more, hstop => exact ⟨hstop.1, nofun⟩
    | [], _ | .opening :: _, _ | .closing :: _, _ | .comma :: _, _ | .literal _ :: _, _ => trivial
  have hfuel' : 3 * ts.length + level .and ≤ fuel := by simp only [level] at hfuel ⊢; omega
  simp only [readRow, h fuel rest hfuel' hand, Option.bind_some]
  match rest, hstop with
  | .word word :: more, hstop =>
    simp only [Connective.word, hstop.2 rfl, Bool.false_eq_true, if_false]
  | [], _ | .opening :: _, _ | .closing :: _, _ | .comma :: _, _ | .literal _ :: _, _ => rfl

/-- A condition is a row of its own. -/
theorem reads_row_of_condition (connective : Connective) {ts : List Token} {e : Expr}
    (h : ReadsCondition ts e) : ReadsRow connective ts e := by
  cases connective with
  | and => exact reads_and_of_condition h
  | or => exact reads_or_of_and (reads_and_of_condition h)

/-- A condition may stand in front of a row. -/
theorem reads_row_cons {connective : Connective} {ts us : List Token} {e f : Expr}
    (h : ReadsCondition ts e) (hrow : ReadsRow connective us f) :
    ReadsRow connective (ts ++ .word connective.word.toList :: us) (.join connective e f) := by
  intro fuel rest hfuel hstop
  simp only [List.length_append, List.length_cons] at hfuel
  obtain ⟨fuel, rfl⟩ : ∃ k, fuel = k + 1 := ⟨fuel - 1, by omega⟩
  have hmore := hrow fuel rest (by omega) hstop
  have hkeyword : isKeyword connective.word connective.word.toList = true := by
    cases connective <;> decide
  rw [List.append_assoc, List.cons_append]
  cases connective with
  | and =>
    simp only [readRow, h fuel _ (by omega), Option.bind_some, hkeyword, if_true, hmore,
      Option.map_some]
  | or =>
    have hfirst := reads_and_of_condition h fuel
      (.word (Connective.word .or).toList :: (us ++ rest)) (by simp only [level] at hfuel ⊢; omega)
      ⟨by decide, nofun⟩
    simp only [readRow] at hfirst ⊢
    rw [hfirst]
    simp only [Option.bind_some, hkeyword, if_true, hmore, Option.map_some]

/-- A row in parentheses is a condition. -/
theorem reads_enclosed {connective : Connective} {ts : List Token} {e : Expr}
    (h : ReadsRow connective ts e) : ReadsCondition (.opening :: ts ++ [.closing]) e := by
  have hor : ReadsRow .or ts e := by
    cases connective with
    | and => exact reads_or_of_and h
    | or => exact h
  intro fuel rest hfuel
  simp only [List.length_append, List.length_cons] at hfuel
  obtain ⟨fuel, rfl⟩ : ∃ k, fuel = k + 1 := ⟨fuel - 1, by omega⟩
  have hrow := hor fuel (.closing :: rest) (by simp only [level]; omega) trivial
  simp only [List.cons_append, List.append_assoc, List.nil_append, readCondition, hrow]

/-- A text whose tokens are a conjunction is read as it. -/
theorem parse_of_reads {text : String} {ts : List Token} {e : Expr} (htokens : HasTokens text ts)
    (h : ReadsRow .and ts e) : parse text = some e := by
  have hrow := reads_or_of_and h (3 * ts.length + 2) [] (Nat.le_refl _) trivial
  rw [List.append_nil] at hrow
  rw [parse, htokens, Option.bind_some, readAll, hrow]

end SearchIndex.Filter.Grammar
