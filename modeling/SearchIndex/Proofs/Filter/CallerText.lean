import SearchIndex.Proofs.Filter.Nesting
import SearchIndex.Proofs.Filter.NormalForm

/-!
# What becomes of text written by callers

The normal form of a text has the literals and the parentheses of the text, in their order
(`hasFrame_normalize`); and a text with closed literals and parentheses is sealed once it was
enclosed (`exists_sealed_enclose`), since the scan for an `or` finds every one there is and nothing
else (`hasOrWithin_iff`).
-/

namespace SearchIndex.Filter

open Segment (plains depthFrom nest HasTopLevelOr IsWord Sealed)
open RawText (Token)

/-! ## Cutting off a beginning -/

namespace Cuts

variable {cs ds : List Char} {ss : List Segment}

/-- A character other than a quote is a segment of its own. -/
theorem exists_of_cons {c : Char} (hc : c ≠ '\'') (h : Cuts (c :: cs) ss) :
    ∃ ts, ss = .plain c :: ts ∧ Cuts cs ts := by
  generalize heq : c :: cs = all at h
  cases h with
  | nil => cases heq
  | plain _ h =>
    cases heq
    exact ⟨_, rfl, h⟩
  | literal text _ _ =>
    simp only [Literal.quote, List.cons_append, List.cons.injEq] at heq
    exact absurd heq.1 hc

/-- A quote starts a literal, which ends at a quote that no other quote follows. -/
theorem exists_of_quote (h : Cuts ('\'' :: cs) ss) :
    ∃ text rest ts, cs = Literal.escape text ++ '\'' :: rest ∧ rest.head? ≠ some '\'' ∧
      ss = .literal text :: ts ∧ Cuts rest ts := by
  generalize heq : '\'' :: cs = all at h
  cases h with
  | nil => cases heq
  | plain hc _ =>
    cases heq
    exact absurd rfl hc
  | literal text hrest h =>
    refine ⟨text, _, _, ?_, hrest, rfl, h⟩
    simpa [Literal.quote] using heq

/-- A text without quotes in front is cut into its characters. -/
theorem exists_of_plains_append (hquote : '\'' ∉ cs) (h : Cuts (cs ++ ds) ss) :
    ∃ ts, ss = plains cs ++ ts ∧ Cuts ds ts := by
  induction cs generalizing ss with
  | nil => exact ⟨ss, rfl, h⟩
  | cons c cs ih =>
    simp only [List.mem_cons, not_or] at hquote
    obtain ⟨ts, rfl, htail⟩ := h.exists_of_cons (Ne.symm hquote.1)
    obtain ⟨us, rfl, hus⟩ := ih hquote.2 htail
    exact ⟨us, rfl, hus⟩

/-- A run of characters other than quotes is cut into its characters. -/
theorem exists_of_run {p : Char → Bool} (hp : p '\'' = false) (hcuts : Cuts cs ss) :
    ∃ ts, ss = plains (cs.takeWhile p) ++ ts ∧ Cuts (cs.dropWhile p) ts := by
  rw [← List.takeWhile_append_dropWhile (p := p) (l := cs)] at hcuts
  refine exists_of_plains_append (fun hm => ?_) hcuts
  have hquote := List.all_eq_true.1 List.all_takeWhile _ hm
  rw [hp] at hquote
  cases hquote

/-- What is in no name at the beginning of a text is in none of its first segment. -/
theorem head?_inName (hcuts : Cuts cs ss) (h : ∀ c ∈ cs.head?, RawText.inName c = false) :
    ∀ s ∈ ss.head?, s.inName = false := by
  intro s hs
  cases s with
  | literal text => rfl
  | plain c => exact h c (hcuts.mem_head? hs)

/-- What is in no name at the end of a text is in none of its last segment. -/
theorem getLast?_inName (hcuts : Cuts cs ss)
    (h : ∀ c ∈ cs.getLast?, RawText.inName c = false) : ∀ s ∈ ss.getLast?, s.inName = false := by
  intro s hs
  cases s with
  | literal text => rfl
  | plain c => exact h c (hcuts.mem_getLast? hs)

/-- A name at the beginning of a text goes on as long as it can. -/
theorem exists_of_name {c : Char} (hname : RawText.inName c = true) (hcuts : Cuts (c :: cs) ss) :
    ∃ ts, ss = plains (c :: cs.takeWhile RawText.inName) ++ ts ∧
      Cuts (cs.dropWhile RawText.inName) ts ∧
      (∀ d ∈ c :: cs.takeWhile RawText.inName, RawText.inName d = true) ∧
      ∀ s ∈ ts.head?, s.inName = false := by
  obtain ⟨us, rfl, htail⟩ := hcuts.exists_of_cons (by rintro rfl; cases hname)
  obtain ⟨ts, rfl, hrest⟩ := htail.exists_of_run (p := RawText.inName) (by decide)
  refine ⟨ts, rfl, hrest, ?_, hrest.head?_inName (Text.head?_dropWhile RawText.inName cs)⟩
  exact List.forall_mem_cons.2 ⟨hname, List.all_eq_true.1 List.all_takeWhile⟩

end Cuts

/-! ## Where words stand -/

/-- A word stays one without the segments in front. -/
theorem Segment.IsWord.of_append (ss : List Segment) {before after : List Segment}
    {word : List Char} (h : IsWord (ss ++ before) word after) : IsWord before word after := by
  refine ⟨h.nonempty, h.inName, fun s hs => h.starts s ?_, h.ends⟩
  rw [List.getLast?_append, Option.mem_def.1 hs]
  rfl

/-- A word stays one behind more segments, if it does not go on with a name that ends them. -/
theorem Segment.IsWord.append {before after : List Segment} {word : List Char}
    (h : IsWord before word after) (front : List Segment)
    (hfront : before = [] → ∀ s ∈ front.getLast?, s.inName = false) :
    IsWord (front ++ before) word after := by
  refine ⟨h.nonempty, h.inName, fun s hs => ?_, h.ends⟩
  by_cases hnil : before = []
  · subst hnil
    rw [List.append_nil] at hs
    exact hfront rfl s hs
  · rw [List.getLast?_append_of_ne_nil _ hnil] at hs
    exact h.starts s hs

/-- A word stays one behind a segment that is in no name. -/
theorem Segment.IsWord.cons {s : Segment} {before after : List Segment} {word : List Char}
    (h : IsWord before word after) (hs : s.inName = false) : IsWord (s :: before) word after := by
  refine h.append [s] fun _ => ?_
  rintro _ ⟨⟩
  exact hs

/-- A word does not go on with a name that ends in front of it. -/
theorem Segment.IsWord.append_run {before after : List Segment} {word : List Char}
    (h : IsWord before word after)
    (hstop : ∀ s ∈ (before ++ plains word ++ after).head?, s.inName = false)
    (front : List Segment) : IsWord (front ++ before) word after := by
  refine h.append front ?_
  rintro rfl
  obtain ⟨c, word, rfl⟩ := List.exists_cons_of_ne_nil h.nonempty
  have hc := hstop (.plain c) rfl
  rw [Segment.inName, h.inName c List.mem_cons_self] at hc
  cases hc

/-- A word stands behind a segment that is no character of names. -/
theorem Segment.IsWord.exists_of_cons {s : Segment} {ss before after : List Segment}
    {word : List Char} (h : IsWord before word after) (hs : s.inName = false)
    (heq : s :: ss = before ++ plains word ++ after) :
    ∃ more, before = s :: more ∧ ss = more ++ plains word ++ after := by
  cases before with
  | nil =>
    obtain ⟨c, word, rfl⟩ := List.exists_cons_of_ne_nil h.nonempty
    obtain ⟨rfl, -⟩ : s = .plain c ∧ _ := by simpa [plains] using heq
    rw [Segment.inName, h.inName c List.mem_cons_self] at hs
    cases hs
  | cons t before =>
    simp only [List.cons_append, List.cons.injEq] at heq
    obtain ⟨rfl, rfl⟩ := heq
    exact ⟨before, rfl, rfl⟩

/-- Two longest runs from the same place are the same. -/
theorem plains_run_inj {word run : List Char} {ss ts : List Segment}
    (h : plains word ++ ss = plains run ++ ts) (hword : ∀ c ∈ word, RawText.inName c = true)
    (hrun : ∀ c ∈ run, RawText.inName c = true) (hss : ∀ s ∈ ss.head?, s.inName = false)
    (hts : ∀ t ∈ ts.head?, t.inName = false) : word = run := by
  have hall {cs : List Char} (hcs : ∀ c ∈ cs, RawText.inName c = true) :
      ∀ s ∈ plains cs, s.inName = true := by
    simpa [plains, Segment.inName] using hcs
  have htake := congrArg (List.takeWhile Segment.inName) h
  rw [Text.takeWhile_run (hall hword) hss, Text.takeWhile_run (hall hrun) hts] at htake
  exact List.map_injective_iff.2 (fun _ _ hcd => Segment.plain.inj hcd) htake

/-- A word is the longest run at the beginning, or stands behind it. -/
theorem Segment.IsWord.eq_or_exists_of_run {run word : List Char} {ss before after : List Segment}
    (h : IsWord before word after) (hrun : ∀ c ∈ run, RawText.inName c = true)
    (hstop : ∀ s ∈ ss.head?, s.inName = false)
    (heq : plains run ++ ss = before ++ plains word ++ after) :
    before = [] ∧ word = run ∨
      ∃ more, before = plains run ++ more ∧ ss = more ++ plains word ++ after := by
  rw [List.append_assoc] at heq
  obtain ⟨more, rfl, rfl⟩ | ⟨more, hbeginning, hword⟩ := List.append_eq_append_iff.1 heq
  · exact .inr ⟨more, rfl, (List.append_assoc ..).symm⟩
  · obtain ⟨left, right, rfl, rfl, rfl⟩ := List.map_eq_append_iff.1 hbeginning
    obtain rfl | ⟨left, d, rfl⟩ := List.eq_nil_or_concat left
    · exact .inl ⟨rfl, plains_run_inj hword h.inName hrun h.ends hstop⟩
    · -- The run goes on where the word starts.
      have hd : RawText.inName d = true := hrun d (by simp)
      have := h.starts (.plain d) (by simp)
      rw [Segment.inName, hd] at this
      cases this

/-- Names have no parentheses. -/
theorem depthFrom_name {name : List Char} (h : ∀ c ∈ name, RawText.inName c = true)
    (depth : Nat) : depthFrom depth (plains name) = some depth := by
  refine Segment.depthFrom_plains (fun hm => ?_) (fun hm => ?_) depth
  · exact absurd (h _ hm) (by decide)
  · exact absurd (h _ hm) (by decide)

/-! ## The scan for an `or` -/

/-- The scan goes on behind a character that is in no literal and no name. -/
theorem hasOrWithin_cons_of_skipped {depth e : Nat} {c : Char} (hquote : c ≠ '\'')
    (hname : RawText.inName c = false) (he : nest depth (.plain c) = some e) (fuel : Nat)
    (rest : List Char) :
    RawText.hasOrWithin (fuel + 1) depth (c :: rest) = RawText.hasOrWithin fuel e rest := by
  simp only [RawText.hasOrWithin, hquote, hname, if_false, Bool.false_eq_true]
  split_ifs with hopen hclose
  · subst hopen
    obtain rfl : depth + 1 = e := by simpa [nest] using he
    rfl
  · subst hclose
    obtain ⟨-, rfl⟩ : ¬ depth = 0 ∧ depth - 1 = e := by simpa [nest] using he
    rfl
  · obtain rfl : depth = e := by simpa [nest, hopen, hclose] using he
    rfl

/-- One of the words outside of literals and parentheses is an `or`, with `depth` parentheses open in
front of the text. -/
def HasOrFrom (depth : Nat) (ss : List Segment) : Prop :=
  ∃ before word after, ss = before ++ plains word ++ after ∧ IsWord before word after ∧
    depthFrom depth before = some 0 ∧ RawText.isOr word = true

/-- There are no words in an empty text. -/
theorem not_hasOrFrom_nil (depth : Nat) : ¬ HasOrFrom depth [] := by
  rintro ⟨before, word, after, heq, hword, -, -⟩
  simp [plains, hword.nonempty] at heq

/-- A segment that is in no name is passed over. -/
theorem hasOrFrom_cons {depth e : Nat} {s : Segment} (hs : s.inName = false)
    (he : nest depth s = some e) (ss : List Segment) :
    HasOrFrom depth (s :: ss) ↔ HasOrFrom e ss := by
  constructor
  · rintro ⟨before, word, after, heq, hword, hbefore, hor⟩
    obtain ⟨more, rfl, hmore⟩ := hword.exists_of_cons hs heq
    rw [Segment.depthFrom_cons, he] at hbefore
    exact ⟨more, word, after, hmore, hword.of_append [s], hbefore, hor⟩
  · rintro ⟨before, word, after, rfl, hword, hbefore, hor⟩
    refine ⟨s :: before, word, after, rfl, hword.cons hs, ?_, hor⟩
    rw [Segment.depthFrom_cons, he]
    exact hbefore

/-- A name is the word that is looked for, or the word comes later at the same depth. -/
theorem hasOrFrom_name {depth : Nat} {name : List Char} {ss : List Segment} (hne : name ≠ [])
    (hname : ∀ c ∈ name, RawText.inName c = true) (hstop : ∀ s ∈ ss.head?, s.inName = false) :
    HasOrFrom depth (plains name ++ ss) ↔
      depth = 0 ∧ RawText.isOr name = true ∨ HasOrFrom depth ss := by
  constructor
  · rintro ⟨before, word, after, heq, hword, hbefore, hor⟩
    obtain ⟨rfl, rfl⟩ | ⟨more, rfl, hmore⟩ := hword.eq_or_exists_of_run hname hstop heq
    · exact .inl ⟨Option.some.inj hbefore, hor⟩
    · rw [Segment.depthFrom_append, depthFrom_name hname] at hbefore
      exact .inr ⟨more, word, after, hmore, hword.of_append _, hbefore, hor⟩
  · rintro (⟨rfl, hor⟩ | ⟨before, word, after, rfl, hword, hbefore, hor⟩)
    · exact ⟨[], name, ss, rfl, ⟨hne, hname, nofun, hstop⟩, rfl, hor⟩
    · refine ⟨plains name ++ before, word, after, ?_, hword.append_run hstop _, ?_, hor⟩
      · rw [List.append_assoc, List.append_assoc, List.append_assoc]
      · rwa [Segment.depthFrom_append, depthFrom_name hname]

/-- The scan finds every `or` of a text whose parentheses close no more than they open, and nothing
else. -/
theorem hasOrWithin_iff {fuel depth : Nat} {cs : List Char} {ss : List Segment}
    (hfuel : cs.length ≤ fuel) (hcuts : Cuts cs ss) (hdepth : (depthFrom depth ss).isSome) :
    RawText.hasOrWithin fuel depth cs = true ↔ HasOrFrom depth ss := by
  induction fuel generalizing depth cs ss with
  | zero =>
    obtain rfl : cs = [] := List.length_eq_zero_iff.1 (Nat.le_zero.1 hfuel)
    cases hcuts
    exact iff_of_false Bool.false_ne_true (not_hasOrFrom_nil depth)
  | succ fuel ih =>
    cases cs with
    | nil =>
      cases hcuts
      exact iff_of_false Bool.false_ne_true (not_hasOrFrom_nil depth)
    | cons c rest =>
      have hlength : rest.length ≤ fuel := Nat.le_of_succ_le_succ hfuel
      by_cases hquote : c = '\''
      · subst hquote
        obtain ⟨text, rest, ts, rfl, hrest, rfl, htail⟩ := hcuts.exists_of_quote
        simp only [List.length_append, List.length_cons] at hlength
        rw [RawText.hasOrWithin_literal text hrest, hasOrFrom_cons rfl rfl]
        exact ih (by omega) htail hdepth
      · cases hname : RawText.inName c with
        | true =>
          obtain ⟨us, rfl, hrest, hrun, hstop⟩ := hcuts.exists_of_name hname
          rw [Segment.depthFrom_append, depthFrom_name hrun] at hdepth
          have hshorter := (List.dropWhile_sublist RawText.inName (l := rest)).length_le
          rw [RawText.hasOrWithin_name hname, Bool.or_eq_true, Bool.and_eq_true, beq_iff_eq,
            hasOrFrom_name (List.cons_ne_nil _ _) hrun hstop,
            ih (Nat.le_trans hshorter hlength) hrest hdepth]
        | false =>
          obtain ⟨us, rfl, htail⟩ := hcuts.exists_of_cons hquote
          obtain ⟨d, hd⟩ := Option.isSome_iff_exists.1 hdepth
          rw [Segment.depthFrom_cons] at hd
          obtain ⟨e, he, hd⟩ := Option.bind_eq_some_iff.1 hd
          rw [hasOrWithin_cons_of_skipped hquote hname he, hasOrFrom_cons (s := .plain c) hname he]
          exact ih hlength htail (Option.isSome_iff_exists.2 ⟨d, hd⟩)

/-- The scan finds an `or` just if the text has one outside of literals and parentheses. -/
theorem hasOr_iff_hasTopLevelOr {cs : List Char} {ss : List Segment} (hcuts : Cuts cs ss)
    (hdepth : depthFrom 0 ss = some 0) : RawText.hasOr cs = true ↔ HasTopLevelOr ss :=
  hasOrWithin_iff (Nat.le_refl _) hcuts (Option.isSome_iff_exists.2 ⟨0, hdepth⟩)

/-- There is none in a sealed text. -/
theorem hasOr_eq_false_of_sealed {cs : List Char} {ss : List Segment} (hcuts : Cuts cs ss)
    (h : Sealed ss) : RawText.hasOr cs = false :=
  Bool.eq_false_iff.2 fun hor => h.2 ((hasOr_iff_hasTopLevelOr hcuts h.1).1 hor)

/-! ## The frame of a text -/

/-- The segment is a literal or a parenthesis. -/
def Segment.isFrame : Segment → Bool
  | .literal _ => true
  | .plain c => c == '(' || c == ')'

/-- The literals and parentheses of a text, in their order. -/
def frame (ss : List Segment) : List Segment :=
  ss.filter Segment.isFrame

theorem frame_append (ss ts : List Segment) : frame (ss ++ ts) = frame ss ++ frame ts :=
  List.filter_append ..

/-- Characters other than parentheses have no frame. -/
theorem frame_plains {cs : List Char} (hopen : '(' ∉ cs) (hclose : ')' ∉ cs) :
    frame (plains cs) = [] := by
  simp only [frame, plains, List.filter_eq_nil_iff, List.mem_map]
  rintro _ ⟨c, hc, rfl⟩
  simp only [Segment.isFrame, Bool.or_eq_true, beq_iff_eq]
  rintro (rfl | rfl)
  · exact hopen hc
  · exact hclose hc

/-- The depth is a matter of the frame. -/
theorem depthFrom_frame (depth : Nat) (ss : List Segment) :
    depthFrom depth (frame ss) = depthFrom depth ss := by
  induction ss generalizing depth with
  | nil => rfl
  | cons s ss ih =>
    rw [Segment.depthFrom_cons, frame, List.filter_cons]
    split
    · rw [Segment.depthFrom_cons]
      exact congrArg _ (funext ih)
    · next hs =>
      have hnest : nest depth s = some depth := by
        cases s with
        | literal text => rfl
        | plain c =>
          simp only [Segment.isFrame, Bool.or_eq_true, beq_iff_eq, not_or] at hs
          rw [nest, if_neg hs.1, if_neg hs.2]
      rw [hnest]
      exact ih depth

/-- The literals of a text are all in its frame. -/
theorem literals_frame (ss : List Segment) :
    Segment.literals (frame ss) = Segment.literals ss := by
  rw [Segment.literals, frame, List.filterMap_filter]
  refine List.filterMap_congr fun s _ => ?_
  cases s with
  | literal text => rfl
  | plain c => simp [Segment.text?]

/-! ## Segments and tokens -/

namespace Literal

/-- Two texts that look the same when escaped are the same. -/
theorem escape_injective {text text' : List Char} (h : escape text = escape text') :
    text = text' := by
  have hread := undouble_escape text
  rw [h, undouble_escape] at hread
  exact (Option.some.inj hread).symm

end Literal

/-- A literal that is open at the end is not cut. -/
theorem cutFrom_escape_eq_none (read text : List Char) :
    Segment.cutFrom (some read) (Literal.escape text) = none := by
  induction text generalizing read with
  | nil => rfl
  | cons c text ih =>
    by_cases hc : c = '\''
    · subst hc
      simp only [Literal.escape, if_true, Segment.cutFrom, ih]
    · simp only [Literal.escape, hc, if_false, cutFrom_some_cons hc, ih]

/-- A literal that is not closed cannot be cut. -/
theorem Cuts.not_openLiteral {text : List Char} {ss : List Segment} :
    ¬ Cuts ('\'' :: Literal.escape text) ss := by
  intro h
  have hcut := cut_of_cuts h
  simp only [Segment.cut, Segment.cutFrom, if_true, cutFrom_escape_eq_none] at hcut
  cases hcut

/-- A quoted text in front of anything but a quote is a literal. -/
theorem Cuts.exists_of_literal {text rest : List Char} {ss : List Segment}
    (h : Cuts (Literal.quote text ++ rest) ss) (hrest : rest.head? ≠ some '\'') :
    ∃ ts, ss = .literal text :: ts ∧ Cuts rest ts := by
  rw [Literal.quote, List.append_assoc, List.cons_append, List.singleton_append] at h
  obtain ⟨text', rest', ts, heq, hrest', rfl, hts⟩ := h.exists_of_quote
  have hscan := congrArg Literal.scan heq
  rw [Literal.scan_escape_append text rest hrest, Literal.scan_escape_append text' rest' hrest',
    Prod.mk.injEq, List.append_left_inj] at hscan
  obtain ⟨hescape, rfl⟩ := hscan
  obtain rfl := Literal.escape_injective hescape
  exact ⟨ts, rfl, hts⟩

namespace Segment

/-- The segment as a token. -/
def token : Segment → Token
  | .literal text => .literal (Literal.quote text)
  | .plain c => .other c

/-- Segments with the same token are the same. -/
theorem token_injective : Function.Injective token := by
  intro s t h
  cases s <;> cases t <;> simp only [token, Token.literal.injEq, Token.other.injEq, reduceCtorEq] at h
  · simp only [Literal.quote, List.append_left_inj, List.cons.injEq, true_and] at h
    rw [Literal.escape_injective h]
  · rw [h]

end Segment

namespace RawText

/-- The characters have no quotes and no parentheses. -/
def IsPlainWord (cs : List Char) : Prop :=
  '\'' ∉ cs ∧ '(' ∉ cs ∧ ')' ∉ cs

/-- Characters of a class without quotes and parentheses make a plain word. -/
theorem isPlainWord_of_all {p : Char → Bool} {cs : List Char} (h : ∀ c ∈ cs, p c = true)
    (hquote : p '\'' = false) (hopen : p '(' = false) (hclose : p ')' = false) :
    IsPlainWord cs := by
  have hnot {c : Char} (hc : p c = false) : c ∉ cs := fun hm => by
    rw [h c hm] at hc
    cases hc
  exact ⟨hnot hquote, hnot hopen, hnot hclose⟩

/-- A symbol is a plain word in front of the rest. -/
theorem TakesSymbol.exists_plainWord {cs rest : List Char} {op : Comparison}
    (h : TakesSymbol cs op rest) : ∃ symbol, cs = symbol ++ rest ∧ IsPlainWord symbol := by
  obtain ⟨symbol, rfl, -, hmarks⟩ := h.exists_symbol
  exact ⟨symbol, rfl, isPlainWord_of_all hmarks (by decide) (by decide) (by decide)⟩

/-- Words of every wording are plain words. -/
theorem Wording.isPlainWord {W : Wording} {w : List Char} (h : IsWord W.starts W.continues w) :
    IsPlainWord w :=
  isPlainWord_of_all (W.continues_of_isWord h) (W.not_continues _ (by decide))
    (W.not_continues _ (by decide)) (W.not_continues _ (by decide))

variable {W : Wording} {cs : List Char} {ts : List Token} {ss : List Segment}

/-- A text with closed literals has segments. -/
theorem Lexes.exists_cuts (h : Lexes W cs ts)
    (hclosed : ∀ text, .literal text ∈ ts → ∃ content, text = Literal.quote content) :
    ∃ ss, Cuts cs ss := by
  induction h with
  | nil => exact ⟨[], .nil⟩
  | literal text hrest _ ih =>
    obtain ⟨ss, hss⟩ := ih fun text ht => hclosed text (List.mem_cons_of_mem _ ht)
    exact ⟨_, .literal text hrest hss⟩
  | openLiteral text =>
    obtain ⟨content, heq⟩ := hclosed _ List.mem_cons_self
    exact absurd (heq ▸ Cuts.quote content) Cuts.not_openLiteral
  | operator hsymbol _ ih =>
    obtain ⟨ss, hss⟩ := ih fun text ht => hclosed text (List.mem_cons_of_mem _ ht)
    obtain ⟨symbol, rfl, hplain⟩ := hsymbol.exists_plainWord
    exact ⟨_, .plains_append hplain.1 hss⟩
  | word hw _ _ ih =>
    obtain ⟨ss, hss⟩ := ih fun text ht => hclosed text (List.mem_cons_of_mem _ ht)
    exact ⟨_, .plains_append (W.isPlainWord hw).1 hss⟩
  | other hquote _ _ _ ih =>
    obtain ⟨ss, hss⟩ := ih fun text ht => hclosed text (List.mem_cons_of_mem _ ht)
    exact ⟨_, .plain hquote hss⟩

/-- The literals and parentheses are the same among the tokens and among the segments. -/
theorem Lexes.filter_isFrame (h : Lexes W cs ts) (hcuts : Cuts cs ss) :
    ts.filter Token.isFrame = (frame ss).map Segment.token := by
  induction h generalizing ss with
  | nil =>
    obtain rfl := hcuts.eq_nil_iff.1 rfl
    rfl
  | literal text hrest _ ih =>
    obtain ⟨us, rfl, hus⟩ := hcuts.exists_of_literal hrest
    exact congrArg (Token.literal (Literal.quote text) :: ·) (ih hus)
  -- A text that has segments leaves no literal open.
  | openLiteral text => exact absurd hcuts Cuts.not_openLiteral
  | operator hsymbol _ ih =>
    obtain ⟨symbol, rfl, hplain⟩ := hsymbol.exists_plainWord
    obtain ⟨us, rfl, hus⟩ := hcuts.exists_of_plains_append hplain.1
    rw [frame_append, frame_plains hplain.2.1 hplain.2.2]
    exact ih hus
  | word hw _ _ ih =>
    have hplain := W.isPlainWord hw
    obtain ⟨us, rfl, hus⟩ := hcuts.exists_of_plains_append hplain.1
    rw [frame_append, frame_plains hplain.2.1 hplain.2.2]
    exact ih hus
  | other hquote _ _ _ ih =>
    obtain ⟨us, rfl, hus⟩ := hcuts.exists_of_cons hquote
    rw [List.filter_cons, ih hus, Token.isFrame]
    show _ = (List.filter Segment.isFrame (_ :: us)).map Segment.token
    rw [List.filter_cons, Segment.isFrame]
    split <;> rfl

/-- White space is no part of the frame, and what is keeps its normal form. -/
theorem filter_isFrame_of_significant {us : List Token}
    (h : significant us = (significant ts).map W.normalToken) :
    us.filter Token.isFrame = ts.filter Token.isFrame := by
  have hnormal (t : Token) : (W.normalToken t).isFrame = t.isFrame := by
    cases t <;> rfl
  have hfixed : ∀ t ∈ ts.filter Token.isFrame, W.normalToken t = t := by
    intro t ht
    have hframe := List.of_mem_filter ht
    cases t with
    | literal _ => rfl
    | other _ => rfl
    | operator _ => cases hframe
    | word _ => cases hframe
  rw [← filter_significant fun t => isBlank_of_isFrame, h, List.filter_map, Function.comp_def]
  simp only [hnormal]
  rw [filter_significant fun t => isBlank_of_isFrame, List.map_congr_left hfixed, List.map_id']

end RawText

/-! ## Normal forms -/

/-- The characters are cut into segments with the given frame. -/
def HasFrame (cs : List Char) (fs : List Segment) : Prop :=
  ∃ ts, Cuts cs ts ∧ frame ts = fs

/-- The normal form of a text has the frame of the text. -/
theorem hasFrame_normalize {cs : List Char} {ss : List Segment} (h : Cuts cs ss) :
    HasFrame (RawText.normalize cs) (frame ss) := by
  obtain ⟨hlexes, hsignificant, -⟩ := RawText.renders_normalize cs
  have hframe := RawText.filter_isFrame_of_significant hsignificant
  rw [(RawText.words.lexes_tokens cs).filter_isFrame h] at hframe
  obtain ⟨ts, hts⟩ := hlexes.exists_cuts fun text htext => by
    have hmem := List.mem_filter.2 ⟨htext, (rfl : Token.isFrame (.literal text) = true)⟩
    rw [hframe, List.mem_map] at hmem
    obtain ⟨s, -, hs⟩ := hmem
    cases s with
    | plain c => cases hs
    | literal content => exact ⟨content, (Token.literal.inj hs).symm⟩
  refine ⟨ts, hts, List.map_injective_iff.2 Segment.token_injective ?_⟩
  rw [← hlexes.filter_isFrame hts, hframe]

/-! ## Enclosed texts -/

/-- A text is kept as it is or put in parentheses. -/
theorem exists_cuts_enclose {cs : List Char} {ss : List Segment} (h : Cuts cs ss) :
    ∃ ts, Cuts (RawText.enclose cs) ts ∧
      (ts = ss ∧ RawText.hasOr cs = false ∨ ts = .plain '(' :: ss ++ [.plain ')']) := by
  rw [RawText.enclose]
  split
  · have hclose : Cuts (cs ++ [')']) (ss ++ [.plain ')']) :=
      h.append (.plain (by decide) .nil) (by decide)
    exact ⟨_, .plain (by decide) hclose, .inr rfl⟩
  · next hor => exact ⟨ss, h, .inl ⟨rfl, by simpa using hor⟩⟩

/-- A text with closed parentheses is sealed once it was enclosed. -/
theorem exists_sealed_enclose {cs : List Char} {ss : List Segment} (h : Cuts cs ss)
    (hdepth : depthFrom 0 ss = some 0) :
    ∃ ts, Cuts (RawText.enclose cs) ts ∧ Sealed ts := by
  obtain ⟨ts, hts, ⟨rfl, hor⟩ | rfl⟩ := exists_cuts_enclose h
  · refine ⟨ts, hts, hdepth, fun hfound => ?_⟩
    rw [(hasOr_iff_hasTopLevelOr h hdepth).2 hfound] at hor
    cases hor
  · exact ⟨_, hts, Segment.sealed_enclosed hdepth⟩

end SearchIndex.Filter
