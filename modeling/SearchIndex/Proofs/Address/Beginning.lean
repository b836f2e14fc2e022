import Mathlib.Data.List.TakeDrop
import Mathlib.Data.List.TakeWhile
import SearchIndex.Address.Reading
import SearchIndex.Proofs.Text.Case
import SearchIndex.Proofs.Text.Parts

/-!
# Addresses with a common beginning

Texts that begin in the same way are read as addresses that begin in the same way, if a slash follows:
what is in front of the slash settles the scheme, the authority, and how much of the path there is.
What is behind the slash stays as it is, as long as it has nothing that an address would hold in
another form or take for a directory (`exists_beginning`).
-/

namespace SearchIndex.Address

/-! ## Characters that are kept -/

/-- A character that is dropped from no text, and that neither a query nor a fragment holds in another
form. -/
def isSteady (c : Char) : Bool :=
  Nat.blt 0x20 c.toNat && !isOutside c && !specialInFragment c && !specialInQuery c && c != '\''

/-- A character that stays as it is wherever it stands behind an authority, and means nothing there but
the end of a segment. -/
def isKept (c : Char) : Bool :=
  c.isAlphanum || c == '-' || c == '/'

/-- Characters that are kept are in ASCII. -/
theorem ascii_of_isKept {c : Char} (h : isKept c = true) : c.toNat < 0x80 := by
  have hcases : (c.isAlpha || c.isDigit || c == '-' || c == '/') = true := h
  simp only [Bool.or_eq_true, Text.isAlpha_iff, beq_iff_eq] at hcases
  rcases hcases with ((((hupper | hlower) | hdigit) | rfl) | rfl)
  · have := Text.isUpper_iff.1 hupper
    omega
  · have := Text.isLower_iff.1 hlower
    omega
  · have := Text.isDigit_iff.1 hdigit
    omega
  · decide
  · decide

/-- What is kept is also steady, needs no percent code in a path, and has no meaning of its own in
an address. -/
theorem isKept_laws {c : Char} (h : isKept c = true) :
    isSteady c = true ∧ specialInPath c = false ∧ c.toLower ≠ '%' ∧
      c ≠ '.' ∧ c ≠ '%' ∧ c ≠ '?' ∧ c ≠ '#' ∧ c ≠ '\\' := by
  have hall : ((List.range 0x80).all fun n => !isKept (Char.ofNat n) ||
      isSteady (Char.ofNat n) && !specialInPath (Char.ofNat n) && (Char.ofNat n).toLower != '%' &&
        !List.contains ['.', '%', '?', '#', '\\'] (Char.ofNat n)) = true := by
    decide +kernel
  have hc := List.all_eq_true.1 hall c.toNat (List.mem_range.2 (ascii_of_isKept h))
  rw [Char.ofNat_toNat, h] at hc
  simp only [Bool.not_true, Bool.false_or, Bool.and_eq_true, Bool.not_eq_true', bne_iff_ne] at hc
  obtain ⟨⟨⟨hsteady, hpath⟩, hlower⟩, hmarks⟩ := hc
  refine ⟨hsteady, hpath, hlower, ?_⟩
  simpa only [List.contains_eq_mem, decide_eq_false_iff_not, List.mem_cons, List.not_mem_nil,
    or_false, not_or] using hmarks

/-- Characters that are kept are steady. -/
theorem isSteady_of_isKept {c : Char} (h : isKept c = true) : isSteady c = true :=
  (isKept_laws h).1

section Encode

variable {special : Char → Bool} {cs ds : List Char}

theorem encode_append (special : Char → Bool) (cs ds : List Char) :
    encode special (cs ++ ds) = encode special cs ++ encode special ds :=
  List.flatMap_append

/-- A text of characters that need no percent codes is written as it is. -/
theorem encode_eq_self (h : ∀ c ∈ cs, isOutside c = false ∧ special c = false) :
    encode special cs = cs := by
  induction cs with
  | nil => rfl
  | cons c cs ih =>
    rw [List.forall_mem_cons] at h
    rw [encode, List.flatMap_cons, h.1.1, h.1.2]
    exact congrArg (c :: ·) (ih h.2)

/-- A steady character needs no percent code in any part. -/
theorem not_isOutside_of_isSteady {c : Char} (h : isSteady c = true) : isOutside c = false := by
  simp only [isSteady, Bool.and_eq_true, Bool.not_eq_true'] at h
  exact h.1.1.1.2

/-- Characters that are kept are written as they are in a path. -/
theorem encode_path (h : ∀ c ∈ cs, isKept c = true) : encode specialInPath cs = cs :=
  encode_eq_self fun c hc =>
    ⟨not_isOutside_of_isSteady (isSteady_of_isKept (h c hc)), (isKept_laws (h c hc)).2.1⟩

end Encode

/-! ## Marks in a text -/

section Marks

variable {p : Char → Bool} {mark : Char}

/-- A search stops at a mark, whatever is behind it. -/
theorem span_append_mark (h : p mark = false) (cs ds : List Char) :
    (cs ++ mark :: ds).span p = ((cs.span p).1, (cs.span p).2 ++ mark :: ds) := by
  simp only [List.span_eq_takeWhile_dropWhile]
  induction cs with
  | nil => simp [h]
  | cons c cs ih =>
    rw [Prod.mk.injEq] at ih
    cases hc : p c with
    | false => simp [hc]
    | true => simp [hc, ih.1, ih.2]

/-- What is dropped from the front ends before a mark at the latest. -/
theorem dropWhile_append_mark (h : p mark = false) (cs ds : List Char) :
    (cs ++ mark :: ds).dropWhile p = cs.dropWhile p ++ mark :: ds := by
  have hspan := span_append_mark h cs ds
  simp only [List.span_eq_takeWhile_dropWhile, Prod.mk.injEq] at hspan
  exact hspan.2

end Marks

/-! ## Clean texts -/

/-- A control character or a space: it is dropped from both ends of a text. -/
def isOuter (c : Char) : Bool :=
  c.toNat ≤ 0x20

/-- A character other than tabs and line breaks, which are dropped everywhere. -/
def isInner (c : Char) : Bool :=
  c != '\t' && c != '\n' && c != '\r'

/-- No steady character is cleaned away, neither at the ends of a text nor inside it. -/
theorem isSteady_laws {c : Char} (h : isSteady c = true) : isOuter c = false ∧ isInner c = true := by
  simp only [isSteady, Bool.and_eq_true, Nat.blt_eq] at h
  have hcode := h.1.1.1.1
  refine ⟨?_, ?_⟩
  · rw [isOuter, decide_eq_false_iff_not]
    omega
  · simp only [isInner, Bool.and_eq_true, bne_iff_ne]
    refine ⟨⟨?_, ?_⟩, ?_⟩ <;> rintro rfl <;> revert hcode <;> decide

/-- The end of a clean text. -/
def cleanEnd (cs : List Char) : List Char :=
  ((cs.reverse.dropWhile isOuter).reverse).filter isInner

/-- Cleaning goes on behind a steady character with the end of the text alone. -/
theorem clean_append_cons {c : Char} (hc : isSteady c = true) (cs ds : List Char) :
    clean (cs ++ c :: ds) = (cs.dropWhile isOuter).filter isInner ++ c :: cleanEnd ds := by
  obtain ⟨houter, hinner⟩ := isSteady_laws hc
  show (((cs ++ c :: ds).dropWhile isOuter).reverse.dropWhile isOuter).reverse.filter isInner = _
  rw [dropWhile_append_mark houter, List.reverse_append, List.reverse_cons, List.append_assoc,
    List.singleton_append, dropWhile_append_mark houter, List.reverse_append, List.reverse_cons,
    List.reverse_reverse, List.append_assoc, List.singleton_append, List.filter_append,
    List.filter_cons_of_pos hinner]
  rfl

/-- Steady characters stay where the end of a text is cleaned. -/
theorem cleanEnd_append_cons {c : Char} {cs : List Char} (hcs : ∀ d ∈ cs, isSteady d = true)
    (hc : isSteady c = true) (ds : List Char) : cleanEnd (cs ++ c :: ds) = cs ++ c :: cleanEnd ds := by
  obtain ⟨houter, hinner⟩ := isSteady_laws hc
  have hkept : cs.filter isInner = cs :=
    List.filter_eq_self.2 fun d hd => (isSteady_laws (hcs d hd)).2
  rw [cleanEnd, List.reverse_append, List.reverse_cons, List.append_assoc, List.singleton_append,
    dropWhile_append_mark houter, List.reverse_append, List.reverse_cons, List.reverse_reverse,
    List.append_assoc, List.singleton_append, List.filter_append, hkept,
    List.filter_cons_of_pos hinner]
  rfl

/-! ## Schemes -/

/-- The scheme stands in front of the first slash. -/
theorem splitScheme?_append (cs ds : List Char) : splitScheme? (cs ++ '/' :: ds) =
    (splitScheme? cs).map fun (scheme, rest) => (scheme, rest ++ '/' :: ds) := by
  have hhead : (cs ++ '/' :: ds).head?.any Char.isAlpha = cs.head?.any Char.isAlpha := by
    cases cs with
    | nil => rfl
    | cons c cs => rfl
  rw [splitScheme?, splitScheme?, hhead]
  split
  · rw [span_append_mark (by decide)]
    cases hspan : cs.span fun c => c.isAlphanum || c == '+' || c == '-' || c == '.' with
    | mk scheme rest =>
      cases rest with
      | nil => rfl
      | cons mark rest =>
        by_cases hmark : mark = ':'
        · subst hmark
          rfl
        · simp [hmark]
  · rfl

/-- An address that is made with a fixed scheme has that scheme. -/
theorem scheme_of_map {α : Type} {scheme : List Char} {x : Except Problem α} {f : α → Address}
    {a : Address} (hf : ∀ b, (f b).scheme = scheme) (h : x.map f = .ok a) : a.scheme = scheme := by
  cases x with
  | error _ => cases h
  | ok b =>
    cases h
    exact hf b

/-- The address of a file has the scheme that was read. -/
theorem scheme_of_readFile {scheme text : List Char} {a : Address}
    (h : readFile scheme text = .ok a) : a.scheme = scheme := by
  unfold readFile at h
  dsimp only at h
  split at h
  · split at h
    · split at h
      · cases h
        rfl
      · exact scheme_of_map (fun _ => rfl) h
    · cases h
      rfl
  · cases h
    rfl

/-- An address has the scheme that was read, of whatever kind that is. -/
theorem scheme_of_ofScheme {scheme rest : List Char} {a : Address}
    (h : ofScheme scheme rest = .ok a) : a.scheme = scheme := by
  unfold ofScheme at h
  dsimp only at h
  split at h
  · exact scheme_of_readFile h
  · exact scheme_of_map (fun _ => rfl) h
  · exact scheme_of_map (fun _ => rfl) h
  · cases h
    rfl

/-- Requests go to networks. -/
theorem exists_port_of_refusal?_eq_none {a : Address} (h : a.refusal? = none) :
    ∃ port, SchemeKind.ofScheme a.scheme = .network port := by
  unfold refusal? at h
  split at h
  · cases h
  · split at h
    · cases h
    · next hscheme =>
      have hweb : String.ofList a.scheme ∈ webSchemes := by simpa using hscheme
      simp only [webSchemes, List.mem_cons, List.not_mem_nil, or_false] at hweb
      rcases hweb with hweb | hweb
      · exact ⟨80, by rw [SchemeKind.ofScheme, hweb]; rfl⟩
      · exact ⟨443, by rw [SchemeKind.ofScheme, hweb]; rfl⟩

/-! ## Authorities -/

/-- A slash ends the authority, and what is behind the slash is left over. -/
theorem exists_readAuthority (kind : SchemeKind) (cs : List Char) :
    ∃ result : Except Problem (Authority × List Char), ∀ ds,
      readAuthority kind (cs ++ '/' :: ds) =
        result.map fun (authority, rest) => (authority, rest ++ '/' :: ds) := by
  -- The slash ends the authority at the latest, so what is behind it is not read.
  obtain ⟨block, left, hspan⟩ : ∃ block left,
      (cs.span fun c => !kind.isSlash c && c != '?' && c != '#') = (block, left) := ⟨_, _, rfl⟩
  have hmore (ds : List Char) :
      ((cs ++ '/' :: ds).span fun c => !kind.isSlash c && c != '?' && c != '#') =
        (block, left ++ '/' :: ds) := by
    rw [span_append_mark (by cases kind <;> rfl), hspan]
  have hleft (ds : List Char) : (left ++ '/' :: ds).isEmpty = false := by cases left <;> rfl
  cases hlogin : splitLast? '@' block with
  | none =>
    refine ⟨(readHostAndPort kind none block).map fun (authority, rest) => (authority, rest ++ left),
      fun ds => ?_⟩
    simp only [readAuthority, hmore, hlogin]
    cases readHostAndPort kind none block with
    | error _ => rfl
    | ok _ => simp [Except.map]
  | some parts =>
    obtain ⟨login, host⟩ := parts
    refine ⟨if login.isEmpty && host.isEmpty then .error .emptyHost
      else (readHostAndPort kind (Login.ofText? login) host).map fun (authority, rest) =>
        (authority, rest ++ left), fun ds => ?_⟩
    simp only [readAuthority, hmore, hlogin, hleft, Bool.not_false, Bool.and_true]
    split
    · rfl
    · cases readHostAndPort kind (Login.ofText? login) host with
      | error _ => rfl
      | ok _ => simp [Except.map]

/-! ## Paths -/

/-- A slash parts the segments before it from those behind it, for every kind of scheme. -/
theorem pieces_append_slash (kind : SchemeKind) (cs ds : List Char) :
    Text.pieces kind.isSlash (cs ++ '/' :: ds) =
      Text.pieces kind.isSlash cs ++ Text.pieces kind.isSlash ds :=
  Text.pieces_append_cons (by cases kind <;> rfl) cs ds

/-- A slash parts the segments in front of it from those behind it. -/
theorem exists_segments (kind : SchemeKind) (cs : List Char) : ∃ front, ∀ ds,
    Path.segments kind.isSlash (cs ++ '/' :: ds) = front ++ Text.pieces kind.isSlash ds := by
  cases cs with
  | nil =>
    refine ⟨[], fun ds => ?_⟩
    rw [List.nil_append, List.nil_append, Path.segments, if_pos (by cases kind <;> rfl)]
  | cons c cs =>
    cases hc : kind.isSlash c with
    | true =>
      refine ⟨Text.pieces kind.isSlash cs, fun ds => ?_⟩
      rw [List.cons_append, Path.segments, if_pos hc, pieces_append_slash]
    | false =>
      refine ⟨Text.pieces kind.isSlash (c :: cs), fun ds => ?_⟩
      rw [List.cons_append, Path.segments, if_neg (by simp [hc]), ← List.cons_append,
        pieces_append_slash]

section Kept

variable {place : List Char}

/-- Kept characters stand for no directory. -/
theorem isProper_of_isKept {s : Segment} (h : ∀ c ∈ s, isKept c = true) : Path.IsProper s := by
  cases s with
  | nil => exact Path.isProper_nil
  | cons c s =>
    obtain ⟨-, -, hlower, hmarks⟩ := isKept_laws (h c List.mem_cons_self)
    constructor
    · simp only [Segment.isDot, List.map_cons, Bool.or_eq_false_iff, beq_eq_false_iff_ne]
      exact ⟨fun heq => hmarks.1 (List.cons.inj heq).1, fun heq => hlower (List.cons.inj heq).1⟩
    · unfold Segment.isDoubleDot
      split
      · next heq => exact absurd (List.cons.inj heq).1 hmarks.1
      · next heq => exact absurd (List.cons.inj heq).1 hmarks.1
      · next heq => exact absurd (List.cons.inj heq).1 hmarks.2.1
      · rfl

/-- Segments that stand for no directory are kept in their order. -/
theorem resolve_of_isProper {drives : Bool} {segments : List Segment}
    (h : ∀ s ∈ segments, Path.IsProper s) (kept : List Segment) (hkept : kept ≠ [] ∨ drives = false) :
    Path.resolve drives kept segments = kept.reverse ++ segments := by
  induction segments generalizing kept with
  | nil => exact (List.append_nil _).symm
  | cons s rest ih =>
    rw [List.forall_mem_cons] at h
    have hadd : Path.add drives kept s = s :: kept := by
      rw [Path.add, h.1.1, h.1.2]
      rcases hkept with hne | rfl
      · simp [hne]
      · simp
    cases rest with
    | nil => simp [Path.resolve, hadd, h.1.1, h.1.2]
    | cons t rest =>
      rw [Path.resolve, hadd, ih h.2 _ (.inl (List.cons_ne_nil _ _)), List.reverse_cons,
        List.append_assoc, List.singleton_append]
      exact List.cons_ne_nil _ _

/-- Segments in front of others are resolved without them, unless one of those stands for a
directory. -/
theorem resolve_append {front segments : List Segment} (hne : segments ≠ [])
    (h : ∀ s ∈ segments, Path.IsProper s) (kept : List Segment) :
    Path.resolve false kept (front ++ segments) =
      (front.foldl (Path.add false) kept).reverse ++ segments := by
  induction front generalizing kept with
  | nil => exact resolve_of_isProper h kept (.inr rfl)
  | cons s front ih =>
    rw [List.cons_append, Path.resolve, ih, List.foldl_cons]
    exact fun heq => hne (List.append_eq_nil_iff.1 heq).2

/-- Kept pieces are written as they were. -/
theorem text_pieces {kind : SchemeKind} (h : ∀ c ∈ place, isKept c = true) :
    Path.text (Text.pieces kind.isSlash place) = '/' :: place := by
  induction place with
  | nil => rfl
  | cons c place ih =>
    have hplace := ih (List.forall_mem_cons.1 h).2
    rw [Text.pieces]
    split
    · next hslash =>
      obtain rfl : c = '/' := by
        have hmarks := (isKept_laws (h c List.mem_cons_self)).2.2.2
        cases kind <;> simpa [SchemeKind.isSlash, hmarks] using hslash
      exact congrArg ('/' :: ·) hplace
    · cases hpieces : Text.pieces kind.isSlash place with
      | nil => exact absurd hpieces (Text.pieces_ne_nil _ place)
      | cons piece more =>
        have hc : encode specialInPath [c] = [c] :=
          encode_path (List.forall_mem_singleton.2 (h c List.mem_cons_self))
        rw [hpieces] at hplace
        have htail := (List.cons.inj hplace).2
        show '/' :: (encode specialInPath ([c] ++ piece) ++ Path.text more) = '/' :: c :: place
        rw [encode_append, hc, List.append_assoc]
        exact congrArg ('/' :: c :: ·) htail

/-- Behind a slash, kept characters end the path as they are. -/
theorem exists_pathOf (kind : SchemeKind) (cs : List Char) : ∃ front, ∀ place,
    (∀ c ∈ place, isKept c = true) → pathOf kind (cs ++ '/' :: place) = front ++ '/' :: place := by
  obtain ⟨segments, hsegments⟩ := exists_segments kind cs
  refine ⟨Path.text (segments.foldl (Path.add false) []).reverse, fun place h => ?_⟩
  have hne : ¬ (kind = .foreign ∧ cs ++ '/' :: place = []) := fun ⟨_, hnil⟩ =>
    List.cons_ne_nil _ _ (List.append_eq_nil_iff.1 hnil).2
  have hproper : ∀ s ∈ Text.pieces kind.isSlash place, Path.IsProper s := fun s hs =>
    isProper_of_isKept fun c hc => h c (Text.mem_of_mem_pieces hs hc)
  rw [pathOf, if_neg hne, hsegments, resolve_append (Text.pieces_ne_nil _ _) hproper, Path.text,
    List.flatMap_append]
  exact congrArg (_ ++ ·) (text_pieces h)

end Kept

/-! ## Queries and fragments -/

section Tail

variable {kind : SchemeKind} {cs ds mid : List Char}

/-- A character that a query of the kind does not hold as it is. -/
def isSpecialInQuery (kind : SchemeKind) (c : Char) : Bool :=
  specialInQuery c || (kind != .foreign && c == '\'')

/-- The query and the fragment as they stand in an address. -/
def tailText (kind : SchemeKind) (tail : List Char) : List Char :=
  marked '?' (readTail kind tail).1 ++ marked '#' (readTail kind tail).2

/-- A fragment runs to the end of the text. -/
theorem tailText_fragment (kind : SchemeKind) (cs : List Char) :
    tailText kind ('#' :: cs) = '#' :: encode specialInFragment cs := rfl

/-- A query runs to the fragment. -/
theorem tailText_query (kind : SchemeKind) (cs : List Char) : tailText kind ('?' :: cs) =
    '?' :: encode (isSpecialInQuery kind) (cs.takeWhile (· != '#')) ++
      tailText kind (cs.dropWhile (· != '#')) := by
  have hstop := Text.head?_dropWhile (· != '#') cs
  have htake : ([] ++ cs.dropWhile (· != '#')).takeWhile (· != '#') = [] :=
    Text.takeWhile_run (List.forall_mem_nil _) hstop
  have hdrop : ([] ++ cs.dropWhile (· != '#')).dropWhile (· != '#') = cs.dropWhile (· != '#') :=
    Text.dropWhile_run (List.forall_mem_nil _) hstop
  rw [List.nil_append] at htake hdrop
  simp only [tailText, readTail, List.span_eq_takeWhile_dropWhile, htake, hdrop]
  rfl

/-- Steady characters are written as they are in a query. -/
theorem encode_query_of_isSteady (kind : SchemeKind) (h : ∀ c ∈ cs, isSteady c = true) :
    encode (isSpecialInQuery kind) cs = cs := by
  refine encode_eq_self fun c hc => ⟨not_isOutside_of_isSteady (h c hc), ?_⟩
  have hsteady := h c hc
  simp only [isSteady, Bool.and_eq_true, Bool.not_eq_true', bne_iff_ne] at hsteady
  simp [isSpecialInQuery, hsteady]

/-- Steady characters are written as they are in a fragment. -/
theorem encode_fragment_of_isSteady (h : ∀ c ∈ cs, isSteady c = true) :
    encode specialInFragment cs = cs := by
  refine encode_eq_self fun c hc => ⟨not_isOutside_of_isSteady (h c hc), ?_⟩
  have hsteady := h c hc
  simp only [isSteady, Bool.and_eq_true, Bool.not_eq_true'] at hsteady
  exact hsteady.1.1.2

/-- No steady character starts a fragment. -/
theorem ne_hash_of_isSteady {c : Char} (h : isSteady c = true) : (c != '#') = true := by
  rw [bne_iff_ne]
  rintro rfl
  revert h
  decide

/-- A text without the mark of fragments does not stop at one. -/
theorem ne_hash_of_not_mem (h : '#' ∉ cs) : ∀ c ∈ cs, (c != '#') = true := by
  intro c hc
  rw [bne_iff_ne]
  rintro rfl
  exact h hc

/-- Behind the mark of a query or of a fragment, steady characters stay as they are. -/
theorem exists_tailText {mark : Char} (hmark : mark = '?' ∨ mark = '#') (kind : SchemeKind)
    (cs : List Char) : ∃ front, ∀ mid ds, (∀ c ∈ mid, isSteady c = true) →
      ∃ back, tailText kind (mark :: (cs ++ (mid ++ ds))) = front ++ (mid ++ back) := by
  rcases hmark with rfl | rfl
  · by_cases hhash : '#' ∈ cs
    · -- The fragment has begun.
      obtain ⟨query, fragment, rfl, hquery⟩ := List.eq_append_cons_of_mem hhash
      refine ⟨'?' :: encode (isSpecialInQuery kind) query ++ '#' :: encode specialInFragment fragment,
        fun mid ds hmid => ⟨encode specialInFragment ds, ?_⟩⟩
      have hstop : ∀ c ∈ ('#' :: (fragment ++ (mid ++ ds))).head?, (c != '#') = false := by
        rintro _ ⟨⟩
        rfl
      have hrun := ne_hash_of_not_mem hquery
      rw [List.append_assoc, List.cons_append, tailText_query, Text.takeWhile_run hrun hstop,
        Text.dropWhile_run hrun hstop, tailText_fragment, encode_append, encode_append,
        encode_fragment_of_isSteady hmid]
      simp
    · refine ⟨'?' :: encode (isSpecialInQuery kind) cs, fun mid ds hmid =>
        ⟨encode (isSpecialInQuery kind) (ds.takeWhile (· != '#')) ++
          tailText kind (ds.dropWhile (· != '#')), ?_⟩⟩
      have hrun : ∀ c ∈ cs ++ mid, (c != '#') = true :=
        List.forall_mem_append.2 ⟨ne_hash_of_not_mem hhash, fun c hc =>
          ne_hash_of_isSteady (hmid c hc)⟩
      rw [← List.append_assoc, tailText_query, List.takeWhile_append_of_pos hrun,
        List.dropWhile_append_of_pos hrun, encode_append, encode_append,
        encode_query_of_isSteady kind hmid]
      simp
  · refine ⟨'#' :: encode specialInFragment cs, fun mid ds hmid =>
      ⟨encode specialInFragment ds, ?_⟩⟩
    rw [tailText_fragment, encode_append, encode_append, encode_fragment_of_isSteady hmid]
    rfl

end Tail

/-! ## Texts of addresses -/

/-- What stands in an address behind its authority. -/
def behindAuthority (a : Address) : List Char :=
  a.path ++ marked '?' a.query ++ marked '#' a.fragment

/-- A path runs to the mark of a query or of a fragment. -/
theorem behindAuthority_assemble (kind : SchemeKind) (scheme : List Char) (authority : Authority)
    {path tail : List Char} (hpath : ∀ c ∈ path, (c != '?' && c != '#') = true)
    (htail : ∀ c ∈ tail.head?, (c != '?' && c != '#') = false) :
    (assemble kind scheme (some authority) (pathOf kind) (path ++ tail)).behindAuthority =
      pathOf kind path ++ tailText kind tail := by
  simp only [assemble, List.span_eq_takeWhile_dropWhile, Text.takeWhile_run hpath htail,
    Text.dropWhile_run hpath htail, behindAuthority, tailText, List.append_assoc]

/-- Kept characters behind a slash end no path. -/
theorem inPath_of_isKept {place : List Char} (h : ∀ c ∈ place, isKept c = true) :
    ∀ c ∈ '/' :: place, (c != '?' && c != '#') = true := by
  refine List.forall_mem_cons.2 ⟨rfl, fun c hc => ?_⟩
  have hmarks := (isKept_laws (h c hc)).2.2.2
  simp [hmarks]

/-- Behind the authority, what ends at a slash settles what is in front of kept characters. -/
theorem exists_behindAuthority (kind : SchemeKind) (scheme : List Char) (authority : Authority)
    (cs : List Char) : ∃ front, ∀ place tail, (∀ c ∈ place, isKept c = true) →
      ∃ back, (assemble kind scheme (some authority) (pathOf kind)
        (cs ++ '/' :: (place ++ '?' :: tail))).behindAuthority =
          front ++ '/' :: (place ++ '?' :: back) := by
  by_cases hpart : ∀ c ∈ cs, (c != '?' && c != '#') = true
  · -- The path goes on behind the slash.
    obtain ⟨front, hfront⟩ := exists_pathOf kind cs
    refine ⟨front, fun place tail h => ⟨encode (isSpecialInQuery kind) (tail.takeWhile (· != '#')) ++
      tailText kind (tail.dropWhile (· != '#')), ?_⟩⟩
    have hbefore := List.forall_mem_append.2 ⟨hpart, inPath_of_isKept h⟩
    have hstop : ∀ c ∈ ('?' :: tail).head?, (c != '?' && c != '#') = false := by
      rintro _ ⟨⟩
      rfl
    have hwhole : cs ++ '/' :: (place ++ '?' :: tail) = (cs ++ '/' :: place) ++ '?' :: tail := by
      rw [List.append_assoc, List.cons_append]
    rw [hwhole, behindAuthority_assemble kind scheme authority hbefore hstop, hfront place h,
      tailText_query]
    simp
  · -- The path has ended before.
    have hne : cs.dropWhile (fun c => c != '?' && c != '#') ≠ [] := fun hnil =>
      hpart (List.dropWhile_eq_nil_iff.1 hnil)
    obtain ⟨mark, left, hleft⟩ := List.exists_cons_of_ne_nil hne
    have hend : (mark != '?' && mark != '#') = false :=
      Text.head?_dropWhile _ cs mark (by rw [hleft]; rfl)
    have hmark : mark = '?' ∨ mark = '#' := by
      rw [Bool.and_eq_false_iff, bne_eq_false_iff_eq, bne_eq_false_iff_eq] at hend
      exact hend
    obtain ⟨front, hfront⟩ := exists_tailText hmark kind left
    refine ⟨pathOf kind (cs.takeWhile fun c => c != '?' && c != '#') ++ front,
      fun place tail h => ?_⟩
    have hsteady : ∀ c ∈ '/' :: (place ++ ['?']), isSteady c = true := by
      refine List.forall_mem_cons.2 ⟨by decide, List.forall_mem_append.2 ⟨fun c hc =>
        isSteady_of_isKept (h c hc), List.forall_mem_singleton.2 (by decide)⟩⟩
    obtain ⟨back, hback⟩ := hfront _ tail hsteady
    refine ⟨back, ?_⟩
    have hwhole : cs ++ '/' :: (place ++ '?' :: tail) =
        cs.takeWhile (fun c => c != '?' && c != '#') ++
          mark :: (left ++ ('/' :: (place ++ ['?']) ++ tail)) := by
      conv_lhs => rw [← List.takeWhile_append_dropWhile (p := fun c => c != '?' && c != '#') (l := cs)]
      rw [hleft]
      simp
    have hstop : ∀ c ∈ (mark :: (left ++ ('/' :: (place ++ ['?']) ++ tail))).head?,
        (c != '?' && c != '#') = false := by
      rintro _ ⟨⟩
      exact hend
    rw [hwhole, behindAuthority_assemble kind scheme authority
      (List.all_eq_true.1 List.all_takeWhile) hstop, hback]
    simp

/-- The scheme and the authority come first, without a login that is sent apart. -/
theorem toList_text_assemble (kind : SchemeKind) (scheme : List Char) (authority : Authority)
    (path : List Char → List Char) (cs : List Char) :
    (assemble kind scheme (some authority) path cs).withoutLogin.text.toList =
      scheme ++ ':' :: '/' :: '/' :: Authority.text { authority with
        login := authority.login.filter fun l => !l.isReadable } ++
        (assemble kind scheme (some authority) path cs).behindAuthority := by
  simp only [text, String.toList_ofList, behindAuthority, List.append_assoc]
  rfl

/-! ## Beginnings -/

/-- Behind a segment, which is not dropped, a slash settles what is in front of it. -/
theorem dropWhile_isSlash_append (port : Nat) {directory : List Char} (hne : directory ≠ [])
    (hdirectory : ∀ c ∈ directory, isKept c = true ∧ c ≠ '/') (rest ds : List Char) :
    (rest ++ '/' :: (directory ++ '/' :: ds)).dropWhile (SchemeKind.network port).isSlash =
      (rest ++ ['/']).dropWhile (SchemeKind.network port).isSlash ++ directory ++ '/' :: ds := by
  obtain ⟨c, more, rfl⟩ := List.exists_cons_of_ne_nil hne
  obtain ⟨hkept, hslash⟩ := hdirectory c List.mem_cons_self
  have hmarks := (isKept_laws hkept).2.2.2
  have hc : (SchemeKind.network port).isSlash c = false := by
    simp [SchemeKind.isSlash, hslash, hmarks]
  have hwhole : rest ++ '/' :: (c :: more ++ '/' :: ds) =
      (rest ++ ['/']) ++ c :: (more ++ '/' :: ds) := by simp
  rw [hwhole, dropWhile_append_mark hc, List.append_assoc, List.cons_append]

/-- Addresses of one scheme begin in the same way if what is behind the scheme does as far as up to a
segment of kept characters and the slash behind it. -/
theorem exists_ofScheme (scheme rest : List Char) {directory : List Char} (hne : directory ≠ [])
    (hdirectory : ∀ c ∈ directory, isKept c = true ∧ c ≠ '/') : ∃ front, ∀ place tail,
      (∀ c ∈ place, isKept c = true) → ∀ a,
        ofScheme scheme (rest ++ '/' :: (directory ++ '/' :: (place ++ '?' :: tail))) = .ok a →
          a.withoutLogin.refusal? = none →
            ∃ back, a.withoutLogin.text.toList = front ++ '/' :: (place ++ '?' :: back) := by
  by_cases hnetwork : ∃ port, SchemeKind.ofScheme scheme = .network port
  · obtain ⟨port, hkind⟩ := hnetwork
    obtain ⟨result, hresult⟩ := exists_readAuthority (.network port)
      ((rest ++ ['/']).dropWhile (SchemeKind.network port).isSlash ++ directory)
    have hread (ds : List Char) : ofScheme scheme (rest ++ '/' :: (directory ++ '/' :: ds)) =
        result.map fun (authority, left) =>
          assemble (.network port) scheme (some authority) (pathOf (.network port))
            (left ++ '/' :: ds) := by
      simp only [ofScheme, hkind, dropWhile_isSlash_append port hne hdirectory, hresult]
      cases result <;> rfl
    cases result with
    | error problem =>
      refine ⟨[], fun place tail _ a ha => ?_⟩
      rw [hread] at ha
      cases ha
    | ok found =>
      obtain ⟨authority, left⟩ := found
      obtain ⟨front, hfront⟩ := exists_behindAuthority (.network port) scheme authority left
      refine ⟨scheme ++ ':' :: '/' :: '/' :: Authority.text { authority with
        login := authority.login.filter fun l => !l.isReadable } ++ front,
        fun place tail h a ha _ => ?_⟩
      rw [hread] at ha
      obtain ⟨back, hback⟩ := hfront place tail h
      refine ⟨back, ?_⟩
      obtain rfl := Except.ok.inj ha
      rw [toList_text_assemble, hback]
      simp only [List.append_assoc]
  · -- Nothing is sent to an address of any other scheme.
    refine ⟨[], fun place tail _ a ha hsent => absurd ?_ hnetwork⟩
    rw [← scheme_of_ofScheme ha]
    exact exists_port_of_refusal?_eq_none (a := a.withoutLogin) hsent

/-- Addresses that requests go to begin in the same way if their texts do as far as up to a segment of
kept characters and the slash behind it. What is behind that stays as it is, and so does the mark of the
query that follows. -/
theorem exists_beginning (base : List Char) {directory : List Char} (hne : directory ≠ [])
    (hdirectory : ∀ c ∈ directory, isKept c = true ∧ c ≠ '/') : ∃ front, ∀ place tail,
      (∀ c ∈ place, isKept c = true) → ∀ a,
        ofText (.ofList (base ++ '/' :: (directory ++ '/' :: (place ++ '?' :: tail)))) = .ok a →
          a.withoutLogin.refusal? = none →
            ∃ back, a.withoutLogin.text.toList = front ++ '/' :: (place ++ '?' :: back) := by
  -- White space is taken out first, and no kept character is taken out with it.
  have hread (place tail : List Char) (h : ∀ c ∈ place, isKept c = true) :
      splitScheme? (clean (base ++ '/' :: (directory ++ '/' :: (place ++ '?' :: tail)))) =
        (splitScheme? ((base.dropWhile isOuter).filter isInner)).map fun (scheme, rest) =>
          (scheme, rest ++ '/' :: (directory ++ '/' :: (place ++ '?' :: cleanEnd tail))) := by
    rw [clean_append_cons (by decide),
      cleanEnd_append_cons (fun c hc => isSteady_of_isKept (hdirectory c hc).1) (by decide),
      cleanEnd_append_cons (fun c hc => isSteady_of_isKept (h c hc)) (by decide),
      splitScheme?_append]
  cases hscheme : splitScheme? ((base.dropWhile isOuter).filter isInner) with
  | none =>
    refine ⟨[], fun place tail h a ha => ?_⟩
    rw [ofText, String.toList_ofList, hread place tail h, hscheme] at ha
    cases ha
  | some parts =>
    obtain ⟨scheme, rest⟩ := parts
    obtain ⟨front, hfront⟩ := exists_ofScheme scheme rest hne hdirectory
    refine ⟨front, fun place tail h a ha => ?_⟩
    rw [ofText, String.toList_ofList, hread place tail h, hscheme] at ha
    exact hfront place (cleanEnd tail) h a ha

end SearchIndex.Address
