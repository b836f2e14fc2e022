import SearchIndex.Proofs.Filter.Accepted
import SearchIndex.Proofs.Filter.Sites
import SearchIndex.Proofs.Json.Levels

/-!
# Two limits of depth

The options limit how deep entries may nest, and the reader of JSON limits how many brackets may be
open. A group opens two brackets, one of its own and one around its conditions, so an entry at some
depth stands behind almost twice as many brackets (`two_mul_depth_add_levels_le`).

For a filter whose entries are all readable the limit of the options decides alone, if it is given
as a value (`settles_readPredicates`). If it is given as a text, that is so as long as the text
opens no more brackets than the reader of JSON allows; beyond that, the text is no JSON, whatever the
options say (`compileText_of_isText`).
-/

namespace SearchIndex.Filter

open Json (Members IsText depthLimit)

/-! ## Entries and their depth -/

/-- The entry has what its form asks for, whatever the entries are that are nested in it. -/
def isReadable : Json.Value → Bool
  | .object members =>
    if isTagged members then (kind? members).any (fieldsRead members)
    else members.all fun (_, value) => isScalar value
  | .string _ => true
  | _ => false

/-- The entry stands among the entries at this depth: they are at depth one, and the conditions of a
group one deeper than the group. -/
inductive LiesIn (entries : List Json.Value) : (depth : Nat) → Json.Value → Prop
  | top {entry : Json.Value} (h : entry ∈ entries) : LiesIn entries 1 entry
  | condition {depth : Nat} {members : Members} {conditions : List Json.Value} {entry : Json.Value}
      (h : LiesIn entries depth (.object members)) (hkind : kind? members = some .group)
      (hconditions : conditions? members = some conditions) (hentry : entry ∈ conditions) :
      LiesIn entries (depth + 1) entry

/-- The value is a filter of these entries, and all that are nested in them are readable. -/
structure IsFilter (value : Json.Value) (entries : List Json.Value) : Prop where
  hasEntries : HasEntries value entries
  readable : ∀ depth entry, LiesIn entries depth entry → isReadable entry = true

/-- Some entry nests deeper than that. -/
def NestsBeyond (entries : List Json.Value) (room : Nat) : Prop :=
  ∃ depth entry, LiesIn entries depth entry ∧ room < depth

section LiesIn

variable {entries conditions : List Json.Value} {entry : Json.Value} {members : Members}
  {depth : Nat}

/-- What lies in an entry lies in every list with that entry. -/
theorem LiesIn.mono {top : Json.Value} (h : LiesIn [top] depth entry) (htop : top ∈ entries) :
    LiesIn entries depth entry := by
  induction h with
  | top h => exact .top (List.mem_singleton.1 h ▸ htop)
  | condition _ hkind hconditions hentry ih => exact .condition ih hkind hconditions hentry

/-- An entry lies in the first of a list or in the others. -/
theorem liesIn_cons_iff {top : Json.Value} : LiesIn (top :: entries) depth entry ↔
    LiesIn [top] depth entry ∨ LiesIn entries depth entry := by
  constructor
  · intro h
    induction h with
    | top h => exact (List.mem_cons.1 h).imp (.top <| List.mem_singleton.2 ·) .top
    | condition _ hkind hconditions hentry ih =>
      exact ih.imp (.condition · hkind hconditions hentry) (.condition · hkind hconditions hentry)
  · rintro (h | h)
    · exact h.mono List.mem_cons_self
    · induction h with
      | top h => exact .top (List.mem_cons_of_mem top h)
      | condition _ hkind hconditions hentry ih => exact .condition ih hkind hconditions hentry

/-- What stands in an entry is the entry, unless it is a group. -/
theorem eq_of_liesIn_singleton {leaf : Json.Value}
    (hleaf : ∀ members, leaf = .object members → kind? members ≠ some .group)
    (h : LiesIn [leaf] depth entry) : depth = 1 ∧ entry = leaf := by
  induction h with
  | top h => exact ⟨rfl, List.mem_singleton.1 h⟩
  | condition _ hkind _ _ ih => exact absurd hkind (hleaf _ ih.2.symm)

/-- What stands in a group is the group, or stands in its conditions. -/
theorem liesIn_group_iff (hkind : kind? members = some .group)
    (hconditions : conditions? members = some conditions) :
    LiesIn [.object members] depth entry ↔
      depth = 1 ∧ entry = .object members ∨ ∃ d, depth = d + 1 ∧ LiesIn conditions d entry := by
  constructor
  · intro h
    induction h with
    | top h => exact .inl ⟨rfl, List.mem_singleton.1 h⟩
    | @condition depth members' conditions' entry _ hkind' hconditions' hentry ih =>
      obtain ⟨rfl, hobject⟩ | ⟨d, rfl, hin⟩ := ih
      · cases hobject
        rw [hconditions] at hconditions'
        cases hconditions'
        exact .inr ⟨1, rfl, .top hentry⟩
      · exact .inr ⟨d + 1, rfl, .condition hin hkind' hconditions' hentry⟩
  · rintro (⟨rfl, rfl⟩ | ⟨d, rfl, h⟩)
    · exact .top (List.mem_singleton_self _)
    · induction h with
      | top h => exact .condition (.top (List.mem_singleton_self _)) hkind hconditions h
      | condition _ hkind hconditions hentry ih => exact .condition ih hkind hconditions hentry

/-- A list nests beyond a room if its first entry does or the others do. -/
theorem nestsBeyond_cons_iff {top : Json.Value} {room : Nat} :
    NestsBeyond (top :: entries) room ↔ NestsBeyond [top] room ∨ NestsBeyond entries room := by
  constructor
  · rintro ⟨depth, entry, h, hdepth⟩
    exact (liesIn_cons_iff.1 h).imp (⟨depth, entry, ·, hdepth⟩) (⟨depth, entry, ·, hdepth⟩)
  · rintro (⟨depth, entry, h, hdepth⟩ | ⟨depth, entry, h, hdepth⟩)
    · exact ⟨depth, entry, liesIn_cons_iff.2 (.inl h), hdepth⟩
    · exact ⟨depth, entry, liesIn_cons_iff.2 (.inr h), hdepth⟩

theorem not_nestsBeyond_nil (room : Nat) : ¬NestsBeyond [] room := by
  rintro ⟨depth, entry, h, -⟩
  induction h with
  | top h => cases h
  | condition _ _ _ _ ih => exact ih

/-- Without any room every entry nests too deep. -/
theorem nestsBeyond_zero_iff : NestsBeyond entries 0 ↔ entries ≠ [] := by
  constructor
  · rintro h rfl
    exact not_nestsBeyond_nil 0 h
  · intro hne
    obtain ⟨entry, hentry⟩ := List.exists_mem_of_ne_nil entries hne
    exact ⟨1, entry, .top hentry, Nat.one_pos⟩

/-- An entry that is no group does not nest. -/
theorem not_nestsBeyond_singleton {leaf : Json.Value} {room : Nat}
    (hleaf : ∀ members, leaf = .object members → kind? members ≠ some .group) :
    ¬NestsBeyond [leaf] (room + 1) := by
  rintro ⟨depth, entry, h, hdepth⟩
  obtain ⟨rfl, -⟩ := eq_of_liesIn_singleton hleaf h
  omega

/-- A group takes one level of the room for its conditions. -/
theorem nestsBeyond_group_iff (hkind : kind? members = some .group)
    (hconditions : conditions? members = some conditions) {room : Nat} :
    NestsBeyond [.object members] (room + 1) ↔ NestsBeyond conditions room := by
  constructor
  · rintro ⟨depth, entry, h, hdepth⟩
    obtain ⟨rfl, -⟩ | ⟨d, rfl, hin⟩ := (liesIn_group_iff hkind hconditions).1 h
    · omega
    · exact ⟨d, entry, hin, Nat.lt_of_succ_lt_succ hdepth⟩
  · rintro ⟨depth, entry, h, hdepth⟩
    exact ⟨depth + 1, entry, (liesIn_group_iff hkind hconditions).2 (.inr ⟨depth, rfl, h⟩),
      Nat.succ_lt_succ hdepth⟩

/-- A readable group is a filter if its conditions are readable. -/
theorem isFilter_group (hself : isReadable (.object members) = true)
    (hkind : kind? members = some .group) (hconditions : conditions? members = some conditions)
    (h : ∀ depth entry, LiesIn conditions depth entry → isReadable entry = true) :
    IsFilter (.object members) [.object members] := by
  refine ⟨.single members, fun depth entry hin => ?_⟩
  obtain ⟨-, rfl⟩ | ⟨d, -, hin⟩ := (liesIn_group_iff hkind hconditions).1 hin
  · exact hself
  · exact h d entry hin

end LiesIn

/-! ## Reading -/

/-- The report has a result, or it says that entries nest too deep. The latter is the case exactly
if they do. -/
inductive Settles (options : Options) (deep : Prop) : Report (List Predicate) → Prop
  | ok {dropped : List Dropped} (ps : List Predicate) (hdeep : ¬deep) :
      Settles options deep ⟨dropped, .ok ps⟩
  | tooDeep {dropped : List Dropped} (hdeep : deep) :
      Settles options deep ⟨dropped, .error (.tooDeep options.maxDepth)⟩

section Settles

variable {options : Options} {deep deep' : Prop} {r r' : Report (List Predicate)}

theorem Settles.congr (h : Settles options deep r) (hiff : deep ↔ deep') :
    Settles options deep' r := by
  cases h with
  | ok ps hdeep => exact .ok ps (mt hiff.2 hdeep)
  | tooDeep hdeep => exact .tooDeep (hiff.1 hdeep)

/-- Two parts settle together: one of them being too deep is what makes both too deep. -/
theorem Settles.append (h : Settles options deep r) (h' : Settles options deep' r') :
    Settles options (deep ∨ deep') (r.andThen fun ps => r'.map (ps ++ ·)) := by
  cases h with
  | tooDeep hdeep => exact .tooDeep (.inl hdeep)
  | ok ps hdeep =>
    cases h' with
    | tooDeep hdeep' => exact .tooDeep (.inr hdeep')
    | ok qs hdeep' => exact .ok (ps ++ qs) (not_or.2 ⟨hdeep, hdeep'⟩)

/-- A change of the predicates that are read settles the same way. -/
theorem Settles.map (h : Settles options deep r) (f : List Predicate → List Predicate) :
    Settles options deep (r.map f) := by
  cases h with
  | ok ps hdeep => exact .ok (f ps) hdeep
  | tooDeep hdeep => exact .tooDeep hdeep

/-- Neither a result nor too deep a nesting is dropped. -/
theorem Settles.orDrop (h : Settles options deep r) (path : Path) (kind : Option String)
    (instead : List Predicate) : Settles options deep (r.orDrop options path kind instead) := by
  cases h with
  | ok ps hdeep => exact .ok ps hdeep
  | tooDeep hdeep =>
    simp only [Report.orDrop, Error.isLocal, Bool.and_false, Bool.false_eq_true, if_false]
    exact .tooDeep hdeep

end Settles

section Reading

variable {options : Options} {room : Nat} {entry : Json.Value} {members : Members}
  {entries : List Json.Value}

/-- An entry that is readable is not refused. -/
theorem exists_leaves (hread : isReadable entry = true)
    (hleaf : ∀ members, entry = .object members → kind? members ≠ some .group) :
    ∃ ps, ∀ options room path, readEntry options (room + 1) path entry = .ok ps := by
  cases reading entry with
  | leaves ps _ hleaves _ _ => exact ⟨ps, hleaves⟩
  | group _ _ hentry hkind _ _ _ => exact absurd hkind (hleaf _ hentry)
  | refused hfits hwidth _ =>
    cases entry with
    | string text => cases hfits
    | null | bool _ | number _ | array _ => cases hread
    | object members =>
      cases htag : isTagged members with
      | false =>
        rw [entryFits_of_untagged htag] at hfits
        simp only [isReadable, htag, Bool.false_eq_true, if_false, hfits] at hread
      | true =>
        simp only [isReadable, htag, if_true] at hread
        simp only [width, htag, if_true, hread] at hwidth
        cases hwidth

/-- A group that is readable reads its conditions. -/
theorem exists_readEntry_group (hread : isReadable (.object members) = true)
    (hkind : kind? members = some .group) : ∃ connective negated conditions,
      conditions? members = some conditions ∧ ∀ options room path,
        readEntry options (room + 1) path (.object members) =
          ((Report.each (fun i child => guardedEntry options room (path.push (.condition i)) child)
            0 conditions).map List.flatten).map fun ps => [.group connective negated ps] := by
  have htag := isTagged_of_kind? members hkind
  have hchecks := checks_readGroupFields members
  have hfields : fieldsRead members .group = true := by
    simpa only [isReadable, htag, if_true, hkind, Option.any_some] using hread
  rw [hfields] at hchecks
  obtain ⟨⟨connective, negated, conditions⟩, hconditions, hgroup⟩ := hchecks.exists_ok
  exact ⟨connective, negated, conditions, hconditions, fun options room path =>
    readEntry_group htag (readKind_eq hkind path) (hgroup path)⟩

/-- If each of some entries is settled, all of them are. -/
theorem settles_each_of_forall (h : ∀ entry ∈ entries, ∀ path,
      Settles options (NestsBeyond [entry] room) (guardedEntry options room path entry))
    (place : Nat → Path) (start : Nat) :
    Settles options (NestsBeyond entries room)
      ((Report.each (fun i entry => guardedEntry options room (place i) entry) start
        entries).map List.flatten) := by
  induction entries generalizing start with
  | nil => exact .ok [] (not_nestsBeyond_nil room)
  | cons entry rest ih =>
    have hentry := h entry List.mem_cons_self (place start)
    have hrest := ih (fun e he => h e (List.mem_cons_of_mem entry he)) (start + 1)
    rw [Report.map_flatten_each_cons]
    exact (hentry.append hrest).congr nestsBeyond_cons_iff.symm

/-- Reading of an entry, if it and all that are nested in it are readable: they nest too deep, or it
is read. -/
theorem settles_guardedEntry (options : Options) (room : Nat) (path : Path)
    (hread : ∀ depth e, LiesIn [entry] depth e → isReadable e = true) :
    Settles options (NestsBeyond [entry] room) (guardedEntry options room path entry) := by
  refine Settles.orDrop ?_ path none []
  induction room generalizing entry path with
  | zero =>
    rw [readEntry]
    exact .tooDeep (nestsBeyond_zero_iff.2 (List.cons_ne_nil entry []))
  | succ room ih =>
    have hself := hread 1 entry (.top (List.mem_singleton_self entry))
    by_cases hleaf : ∀ members, entry = .object members → kind? members ≠ some .group
    · obtain ⟨ps, hps⟩ := exists_leaves hself hleaf
      rw [hps options room path]
      exact .ok ps (not_nestsBeyond_singleton hleaf)
    · simp only [not_forall, not_not] at hleaf
      obtain ⟨members, rfl, hkind⟩ := hleaf
      obtain ⟨connective, negated, conditions, hconditions, hgroup⟩ :=
        exists_readEntry_group hself hkind
      rw [hgroup options room path]
      refine Settles.map ?_ _
      refine Settles.congr ?_ (nestsBeyond_group_iff hkind hconditions).symm
      refine settles_each_of_forall (fun child hchild path => ?_) _ 0
      -- What stands in a condition stands in the group.
      refine Settles.orDrop (ih path fun depth e he => ?_) path none []
      exact hread (depth + 1) e
        ((liesIn_group_iff hkind hconditions).2 (.inr ⟨depth, rfl, he.mono hchild⟩))

/-- A filter of readable entries is read, or they nest deeper than the options allow. -/
theorem settles_readPredicates {value : Json.Value} (h : IsFilter value entries)
    (options : Options) :
    Settles options (NestsBeyond entries options.maxDepth) (readPredicates options value) := by
  have hsettles (place : Nat → Path) (start : Nat) := settles_each_of_forall
    (fun entry hentry path => settles_guardedEntry options options.maxDepth path
      fun depth e he => h.readable depth e (he.mono hentry)) place start
  obtain ⟨hvalue, hreadable⟩ := h
  cases hvalue with
  | list => exact hsettles (fun i => Path.root.push (.entry i)) 0
  | single members =>
    exact settles_guardedEntry options options.maxDepth Path.root hreadable

end Reading

/-! ## Values -/

section Values

variable {value : Json.Value} {entries : List Json.Value} {options : Options}

/-- Given as a value, a filter of readable entries is too deep exactly if they nest deeper than the
options allow. The compiler finds nothing else that concerns the filter as a whole. -/
theorem compileValue_error_iff (h : IsFilter value entries) (options : Options) :
    (∀ n, (compileValue options value).result = .error (.tooDeep n) ↔
      n = options.maxDepth ∧ NestsBeyond entries options.maxDepth) ∧
    ∀ fault, (compileValue options value).result ≠ .error (.invalidJson fault) := by
  have hsettles := settles_readPredicates h options
  have hfits := @fitsIn_of_readPredicates options value
  unfold compileValue
  generalize readPredicates options value = r at hsettles hfits
  cases hsettles with
  | tooDeep hdeep =>
    refine ⟨fun n => ⟨?_, ?_⟩, nofun⟩
    · rintro ⟨⟩
      exact ⟨rfl, hdeep⟩
    · rintro ⟨rfl, -⟩
      rfl
  | ok ps hdeep =>
    -- An error of the compiler is about the delimiter of membership lists.
    have hrefuses (e : Error) (he : (compile options ps).result = .error e) :=
      refusesDelimiter_of_compile (hfits rfl) he
    refine ⟨fun n => ⟨fun hn => ?_, fun hn => absurd hn.2 hdeep⟩, fun fault hfault => ?_⟩
    · cases hrefuses _ hn
    · cases hrefuses _ hfault

/-- An entry at some depth is behind two levels of the value for each one above it. -/
theorem two_mul_depth_add_levels_le (hvalue : HasEntries value entries) {depth : Nat}
    {entry : Json.Value} (h : LiesIn entries depth entry) :
    2 * depth + entry.levels ≤ value.levels + 2 := by
  induction h with
  | @top entry hentry =>
    cases hvalue with
    | list =>
      have hle := Json.levels_le_of_mem hentry
      rw [Json.Value.levels]
      omega
    | single members =>
      obtain rfl := List.mem_singleton.1 hentry
      omega
  | @condition depth members conditions entry _ _ hconditions hentry ih =>
    have harray := Json.levels_le_of_get? (get?_of_conditions? members hconditions)
    have hle := Json.levels_le_of_mem hentry
    simp only [Json.Value.levels] at ih harray
    omega

end Values

/-! ## Texts -/

section Texts

variable {text : String} {levels : Nat} {value : Json.Value}
  {entries : List Json.Value}

/-- A text that is not too large and opens as many levels as the reader of JSON allows is worth its
value. -/
theorem compileText_of_levels_le (options : Options) (hsize : text.utf8ByteSize ≤ maxTextBytes)
    (htext : IsText levels (.value value) text.toList) (hlevels : levels ≤ depthLimit) :
    compileText options text = compileValue options value := by
  have hparse := (Json.parse_of_isText htext).1 hlevels
  rw [compileText, parsePredicates, if_neg (Nat.not_lt.2 hsize), hparse]
  rfl

/-- One that opens more is no JSON. -/
theorem compileText_of_lt_levels (options : Options) (hsize : text.utf8ByteSize ≤ maxTextBytes)
    (htext : IsText levels (.value value) text.toList) (hlevels : depthLimit < levels) :
    ∃ fault, compileText options text = .fail (.invalidJson fault) ∧ fault.cause = .tooDeep := by
  obtain ⟨fault, hparse, hcause⟩ := (Json.parse_of_isText htext).2 hlevels
  refine ⟨fault, ?_, hcause⟩
  rw [compileText, parsePredicates, if_neg (Nat.not_lt.2 hsize), hparse]
  rfl

/-- A filter of readable entries, given as a text. As long as the text opens no more levels than the
reader of JSON allows, it is worth its value: it is too deep exactly if its entries nest deeper than
the options allow, and it is never refused as JSON. Beyond that it is always refused as JSON,
because of its levels, and an entry that is deep enough brings any text there. -/
theorem compileText_of_isText (hsize : text.utf8ByteSize ≤ maxTextBytes)
    (htext : IsText levels (.value value) text.toList) (hfilter : IsFilter value entries)
    (options : Options) :
    (levels ≤ depthLimit →
      compileText options text = compileValue options value ∧
      (∀ n, (compileText options text).result = .error (.tooDeep n) ↔
        n = options.maxDepth ∧
          ∃ depth entry, LiesIn entries depth entry ∧ options.maxDepth < depth) ∧
      ∀ fault, (compileText options text).result ≠ .error (.invalidJson fault)) ∧
    (depthLimit < levels →
      ∃ fault, compileText options text = .fail (.invalidJson fault) ∧ fault.cause = .tooDeep) ∧
    ∀ depth entry, LiesIn entries depth entry → 2 * depth ≤ levels + 2 := by
  refine ⟨fun hlevels => ?_, compileText_of_lt_levels options hsize htext,
    fun depth entry hin => ?_⟩
  · have hvalue := compileText_of_levels_le options hsize htext hlevels
    obtain ⟨hdeep, hvalid⟩ := compileValue_error_iff hfilter options
    rw [hvalue]
    exact ⟨rfl, hdeep, hvalid⟩
  · have hdepth := two_mul_depth_add_levels_le hfilter.hasEntries hin
    have hopened : value.levels ≤ levels := htext.levels_le
    omega

/-- Three levels of brackets are no matter to the reader of JSON, but the conditions of the group
are one level too deep for these options. -/
theorem compileText_of_isText_group :
    (compileText ⟨1, true⟩
      " \x7b\"type\":\"group\",\"conditions\":[\"x\",\x7b\"a\": -5\x7d]\x7d").result =
        .error (.tooDeep 1) := by
  have htext : IsText 3 (.value (.object [("type", .string "group"), ("conditions", .array
      [.string "x", .object [("a", .number (.whole (-5) (by decide)))]])]))
      " \x7b\"type\":\"group\",\"conditions\":[\"x\",\x7b\"a\": -5\x7d]\x7d".toList := by
    have hgroup : IsText 0 (.value (.string "group")) "\"group\"".toList :=
      .string (Json.isBody_self (by decide))
    have hfirst : IsText 0 (.value (.string "x")) "\"x\"".toList :=
      .string (Json.isBody_self (by decide))
    have hnumeral : Json.IsNumeral (.whole (-5) (by decide)) ['-', '5'] := rfl
    have hsecond := IsText.object (.member
      (Json.isName_self (by decide : "a".toList.all Json.isPlain = true))
      (.space_before (by decide : Json.isSpace ' ' = true) (.number hnumeral)))
    have hobject := IsText.object (.members
      (Json.isName_self (by decide : "type".toList.all Json.isPlain = true)) hgroup
      (.member (Json.isName_self (by decide : "conditions".toList.all Json.isPlain = true))
        (.array (.items hfirst (.item hsecond)))))
    exact .space_before (by decide) hobject
  have hfilter := @isFilter_group _ [("type", .string "group"), ("conditions", .array
      [.string "x", .object [("a", .number (.whole (-5) (by decide)))]])] rfl rfl rfl (by
    intro depth entry hin
    rcases liesIn_cons_iff.1 hin with hin | hin
    · obtain ⟨-, rfl⟩ := eq_of_liesIn_singleton (by rintro _ ⟨⟩) hin
      rfl
    · obtain ⟨-, rfl⟩ := eq_of_liesIn_singleton (by rintro _ ⟨⟩; exact nofun) hin
      rfl)
  have hread := (compileText_of_isText (by decide) htext hfilter ⟨1, true⟩).1 (by decide)
  refine (hread.2.1 1).2 ⟨rfl, 2, .string "x", ?_, by decide⟩
  exact .condition (.top (List.mem_singleton_self _)) rfl rfl List.mem_cons_self

end Texts

/-! ## Groups around an entry -/

/-- An equality in groups around each other. -/
def nestedFields : Nat → Members
  | 0 => [("a", .bool true)]
  | n + 1 => [("type", .string "group"), ("conditions", .array [.object (nestedFields n)])]

/-- What stands in front of the condition of a group. -/
def groupOpening : String :=
  "\x7b\"type\":\"group\",\"conditions\":["

/-- What stands behind it. -/
def groupClosing : String :=
  "]\x7d"

/-- The text of an equality in groups around each other. -/
def nestedText : Nat → String
  | 0 => "\x7b\"a\":true\x7d"
  | n + 1 => groupOpening ++ nestedText n ++ groupClosing

/-- Each group adds the same number of bytes to the text. -/
theorem size_nestedText (n : Nat) : (nestedText n).utf8ByteSize = 10 + 32 * n := by
  induction n with
  | zero =>
    rw [nestedText]
    decide
  | succ n ih =>
    have hopening : groupOpening.utf8ByteSize = 30 := by decide
    have hclosing : groupClosing.utf8ByteSize = 2 := by decide
    rw [nestedText, String.utf8ByteSize_append, String.utf8ByteSize_append, ih, hopening, hclosing]
    omega

/-- Nested groups are a filter of one entry. -/
theorem isFilter_nested (n : Nat) :
    IsFilter (.object (nestedFields n)) [.object (nestedFields n)] := by
  induction n with
  | zero =>
    refine ⟨.single _, fun depth entry hin => ?_⟩
    obtain ⟨-, rfl⟩ := eq_of_liesIn_singleton (by rintro _ ⟨⟩; exact nofun) hin
    rfl
  | succ n ih => exact isFilter_group rfl rfl rfl ih.readable

/-- An equality inside of `n` groups lies at the depth `n + 1`. -/
theorem liesIn_nested (n : Nat) :
    LiesIn [.object (nestedFields n)] (n + 1) (.object (nestedFields 0)) := by
  induction n with
  | zero => exact .top (List.mem_singleton_self _)
  | succ n ih => exact (liesIn_group_iff rfl rfl).2 (.inr ⟨n + 1, rfl, ih⟩)

/-- Nested groups open two levels of brackets each. -/
theorem isText_nested (n : Nat) :
    IsText (2 * n + 1) (.value (.object (nestedFields n))) (nestedText n).toList := by
  induction n with
  | zero => exact .object (.member (Json.isName_self (by decide)) .yes)
  | succ n ih =>
    have hgroup : IsText 0 (.value (.string "group")) "\"group\"".toList :=
      .string (Json.isBody_self (by decide))
    have hrow := IsText.members
      (Json.isName_self (by decide : "type".toList.all Json.isPlain = true)) hgroup
      (.member (Json.isName_self (by decide : "conditions".toList.all Json.isPlain = true))
        (.array (.item ih)))
    have hlevels : max 0 (2 * n + 1 + 1) = 2 * (n + 1) := by omega
    rw [hlevels] at hrow
    have hobject : IsText (2 * (n + 1) + 1) (.value (.object (nestedFields (n + 1)))) _ :=
      .object hrow
    simpa [nestedText, groupOpening, groupClosing] using hobject

/-- A filter of groups around each other is refused as JSON before the limit of the options
counts. -/
theorem not_compileText_error_iff : ¬∀ (options : Options) (text : String) (levels : Nat)
    (value : Json.Value) (entries : List Json.Value), text.utf8ByteSize ≤ maxTextBytes →
    IsText levels (.value value) text.toList → IsFilter value entries →
    ((compileText options text).result = .error (.tooDeep options.maxDepth) ↔
      ∃ depth entry, LiesIn entries depth entry ∧ options.maxDepth < depth) := by
  intro h
  have hsize : (nestedText 64).utf8ByteSize ≤ maxTextBytes := by
    rw [size_nestedText]
    decide
  have hiff := h ⟨32, true⟩ _ _ _ _ hsize (isText_nested 64) (isFilter_nested 64)
  obtain ⟨fault, hfault, -⟩ :=
    compileText_of_lt_levels ⟨32, true⟩ hsize (isText_nested 64) (by decide)
  rw [hfault] at hiff
  cases hiff.2 ⟨65, _, liesIn_nested 64, by decide⟩

end SearchIndex.Filter
