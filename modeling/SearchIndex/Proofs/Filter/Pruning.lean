import Mathlib.Algebra.Ring.Nat
import SearchIndex.Proofs.Filter.Sifting

/-!
# Lenient work

Lenient reading and compilation of a JSON value is strict reading and compilation of the value
without its malformed entries, and each of these is noted once (`compileValue_prune`). Entries that
are nested deeper than allowed are no matter of lenience.

Some of the malformed entries are dropped by the reader and the others by the compiler, so the proof
has a tree between the two: what lenient reading of a value gives is, once sifted, what strict reading
of the pruned value gives (`agrees_readEntry`), and compiling drops what a sift leaves out.
-/

namespace SearchIndex.Filter

open Json (Members)
open Predicate (sift siftOf rejections rejectionsOf FitsIn)

/-! ## Pruned values -/

/-- The entry without the malformed entries that are nested in it, with `room` levels of depth left;
none if it is malformed itself. What is nested deeper is kept. -/
def pruneEntry : (room : Nat) → Json.Value → Option Json.Value
  | 0, entry => some entry
  | room + 1, entry =>
    if !entryFits entry then none
    else
      match entry with
      | .object members =>
        if kind? members = some .group then
          some (.object (Members.set "conditions"
            (.array (((conditions? members).getD []).filterMap (pruneEntry room))) members))
        else some entry
      | _ => some entry

/-- How many entries a pruned entry has less. -/
def deletions : (room : Nat) → Json.Value → Nat
  | 0, _ => 0
  | room + 1, entry =>
    if !entryFits entry then 1
    else
      match entry with
      | .object members =>
        if kind? members = some .group then
          (((conditions? members).getD []).map (deletions room)).sum
        else 0
      | _ => 0

/-- A filter without its malformed entries. -/
def prune (maxDepth : Nat) : Json.Value → Json.Value
  | .array entries => .array (entries.filterMap (pruneEntry maxDepth))
  | .object members => (pruneEntry maxDepth (.object members)).getD (.array [])
  | value => value

/-- How many entries a pruned filter has less. -/
def deletedEntries (maxDepth : Nat) : Json.Value → Nat
  | .array entries => (entries.map (deletions maxDepth)).sum
  | .object members => deletions maxDepth (.object members)
  | _ => 0

/-! ## Two readings -/

/-- A lenient report and a strict one: both nest too deep, or the strict one gives what is left of
the lenient one after a sift. The count is of what lenient work notes, now and when it compiles. -/
inductive Agrees (maxDepth room count : Nat) :
    Report (List Predicate) → Report (List Predicate) → Prop
  | ok {dropped dropped' : List Dropped} {ps : List Predicate} (hfits : ∀ p ∈ ps, FitsIn room p)
      (hcount : dropped.length + rejectionsOf ps = count) :
      Agrees maxDepth room count ⟨dropped, .ok ps⟩ ⟨dropped', .ok (siftOf ps)⟩
  | tooDeep {dropped dropped' : List Dropped} :
      Agrees maxDepth room count ⟨dropped, .error (.tooDeep maxDepth)⟩
        ⟨dropped', .error (.tooDeep maxDepth)⟩

section Agrees

variable {maxDepth room count count' : Nat} {r s r' s' : Report (List Predicate)}

/-- One list of predicates behind another. -/
theorem Agrees.append (h : Agrees maxDepth room count r s) (h' : Agrees maxDepth room count' r' s') :
    Agrees maxDepth room (count + count') (r.andThen fun ps => r'.map (ps ++ ·))
      (s.andThen fun ps => s'.map (ps ++ ·)) := by
  cases h with
  | tooDeep => exact .tooDeep
  | @ok dropped dropped' ps hfits hcount =>
    cases h' with
    | tooDeep => exact .tooDeep
    | @ok more more' qs hfits' hcount' =>
      simp only [Report.andThen, Report.map, Except.map]
      rw [← Predicate.siftOf_append]
      refine .ok (fun p hp => (List.mem_append.1 hp).elim (hfits p) (hfits' p)) ?_
      rw [List.length_append, Predicate.rejectionsOf_append]
      omega

/-- A group around the predicates. -/
theorem Agrees.group (h : Agrees maxDepth room count r s) (connective : Connective)
    (negated : Bool) :
    Agrees maxDepth (room + 1) count (r.map fun ps => [.group connective negated ps])
      (s.map fun ps => [.group connective negated ps]) := by
  cases h with
  | tooDeep => exact .tooDeep
  | @ok dropped dropped' ps hfits hcount =>
    have hgroup : ∀ p ∈ [Predicate.group connective negated ps], FitsIn (room + 1) p := by
      intro p hp
      obtain rfl := List.mem_singleton.1 hp
      exact hfits
    exact .ok hgroup (by simpa [rejectionsOf, rejections] using hcount)

/-- There is nothing that lenient work could drop as a whole. -/
theorem Agrees.orDrop (h : Agrees maxDepth room count r s) (options : Options) (path : Path)
    (kind : Option String) (instead : List Predicate) :
    Agrees maxDepth room count (r.orDrop options path kind instead) s := by
  cases h with
  | ok hfits hcount => exact .ok hfits hcount
  | tooDeep =>
    simp only [Report.orDrop, Error.isLocal, Bool.and_false, Bool.false_eq_true, if_false]
    exact .tooDeep

end Agrees

/-! ## Entries -/

/-- The report on a pruned entry; there is nothing to report if it was deleted. -/
def reportOf (read : Json.Value → Report (List Predicate)) :
    Option Json.Value → Report (List Predicate)
  | none => .ok []
  | some entry => read entry

/-! ### Pruning of an entry -/

section Prune

variable {entry : Json.Value} {members : Members}

/-- A malformed entry is deleted. -/
theorem prune_of_malformed (room : Nat) (h : entryFits entry = false) :
    pruneEntry (room + 1) entry = none ∧ deletions (room + 1) entry = 1 := by
  rw [pruneEntry.eq_def, deletions.eq_def]
  simp only [h, Bool.not_false, if_true, and_self]

/-- A well-formed entry that is no group is kept. -/
theorem prune_of_leaf (room : Nat) (h : entryFits entry = true)
    (hgroup : ∀ members, entry = .object members → kind? members ≠ some .group) :
    pruneEntry (room + 1) entry = some entry ∧ deletions (room + 1) entry = 0 := by
  cases entry with
  | object members =>
    simp only [pruneEntry, deletions, h, Bool.not_true, Bool.false_eq_true, if_false,
      if_neg (hgroup members rfl), and_self]
  | _ =>
    simp only [pruneEntry, deletions, h, Bool.not_true, Bool.false_eq_true, if_false, and_self]

/-- A group that fits stays, with its conditions pruned. -/
theorem prune_of_group (room : Nat) (h : entryFits (.object members) = true)
    (hkind : kind? members = some .group) {entries : List Json.Value}
    (hentries : conditions? members = some entries) :
    pruneEntry (room + 1) (.object members) = some (.object
        (Members.set "conditions" (.array (entries.filterMap (pruneEntry room))) members)) ∧
      deletions (room + 1) (.object members) = (entries.map (deletions room)).sum := by
  simp only [pruneEntry, deletions, h, Bool.not_true, Bool.false_eq_true, if_false, hkind, if_true,
    hentries, Option.getD_some, and_self]

end Prune

/-! ### Reading of an entry -/

section Read

variable {options : Options} {room : Nat} {path : Path} {members : Members}

/-- An object without a tag is read as shorthand. -/
theorem readEntry_shorthand (h : isTagged members = false) :
    readEntry options (room + 1) path (.object members) =
      Report.ofField (readShorthand path members) := by
  simp only [readEntry, h, Bool.false_eq_true, if_false]

/-- An object whose tag is wrong fails with the error of the tag. -/
theorem readEntry_kind_error (h : isTagged members = true) {e : Error}
    (hkind : readKind path members = .error e) :
    readEntry options (room + 1) path (.object members) = .fail e := by
  simp only [readEntry, h, if_true, hkind]

/-- An object of a kind other than a group is read by its fields. -/
theorem readEntry_leaf (h : isTagged members = true) {kind : Kind}
    (hkind : readKind path members = .ok kind) (hgroup : kind ≠ .group) :
    readEntry options (room + 1) path (.object members) =
      (Report.ofField (readLeaf path members kind)).map ([·]) := by
  cases kind with
  | group => exact absurd rfl hgroup
  | _ => simp only [readEntry, h, if_true, hkind]

/-- A group whose fields are wrong fails with the error of the fields. -/
theorem readEntry_group_error (h : isTagged members = true)
    (hkind : readKind path members = .ok .group) {e : Error}
    (hfields : readGroupFields path members = .error e) :
    readEntry options (room + 1) path (.object members) = .fail e := by
  simp only [readEntry, h, if_true, hkind, hfields]

/-- A group is read by its fields and then by its conditions. -/
theorem readEntry_group (h : isTagged members = true) (hkind : readKind path members = .ok .group)
    {connective : Connective} {negated : Bool} {entries : List Json.Value}
    (hfields : readGroupFields path members = .ok (connective, negated, entries)) :
    readEntry options (room + 1) path (.object members) =
      ((Report.each (fun i entry => guardedEntry options room (path.push (.condition i)) entry)
        0 entries).map List.flatten).map fun ps => [.group connective negated ps] := by
  simp only [readEntry, h, if_true, hkind, hfields]
  rw [Report.map_map]
  rfl

end Read

/-! ### Agreement on an entry -/

/-- Working through entries, agreement of each gives agreement of all. -/
theorem agrees_each {maxDepth room : Nat} {f g : Nat → Json.Value → Report (List Predicate)}
    {entries : List Json.Value}
    (h : ∀ entry ∈ entries, ∀ i j, Agrees maxDepth room (deletions room entry) (f i entry)
      (reportOf (g j) (pruneEntry room entry))) (start start' : Nat) :
    Agrees maxDepth room (entries.map (deletions room)).sum
      ((Report.each f start entries).map List.flatten)
      ((Report.each g start' (entries.filterMap (pruneEntry room))).map List.flatten) := by
  induction entries generalizing start start' with
  | nil => exact .ok nofun rfl
  | cons entry rest ih =>
    have hfirst := h entry List.mem_cons_self start start'
    have hrest (start start' : Nat) := ih (fun e he => h e (List.mem_cons_of_mem entry he)) start start'
    rw [Report.map_flatten_each_cons, List.map_cons, List.sum_cons]
    cases hprune : pruneEntry room entry with
    | none =>
      rw [hprune, reportOf] at hfirst
      have hall := hfirst.append (hrest (start + 1) start')
      rw [List.filterMap_cons_none hprune]
      rwa [Report.ok_andThen, Report.map_nil_append] at hall
    | some pruned =>
      rw [hprune] at hfirst
      rw [List.filterMap_cons_some hprune, Report.map_flatten_each_cons]
      exact hfirst.append (hrest (start + 1) (start' + 1))

section Entries

variable {maxDepth room : Nat} {path path' : Path}

/-- An entry that is read is not dropped. -/
theorem guardedEntry_of_ok {options : Options} {entry : Json.Value} {ps : List Predicate}
    (h : readEntry options room path entry = .ok ps) :
    guardedEntry options room path entry = .ok ps := by
  rw [guardedEntry, h]
  rfl

/-- An entry with an error of its own is dropped and noted. -/
theorem agrees_of_error {entry : Json.Value} {e : Error}
    (h : readEntry ⟨maxDepth, false⟩ room path entry = .fail e) (hlocal : e.isLocal = true) :
    Agrees maxDepth room 1 (guardedEntry ⟨maxDepth, false⟩ room path entry) (.ok []) := by
  have hguarded : guardedEntry ⟨maxDepth, false⟩ room path entry = ⟨[⟨path, none, e⟩], .ok []⟩ := by
    simp only [guardedEntry, h, Report.fail, Report.orDrop, hlocal, Bool.not_false, Bool.and_self,
      if_true, List.nil_append]
  rw [hguarded]
  refine .ok (fun p hp => ?_) rfl
  cases hp

/-- An entry that is read as predicates without groups. -/
theorem agrees_of_leaves {entry : Json.Value} {ps : List Predicate}
    (h : readEntry ⟨maxDepth, false⟩ (room + 1) path entry = .ok ps)
    (hps : ∀ p ∈ ps, IsLeaf p true) :
    Agrees maxDepth (room + 1) 0 (guardedEntry ⟨maxDepth, false⟩ (room + 1) path entry)
      (.ok ps) := by
  have hsift : siftOf ps = ps ∧ rejectionsOf ps = 0 := by
    clear h
    induction ps with
    | nil => exact ⟨rfl, rfl⟩
    | cons p rest ih =>
      have hp := hps p List.mem_cons_self
      obtain ⟨hrest, hcount⟩ := ih fun q hq => hps q (List.mem_cons_of_mem p hq)
      rw [siftOf, rejectionsOf, Predicate.sift_of_leaf hp.isGroup,
        Predicate.rejections_of_leaf hp.isGroup, hp.delimiter, hrest, hcount]
      exact ⟨rfl, rfl⟩
  have hfits : ∀ p ∈ ps, FitsIn (room + 1) p := fun p hp =>
    (Predicate.fitsIn_of_leaf (hps p hp).isGroup).2 (hps p hp).noNull
  have hagrees : Agrees maxDepth (room + 1) 0 ⟨[], .ok ps⟩ ⟨[], .ok (siftOf ps)⟩ :=
    .ok hfits (by rw [hsift.2]; rfl)
  rw [guardedEntry_of_ok h]
  rwa [hsift.1] at hagrees

/-- A membership test with the delimiter in a string is read, for the compiler to drop. -/
theorem agrees_of_rejected {entry : Json.Value} {p : Predicate} (hp : IsLeaf p false)
    (h : readEntry ⟨maxDepth, false⟩ (room + 1) path entry = .ok [p]) :
    Agrees maxDepth (room + 1) 1 (guardedEntry ⟨maxDepth, false⟩ (room + 1) path entry) (.ok []) := by
  have hsift : siftOf [p] = [] ∧ rejectionsOf [p] = 1 := by
    simp only [siftOf, rejectionsOf, Predicate.sift_of_leaf hp.isGroup,
      Predicate.rejections_of_leaf hp.isGroup, hp.delimiter, Bool.not_false, if_true,
      List.append_nil, Nat.add_zero, and_self]
  have hfits : ∀ q ∈ [p], FitsIn (room + 1) q := by
    intro q hq
    obtain rfl := List.mem_singleton.1 hq
    exact (Predicate.fitsIn_of_leaf hp.isGroup).2 hp.noNull
  have hagrees : Agrees maxDepth (room + 1) 1 ⟨[], .ok [p]⟩ ⟨[], .ok (siftOf [p])⟩ :=
    .ok hfits (by rw [hsift.2]; rfl)
  rw [guardedEntry_of_ok h]
  rwa [hsift.1] at hagrees

/-- Strict work drops no entry. -/
theorem guardedEntry_of_strict (room : Nat) (path : Path) (entry : Json.Value) :
    guardedEntry ⟨maxDepth, true⟩ room path entry = readEntry ⟨maxDepth, true⟩ room path entry :=
  Report.orDrop_of_strict rfl path none []

/-- The lenient and the strict reading of an entry, with a fixed number of levels left. -/
def AgreesOn (maxDepth room : Nat) (entry : Json.Value) : Prop :=
  ∀ path path', Agrees maxDepth room (deletions room entry)
    (guardedEntry ⟨maxDepth, false⟩ room path entry)
    (reportOf (guardedEntry ⟨maxDepth, true⟩ room path') (pruneEntry room entry))

/-- An entry that is malformed where it is read. -/
theorem agreesOn_of_error {entry : Json.Value} (hfits : entryFits entry = false)
    (h : ∀ path, ∃ e, readEntry ⟨maxDepth, false⟩ (room + 1) path entry = .fail e ∧
      e.isLocal = true) : AgreesOn maxDepth (room + 1) entry := by
  intro path path'
  obtain ⟨hprune, hdeletions⟩ := prune_of_malformed room hfits
  obtain ⟨e, he, hlocal⟩ := h path
  rw [hprune, hdeletions]
  exact agrees_of_error he hlocal

/-- An entry that is read without groups, the same everywhere. -/
theorem agreesOn_of_leaves {entry : Json.Value} (hfits : entryFits entry = true)
    (hgroup : ∀ members, entry = .object members → kind? members ≠ some .group)
    {ps : List Predicate} (hps : ∀ p ∈ ps, IsLeaf p true)
    (h : ∀ strict path, readEntry ⟨maxDepth, strict⟩ (room + 1) path entry = .ok ps) :
    AgreesOn maxDepth (room + 1) entry := by
  intro path path'
  obtain ⟨hprune, hdeletions⟩ := prune_of_leaf room hfits hgroup
  rw [hprune, hdeletions, reportOf, guardedEntry_of_strict, h true path']
  exact agrees_of_leaves (h false path) hps

theorem agreesOn_shorthand {members : Members} (htag : isTagged members = false) :
    AgreesOn maxDepth (room + 1) (.object members) := by
  have hkind : kind? members ≠ some .group := by
    intro hkind
    rw [isTagged_of_kind? members hkind] at htag
    cases htag
  have hchecks := checks_readShorthand members
  rw [← entryFits_of_untagged htag] at hchecks
  cases hentry : entryFits (.object members) with
  | false =>
    rw [hentry] at hchecks
    refine agreesOn_of_error hentry fun path => ?_
    obtain ⟨e, he, hlocal⟩ := hchecks.exists_error path
    refine ⟨e, ?_, hlocal⟩
    rw [readEntry_shorthand htag, he]
    rfl
  | true =>
    rw [hentry] at hchecks
    obtain ⟨ps, hps, hread⟩ := hchecks.exists_ok
    refine agreesOn_of_leaves hentry (fun _ hm => ?_) hps fun strict path => ?_
    · cases hm
      exact hkind
    · rw [readEntry_shorthand htag, hread path]
      rfl

/-- An object with a tag that names no kind. -/
theorem agreesOn_unkind {members : Members} (htag : isTagged members = true)
    (hkind : kind? members = none) : AgreesOn maxDepth (room + 1) (.object members) := by
  have hchecks := checks_readKind members
  rw [hkind] at hchecks
  refine agreesOn_of_error ?_ fun path => ?_
  · simp only [entryFits, htag, if_true, hkind]
  · obtain ⟨e, he, hlocal⟩ := hchecks.exists_error path
    exact ⟨e, readEntry_kind_error htag he, hlocal⟩

section Tagged

variable {members : Members} {kind : Kind} (hkind : kind? members = some kind)

include hkind

/-- The kind of a tagged object is read at every place. -/
theorem readKind_eq (path : Path) : readKind path members = .ok kind := by
  have hchecks := checks_readKind members
  rw [hkind] at hchecks
  obtain ⟨found, hfound, hread⟩ := hchecks.exists_ok
  cases hfound
  exact hread path

/-- A tagged object fits if the fields of its kind do. -/
theorem entryFits_eq : entryFits (.object members) = fieldsFit members kind := by
  simp only [entryFits, isTagged_of_kind? members hkind, if_true, hkind]

theorem agreesOn_leaf (hgroup : kind ≠ .group) :
    AgreesOn maxDepth (room + 1) (.object members) := by
  have htag := isTagged_of_kind? members hkind
  have hchecks := checks_readLeaf members hgroup
  have hfits := entryFits_eq hkind
  rw [fieldsFit] at hfits
  cases hread : fieldsRead members kind with
  | false =>
    rw [hread] at hchecks hfits
    refine agreesOn_of_error hfits fun path => ?_
    obtain ⟨e, he, hlocal⟩ := hchecks.exists_error path
    refine ⟨e, ?_, hlocal⟩
    rw [readEntry_leaf htag (readKind_eq hkind path) hgroup, he]
    rfl
  | true =>
    rw [hread] at hchecks hfits
    obtain ⟨p, hp, hok⟩ := hchecks.exists_ok
    have hentry (strict : Bool) (path : Path) :
        readEntry ⟨maxDepth, strict⟩ (room + 1) path (.object members) = .ok [p] := by
      rw [readEntry_leaf htag (readKind_eq hkind path) hgroup, hok path]
      rfl
    -- A leaf that can be read may still be refused later, for a delimiter in its list.
    cases hdelimiter : delimiterFits members kind with
    | true =>
      rw [hdelimiter] at hp hfits
      refine agreesOn_of_leaves hfits (fun _ hm => ?_) (fun q hq => ?_) hentry
      · cases hm
        rw [hkind]
        exact fun h => hgroup (Option.some_inj.1 h)
      · obtain rfl := List.mem_singleton.1 hq
        exact hp
    | false =>
      rw [hdelimiter] at hp hfits
      intro path path'
      obtain ⟨hprune, hdeletions⟩ := prune_of_malformed room hfits
      rw [hprune, hdeletions]
      exact agrees_of_rejected hp (hentry false path)

end Tagged

/-- A group, if its entries are read as they should be. -/
theorem agreesOn_group {members : Members} (hkind : kind? members = some .group)
    (ih : ∀ entry, AgreesOn maxDepth room entry) :
    AgreesOn maxDepth (room + 1) (.object members) := by
  have htag := isTagged_of_kind? members hkind
  have hchecks := checks_readGroupFields members
  have hfits : entryFits (.object members) = fieldsRead members .group := by
    rw [entryFits_eq hkind]
    exact Bool.and_true _
  cases hread : fieldsRead members .group with
  | false =>
    rw [hread] at hchecks hfits
    refine agreesOn_of_error hfits fun path => ?_
    obtain ⟨e, he, hlocal⟩ := hchecks.exists_error path
    exact ⟨e, readEntry_group_error htag (readKind_eq hkind path) he, hlocal⟩
  | true =>
    rw [hread] at hchecks hfits
    obtain ⟨⟨connective, negated, entries⟩, hentries, hfields⟩ := hchecks.exists_ok
    have hentries : conditions? members = some entries := hentries
    obtain ⟨hprune, hdeletions⟩ := prune_of_group room hfits hkind hentries
    intro path path'
    -- What is deleted moves the conditions behind it, so the two places need not be the same.
    have hconditions := agrees_each (fun entry (_ : entry ∈ entries) i j =>
      ih entry (path.push (.condition i)) (path'.push (.condition j))) 0 0
    obtain ⟨htag', hkind'⟩ := tag_set members (.array (entries.filterMap (pruneEntry room)))
    have hfields' :=
      readGroupFields_set members hentries (entries.filterMap (pruneEntry room)) path'
    rw [hfields path'] at hfields'
    rw [hprune, hdeletions, reportOf, guardedEntry_of_strict, guardedEntry,
      readEntry_group htag (readKind_eq hkind path) (hfields path),
      readEntry_group (htag'.trans htag) (readKind_eq (hkind'.trans hkind) path') hfields']
    exact (hconditions.group connective negated).orDrop _ _ _ _

end Entries

/-! ## Runs of the reader -/

/-- Lenient reading of an entry and strict reading of what is left of it. -/
theorem agrees_readEntry (maxDepth room : Nat) (path path' : Path) (entry : Json.Value) :
    Agrees maxDepth room (deletions room entry)
      (guardedEntry ⟨maxDepth, false⟩ room path entry)
      (reportOf (guardedEntry ⟨maxDepth, true⟩ room path') (pruneEntry room entry)) := by
  induction room generalizing path path' entry with
  | zero => exact .tooDeep
  | succ room ih =>
    cases entry with
    | object members =>
      cases htag : isTagged members with
      | false => exact agreesOn_shorthand htag path path'
      | true =>
        cases hkind : kind? members with
        | none => exact agreesOn_unkind htag hkind path path'
        | some kind =>
          by_cases hgroup : kind = .group
          · subst hgroup
            exact agreesOn_group hkind (fun entry path path' => ih path path' entry) path path'
          · exact agreesOn_leaf hkind hgroup path path'
    | string text =>
      have htext : ∀ p ∈ [Predicate.fragment text], IsLeaf p true := by
        intro p hp
        obtain rfl := List.mem_singleton.1 hp
        exact ⟨rfl, rfl, rfl⟩
      refine agreesOn_of_leaves rfl (fun _ hm => ?_) htext (fun _ _ => rfl) path path'
      cases hm
    | null | bool _ | number _ | array _ =>
      exact agreesOn_of_error rfl (fun path => ⟨_, rfl, rfl⟩) path path'

/-- A pruned object is an object. -/
theorem exists_object_of_pruneEntry {room : Nat} {members : Members} {entry : Json.Value}
    (h : pruneEntry room (.object members) = some entry) : ∃ more, entry = .object more := by
  cases room with
  | zero =>
    cases h
    exact ⟨members, rfl⟩
  | succ room =>
    simp only [pruneEntry] at h
    split_ifs at h
    · cases h
      exact ⟨_, rfl⟩
    · cases h
      exact ⟨members, rfl⟩

/-- Lenient reading of a filter and strict reading of the pruned filter. -/
theorem agrees_readPredicates (maxDepth : Nat) (value : Json.Value) :
    Agrees maxDepth maxDepth (deletedEntries maxDepth value)
        (readPredicates ⟨maxDepth, false⟩ value)
        (readPredicates ⟨maxDepth, true⟩ (prune maxDepth value)) ∨
      ∀ options, readPredicates options value = .fail (.malformed Path.root .filterType) ∧
        prune maxDepth value = value := by
  cases value with
  | null => exact .inl (.ok nofun rfl)
  | array entries =>
    refine .inl (agrees_each (fun entry _ i j => ?_) 0 0)
    exact agrees_readEntry maxDepth maxDepth _ _ entry
  | object members =>
    have hentry := agrees_readEntry maxDepth maxDepth Path.root Path.root (.object members)
    refine .inl ?_
    rw [prune, deletedEntries]
    cases hprune : pruneEntry maxDepth (.object members) with
    | none =>
      rw [hprune] at hentry
      exact hentry
    | some entry =>
      obtain ⟨more, rfl⟩ := exists_object_of_pruneEntry hprune
      rw [hprune] at hentry
      exact hentry
  | bool _ | number _ | string _ => exact .inr fun options => ⟨rfl, rfl⟩

/-! ## Strict work without errors -/

/-- The report on a field refines itself. -/
theorem refines_ofField {α : Type} (field : Field α) :
    (Report.ofField field).Refines (Report.ofField field) := by
  cases field with
  | ok a => exact Report.refines_ok a
  | error e => exact Report.refines_fail e _

/-- The strict reading of an entry refines the lenient one. -/
theorem readEntry_refines (maxDepth room : Nat) (path : Path) (entry : Json.Value) :
    (readEntry ⟨maxDepth, true⟩ room path entry).Refines
      (readEntry ⟨maxDepth, false⟩ room path entry) := by
  induction room generalizing path entry with
  | zero => exact Report.refines_fail _ _
  | succ room ih =>
    cases entry with
    | object members =>
      cases htag : isTagged members with
      | false =>
        rw [readEntry_shorthand htag, readEntry_shorthand htag]
        exact refines_ofField _
      | true =>
        cases hkind : readKind path members with
        | error e =>
          rw [readEntry_kind_error htag hkind]
          exact Report.refines_fail e _
        | ok kind =>
          by_cases hgroup : kind = .group
          · subst hgroup
            cases hfields : readGroupFields path members with
            | error e =>
              rw [readEntry_group_error htag hkind hfields]
              exact Report.refines_fail e _
            | ok fields =>
              obtain ⟨connective, negated, entries⟩ := fields
              rw [readEntry_group htag hkind hfields, readEntry_group htag hkind hfields]
              refine ((Report.Refines.each (fun child _ i => ?_) 0).map List.flatten).map _
              exact (ih _ child).orDrop rfl _ _ _ _
          · rw [readEntry_leaf htag hkind hgroup, readEntry_leaf htag hkind hgroup]
            exact (refines_ofField _).map _
    | string text => exact Report.refines_ok _
    | null | bool _ | number _ | array _ => exact Report.refines_fail _ _

theorem guardedEntry_refines (maxDepth room : Nat) (path : Path) (entry : Json.Value) :
    (guardedEntry ⟨maxDepth, true⟩ room path entry).Refines
      (guardedEntry ⟨maxDepth, false⟩ room path entry) :=
  (readEntry_refines maxDepth room path entry).orDrop rfl _ _ _ _

/-- The strict reading of a filter refines the lenient one. -/
theorem readPredicates_refines (maxDepth : Nat) (value : Json.Value) :
    (readPredicates ⟨maxDepth, true⟩ value).Refines (readPredicates ⟨maxDepth, false⟩ value) := by
  cases value with
  | null => exact Report.refines_ok []
  | array entries =>
    refine (Report.Refines.each (fun entry _ i => ?_) 0).map _
    exact guardedEntry_refines maxDepth maxDepth _ entry
  | object members => exact guardedEntry_refines maxDepth maxDepth _ _
  | bool _ | number _ | string _ => exact Report.refines_fail _ _

/-- The strict clause of a predicate refines the lenient one. -/
theorem clause_refines (maxDepth room : Nat) (path : Path) (p : Predicate) :
    (clause ⟨maxDepth, true⟩ room path p).Refines (clause ⟨maxDepth, false⟩ room path p) := by
  induction room generalizing path p with
  | zero => exact Report.refines_fail _ _
  | succ room ih =>
    cases p using Predicate.leaf_or_group with
    | leaf p hp =>
      rw [clause_of_leaf hp, clause_of_leaf hp]
      cases leafClause p with
      | ok text => exact Report.refines_ok text
      | error defect => exact Report.refines_fail _ _
    | group connective negated conditions =>
      rw [clause_group, clause_group]
      refine (Report.Refines.each (fun child _ i => ?_) 0).map _
      exact (ih _ child).orDrop rfl _ _ _ _

/-- The strict compilation of predicates refines the lenient one. -/
theorem compile_refines (maxDepth : Nat) (predicates : List Predicate) :
    (compile ⟨maxDepth, true⟩ predicates).Refines (compile ⟨maxDepth, false⟩ predicates) := by
  refine (Report.Refines.each (fun p _ i => ?_) 0).map _
  exact (clause_refines maxDepth maxDepth _ p).orDrop rfl _ _ _ _

/-- What strict work gives, lenient work gives with nothing noted. -/
theorem compileValue_refines (maxDepth : Nat) (value : Json.Value) :
    (compileValue ⟨maxDepth, true⟩ value).Refines (compileValue ⟨maxDepth, false⟩ value) :=
  (readPredicates_refines maxDepth value).andThen (compile_refines maxDepth)

/-! ## Filters -/

/-- What compilation makes of two readings that agree: both fail for the depth, or both give the same
filter and what the lenient one noted has been counted. -/
theorem Agrees.compile {maxDepth count : Nat} {r s : Report (List Predicate)}
    (h : Agrees maxDepth maxDepth count r s) :
    ((r.andThen (compile ⟨maxDepth, false⟩)).result = .error (.tooDeep maxDepth) ∧
        (s.andThen (compile ⟨maxDepth, true⟩)).result = .error (.tooDeep maxDepth)) ∨
      ∃ f, (r.andThen (compile ⟨maxDepth, false⟩)).result = .ok f ∧
        (s.andThen (compile ⟨maxDepth, true⟩)).result = .ok f ∧
        (r.andThen (compile ⟨maxDepth, false⟩)).dropped.length = count := by
  cases h with
  | tooDeep => exact .inl ⟨rfl, rfl⟩
  | @ok dropped dropped' ps hfits hcount =>
    obtain ⟨f, hlenient, hdropped, hstrict⟩ := compile_sift maxDepth hfits
    refine .inr ⟨f, hlenient, hstrict, ?_⟩
    calc (dropped ++ (Filter.compile ⟨maxDepth, false⟩ ps).dropped).length
        = dropped.length + rejectionsOf ps := by rw [List.length_append, hdropped]
      _ = count := hcount

/-- Lenient work gives what strict work gives of the pruned filter, and if it gives a filter it notes
each entry that is left out once. It fails for the depth only, or because the value is no filter.
Where strict work gives a filter, nothing is left out. -/
theorem compileValue_prune (maxDepth : Nat) (value : Json.Value) :
    (compileValue ⟨maxDepth, false⟩ value).result =
        (compileValue ⟨maxDepth, true⟩ (prune maxDepth value)).result ∧
      (∀ f, (compileValue ⟨maxDepth, false⟩ value).result = .ok f →
        (compileValue ⟨maxDepth, false⟩ value).dropped.length = deletedEntries maxDepth value) ∧
      (∀ e, (compileValue ⟨maxDepth, false⟩ value).result = .error e →
        e = .tooDeep maxDepth ∨ e = .malformed Path.root .filterType) ∧
      ∀ f, (compileValue ⟨maxDepth, true⟩ value).result = .ok f →
        compileValue ⟨maxDepth, false⟩ value = .ok f := by
  have hrefines := compileValue_refines maxDepth value
  obtain hagrees | hfilter := agrees_readPredicates maxDepth value
  · obtain ⟨hlenient, hstrict⟩ | ⟨f, hlenient, hstrict, hcount⟩ := hagrees.compile
    · -- Both nest too deep.
      refine ⟨hlenient.trans hstrict.symm, fun f hf => ?_, fun e he => .inl ?_, hrefines⟩
      · cases hlenient.symm.trans hf
      · exact (Except.error.inj (hlenient.symm.trans he)).symm
    · refine ⟨hlenient.trans hstrict.symm, fun _ _ => hcount, fun e he => ?_, hrefines⟩
      cases hlenient.symm.trans he
  · -- The value is no filter, and there is nothing to prune in it.
    have hfail (options : Options) :
        compileValue options value = .fail (.malformed Path.root .filterType) := by
      rw [compileValue, (hfilter options).1, Report.fail_andThen]
    rw [(hfilter ⟨maxDepth, true⟩).2, hfail, hfail]
    refine ⟨rfl, nofun, fun e he => .inr ?_, nofun⟩
    exact (Except.error.inj he).symm

/-- The reader leaves out the truth value, and the compiler the membership test in the group. -/
theorem compileValue_prune_stages :
    (compileValue ⟨3, false⟩ (.array [
      .object [("type", .string "group"), ("conditions", .array [
        .object [("type", .string "in"), ("column", .string "a"),
          ("values", .array [.string "x,y"])],
        .object [("b", .bool true)]])],
      .bool true])).dropped.length = 2 :=
  ((compileValue_prune 3 _).2.1 "(b eq true)" rfl).trans (by decide)

end SearchIndex.Filter
