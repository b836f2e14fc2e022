import SearchIndex.Proofs.Filter.Entries

/-!
# Places of malformed entries

An entry that is refused or dropped where it is read is named by its place in the filter as it was
given (`notes_readPredicates`). The compiler names places in the tree that was read instead: it
counts predicates where the filter has entries, and a single object as the first entry of a list.
So the place that it names is the renumbered place of the malformed entry (`Numbers`), and is
another one as soon as an entry before it gave no predicate or several (`compileValue_blames`).
-/

namespace SearchIndex.Filter

open Json (Members)

/-! ## Notes of a report -/

namespace Report

variable {α β : Type} {P Q : Path → Error → Prop}

/-- What a report notes has the property: each dropped predicate at its place, and the error at the
place that it names. -/
structure Notes (P : Path → Error → Prop) (r : Report α) : Prop where
  dropped : ∀ d ∈ r.dropped, P d.path d.error
  error : ∀ e path, r.result = .error e → e.path? = some path → P path e

section Notes

variable {r : Report α}

theorem notes_ok (a : α) : (ok a).Notes P :=
  ⟨nofun, nofun⟩

/-- An error without a place, or with one for which the property holds, is all there is to note. -/
theorem notes_fail {e : Error} (h : ∀ path, e.path? = some path → P path e) :
    (fail e : Report α).Notes P := by
  refine ⟨nofun, ?_⟩
  rintro _ path ⟨⟩ hpath
  exact h path hpath

/-- What follows from a property of all that is noted holds of it. -/
theorem Notes.mono (h : r.Notes P) (hPQ : ∀ path e, P path e → Q path e) : r.Notes Q :=
  ⟨fun d hd => hPQ _ _ (h.dropped d hd), fun e path he hpath => hPQ _ _ (h.error e path he hpath)⟩

/-- A mapping notes nothing. -/
theorem Notes.map (h : r.Notes P) (f : α → β) : (r.map f).Notes P :=
  ⟨h.dropped, fun e path he hpath => h.error e path (exists_of_map_eq_error he) hpath⟩

/-- A report that goes on notes what its parts note. -/
theorem Notes.andThen {next : α → Report β} (h : r.Notes P)
    (hnext : ∀ a, r.result = .ok a → (next a).Notes P) : (r.andThen next).Notes P := by
  unfold Report.andThen
  cases hr : r.result with
  | error e =>
    refine ⟨h.dropped, ?_⟩
    rintro _ path ⟨⟩ hpath
    exact h.error e path hr hpath
  | ok a =>
    refine ⟨fun d hd => ?_, (hnext a hr).error⟩
    rcases List.mem_append.1 hd with hd | hd
    · exact h.dropped d hd
    · exact (hnext a hr).dropped d hd

/-- What is dropped is noted at the place of the drop. -/
theorem Notes.orDrop {options : Options} {path : Path} (h : r.Notes P)
    (hdrop : ∀ e, options.strict = false → r.result = .error e → e.isLocal = true → P path e)
    (kind : Option String) (instead : α) : (r.orDrop options path kind instead).Notes P := by
  unfold Report.orDrop
  cases hr : r.result with
  | ok a => exact h
  | error e =>
    dsimp only
    split
    · next hcond =>
      obtain ⟨hlenient, hlocal⟩ := Bool.and_eq_true_iff.1 hcond
      refine ⟨fun d hd => ?_, nofun⟩
      rcases List.mem_append.1 hd with hd | hd
      · exact h.dropped d hd
      · obtain rfl := List.mem_singleton.1 hd
        exact hdrop e (by simpa using hlenient) hr hlocal
    · exact h

/-- The report on a list notes what those on its items note, each at its own number. -/
theorem Notes.each {f : Nat → α → Report β} {l : List α} {start : Nat}
    (h : ∀ i a, l[i]? = some a → (f (start + i) a).Notes P) : (each f start l).Notes P := by
  induction l generalizing start with
  | nil => exact notes_ok []
  | cons a rest ih =>
    rw [each_cons]
    refine (h 0 a rfl).andThen fun b _ => (ih fun i c hc => ?_).map _
    have hi := h (i + 1) c hc
    rwa [Nat.add_comm i 1, ← Nat.add_assoc] at hi

end Notes

/-- Working through one list and then through another. -/
theorem each_append (f : Nat → α → Report β) (start : Nat) (l m : List α) :
    each f start (l ++ m) =
      (each f start l).andThen fun bs => (each f (start + l.length) m).map (bs ++ ·) := by
  induction l generalizing start with
  | nil =>
    show each f start m = (each f start m).map ([] ++ ·)
    rw [map_nil_append]
  | cons a rest ih =>
    have hnext : start + (rest.length + 1) = start + 1 + rest.length := by omega
    rw [List.cons_append, each_cons, each_cons, ih, List.length_cons, hnext]
    obtain ⟨dropped, result⟩ := f start a
    cases result with
    | error e => rfl
    | ok b =>
      obtain ⟨more, result⟩ := each f (start + 1) rest
      cases result with
      | error e => rfl
      | ok bs =>
        obtain ⟨last, result⟩ := each f (start + 1 + rest.length) m
        cases result with
        | error e => simp only [andThen, map, Except.map, List.append_assoc]
        | ok cs => simp only [andThen, map, Except.map, List.append_assoc, List.cons_append]

end Report

/-! ## Entries at places -/

/-- The entries of a list, or of a group. -/
def parts : Json.Value → List Json.Value
  | .array entries => entries
  | .object members =>
    if kind? members = some .group then (conditions? members).getD [] else []
  | _ => []

/-- The parts of a group are its conditions. -/
theorem parts_group {members : Members} {entries : List Json.Value}
    (hkind : kind? members = some .group) (hconditions : conditions? members = some entries) :
    parts (.object members) = entries := by
  rw [parts, if_pos hkind, hconditions, Option.getD_some]

/-- What stands one step below a list or a group. -/
def child? (value : Json.Value) (step : PathStep) : Option Json.Value :=
  match value, step with
  | .array _, .entry i => (parts value)[i]?
  | .object _, .condition i => (parts value)[i]?
  | _, _ => none

/-- One step leads from a value to one of its parts. -/
theorem mem_parts_of_child? {value entry : Json.Value} {step : PathStep}
    (h : child? value step = some entry) : entry ∈ parts value := by
  unfold child? at h
  split at h
  · exact List.mem_of_getElem? h
  · exact List.mem_of_getElem? h
  · cases h

/-- The entry at a place in a filter as it was given. -/
def Path.target? (path : Path) (value : Json.Value) : Option Json.Value :=
  if path.base = Path.root.base then path.steps.foldlM child? value else none

theorem target?_root (value : Json.Value) : Path.root.target? value = some value := rfl

/-- A longer path goes one step on from where the shorter one leads. -/
theorem target?_push (path : Path) (step : PathStep) (value : Json.Value) :
    (path.push step).target? value = (path.target? value).bind (child? · step) := by
  unfold Path.target? Path.push
  dsimp only
  split
  · rw [List.foldlM_append]
    simp
  · rfl

/-- What holds of a filter, and of the parts of anything that it holds of, holds of each entry. -/
theorem target?_induction {value : Json.Value} {P : Json.Value → Prop} (hvalue : P value)
    (hparts : ∀ v, P v → ∀ part ∈ parts v, P part) {path : Path} {entry : Json.Value}
    (h : path.target? value = some entry) : P entry := by
  unfold Path.target? at h
  split at h
  · generalize path.steps = steps at h
    induction steps generalizing value with
    | nil =>
      cases h
      exact hvalue
    | cons step rest ih =>
      rw [List.foldlM_cons] at h
      obtain ⟨part, hpart, hrest⟩ := Option.bind_eq_some_iff.1 h
      exact ih (hparts value hvalue part (mem_parts_of_child? hpart)) hrest
  · cases h

/-- The number of an entry leads to the entry. -/
theorem target?_entry {entries : List Json.Value} {i : Nat} {entry : Json.Value}
    (h : entries[i]? = some entry) :
    (Path.root.push (.entry i)).target? (.array entries) = some entry := by
  rw [target?_push, target?_root]
  exact h

/-- The number of a condition leads from its group to the condition. -/
theorem target?_condition {path : Path} {value : Json.Value} {members : Members}
    {entries : List Json.Value} {i : Nat} {entry : Json.Value}
    (hentry : path.target? value = some (.object members)) (hkind : kind? members = some .group)
    (hconditions : conditions? members = some entries) (h : entries[i]? = some entry) :
    (path.push (.condition i)).target? value = some entry := by
  rw [target?_push, hentry, Option.bind_some, child?, parts_group hkind hconditions]
  exact h

/-- The value is a filter: a list of entries, a single entry or none. -/
def isFilter : Json.Value → Bool
  | .null | .array _ | .object _ => true
  | _ => false

/-- The place is that of a malformed entry in the filter, which is the reason for the error. -/
inductive Blames (value : Json.Value) : Path → Error → Prop
  /-- There is no filter. -/
  | filter (h : isFilter value = false) : Blames value Path.root (.malformed Path.root .filterType)
  /-- The entry is refused with the error. -/
  | refused {path : Path} {entry : Json.Value} {e : Error}
      (hentry : path.target? value = some entry) (hfits : entryFits entry = false)
      (hpoints : Points entry path e)
      (hread : ∀ options room, readEntry options (room + 1) path entry = .fail e) :
      Blames value path e
  /-- The column of an entry without a tag has no scalar. -/
  | member {path : Path} {members : Members} {column : String} {wrong : Json.Value}
      (hentry : path.target? value = some (.object members)) (htag : isTagged members = false)
      (hmem : (column, wrong) ∈ members) (hwrong : isScalar wrong = false) :
      Blames value (path.push (.member column))
        (.malformed (path.push (.member column)) (.scalarType wrong.typeName))
  /-- The entry is read as a predicate with the defect. -/
  | defective {path : Path} {entry : Json.Value} {p : Predicate} {defect : Defect}
      (hentry : path.target? value = some entry) (hfits : entryFits entry = false)
      (hread : ∀ options room, readEntry options (room + 1) path entry = .ok [p])
      (hdefect : leafClause p = .error defect) : Blames value path (.malformed path defect)

/-- The place is that of an entry, or of a column in one. -/
theorem Blames.exists_entry {value : Json.Value} {path : Path} {e : Error}
    (h : Blames value path e) : ∃ place entry, place.target? value = some entry ∧
      (path = place ∨ ∃ column, path = place.push (.member column)) := by
  cases h with
  | filter _ => exact ⟨Path.root, value, target?_root value, .inl rfl⟩
  | refused hentry _ _ _ => exact ⟨path, _, hentry, .inl rfl⟩
  | @member place _ column _ hentry _ _ _ => exact ⟨place, _, hentry, .inr ⟨column, rfl⟩⟩
  | defective hentry _ _ _ => exact ⟨path, _, hentry, .inl rfl⟩

/-! ## Reading -/

section Reading

variable {options : Options} {value : Json.Value}

/-- What lenient work drops is an entry that is refused itself. -/
theorem refused_of_readEntry_error {room : Nat} {path : Path} {entry : Json.Value} {e : Error}
    (hlenient : options.strict = false) (he : (readEntry options room path entry).result = .error e)
    (hlocal : e.isLocal = true) :
    entryFits entry = false ∧ width entry = 0 ∧ Points entry path e ∧
      ∀ options room, readEntry options (room + 1) path entry = .fail e := by
  cases room with
  | zero =>
    cases he
    cases hlocal
  | succ room =>
    cases reading entry with
    | refused hfits hwidth hread =>
      obtain ⟨e', hpoints, hfail⟩ := hread path
      rw [hfail options room] at he
      cases he
      exact ⟨hfits, hwidth, hpoints, hfail⟩
    | leaves ps _ hread _ _ =>
      rw [hread options room path] at he
      cases he
    | group connective negated _ _ _ _ hread =>
      rw [hread options room path] at he
      -- In lenient work an error of a condition is dropped there and does not reach the group.
      have hconditions := exists_of_map_eq_error (exists_of_map_eq_error he)
      obtain ⟨child, -, i, hchild⟩ := Report.exists_of_each_error hconditions
      rw [Report.isLocal_eq_false_of_orDrop hlenient hchild] at hlocal
      cases hlocal

/-- An error of an entry's own is blamed on a part of the entry. -/
theorem blames_of_readEntry_error {room : Nat} {path : Path} {entry : Json.Value} {e : Error}
    (hentry : path.target? value = some entry) (hlenient : options.strict = false)
    (he : (readEntry options room path entry).result = .error e) (hlocal : e.isLocal = true) :
    Blames value path e := by
  obtain ⟨hfits, -, hpoints, hread⟩ := refused_of_readEntry_error hlenient he hlocal
  exact .refused hentry hfits hpoints hread

/-- What is noted when an entry is read. -/
theorem notes_readEntry {room : Nat} {path : Path} {entry : Json.Value}
    (hentry : path.target? value = some entry) :
    (readEntry options room path entry).Notes (Blames value) := by
  induction room generalizing path entry with
  | zero => exact Report.notes_fail nofun
  | succ room ih =>
    cases reading entry with
    | refused hfits _ hread =>
      obtain ⟨e, hpoints, hfail⟩ := hread path
      rw [hfail options room]
      refine Report.notes_fail fun place hplace => ?_
      cases hpoints with
      | here hpath =>
        obtain rfl := Option.some.inj (hpath.symm.trans hplace)
        exact .refused hentry hfits (.here hpath) hfail
      | member hobject htag hmem hwrong =>
        obtain rfl := Option.some.inj hplace
        subst hobject
        exact .member hentry htag hmem hwrong
    | leaves ps _ hread _ _ =>
      rw [hread options room path]
      exact Report.notes_ok ps
    | group connective negated hobject hkind hconditions _ hread =>
      rw [hread options room path]
      subst hobject
      refine ((Report.Notes.each fun i child hchild => ?_).map _).map _
      rw [Nat.zero_add]
      have hplace := target?_condition hentry hkind hconditions hchild
      exact (ih hplace).orDrop (fun e hlenient he hlocal =>
        blames_of_readEntry_error hplace hlenient he hlocal) _ _

theorem notes_guardedEntry {room : Nat} {path : Path} {entry : Json.Value}
    (hentry : path.target? value = some entry) :
    (guardedEntry options room path entry).Notes (Blames value) :=
  (notes_readEntry hentry).orDrop (fun _ hlenient he hlocal =>
    blames_of_readEntry_error hentry hlenient he hlocal) _ _

/-- Reading names the entries that it refuses. -/
theorem notes_readPredicates (options : Options) (value : Json.Value) :
    (readPredicates options value).Notes (Blames value) := by
  cases value with
  | null => exact Report.notes_ok []
  | array entries =>
    refine (Report.Notes.each fun i entry h => ?_).map _
    rw [Nat.zero_add]
    exact notes_guardedEntry (target?_entry h)
  | object members => exact notes_guardedEntry (target?_root _)
  | bool _ | number _ | string _ =>
    refine Report.notes_fail ?_
    rintro _ ⟨⟩
    exact .filter rfl

end Reading

/-! ## Numbers of predicates -/

/-- How many predicates the entries before the given one give. -/
def countBefore (entries : List Json.Value) (i : Nat) : Nat :=
  ((entries.take i).map width).sum

/-- Before a later entry stand the predicates of the first one and those of the others. -/
theorem countBefore_cons_succ (entry : Json.Value) (rest : List Json.Value) (i : Nat) :
    countBefore (entry :: rest) (i + 1) = width entry + countBefore rest i := by
  rw [countBefore, List.take_succ_cons, List.map_cons, List.sum_cons, countBefore]

/-- If each entry but the last gives one predicate, the entries before the given one are as many as
their predicates. -/
theorem countBefore_of_width_eq_one {entries : List Json.Value}
    (h : ∀ entry ∈ entries.dropLast, width entry = 1) {i : Nat} (hi : i < entries.length) :
    countBefore entries i = i := by
  induction entries generalizing i with
  | nil => cases hi
  | cons entry rest ih =>
    cases i with
    | zero => rfl
    | succ i =>
      have hlt : i < rest.length := Nat.lt_of_succ_lt_succ hi
      have hdrop : (entry :: rest).dropLast = entry :: rest.dropLast :=
        List.dropLast_cons_of_ne_nil (List.ne_nil_of_length_pos (Nat.zero_lt_of_lt hlt))
      rw [hdrop] at h
      rw [countBefore_cons_succ, h entry List.mem_cons_self,
        ih (fun e he => h e (List.mem_cons_of_mem entry he)) hlt, Nat.add_comm]

/-- The place of an entry in the filter, and the place of its first predicate in the tree that is
read from the filter. -/
inductive Numbers (value : Json.Value) : Path → Path → Prop
  | single {members : Members} (h : value = .object members) :
      Numbers value Path.root (Path.root.push (.entry 0))
  | entry {entries : List Json.Value} (h : value = .array entries) {i : Nat}
      (hi : i < entries.length) :
      Numbers value (Path.root.push (.entry i)) (Path.root.push (.entry (countBefore entries i)))
  | condition {place tree : Path} (h : Numbers value place tree) {members : Members}
      (hentry : place.target? value = some (.object members)) (hkind : kind? members = some .group)
      {entries : List Json.Value} (hconditions : conditions? members = some entries) {i : Nat}
      (hi : i < entries.length) :
      Numbers value (place.push (.condition i)) (tree.push (.condition (countBefore entries i)))

/-- The filter is no single object, and at any depth each entry of a list but the last gives one
predicate. -/
structure IsEven (value : Json.Value) : Prop where
  ne_object : ∀ members, value ≠ .object members
  width_eq_one : ∀ (path : Path) (parent : Json.Value), path.target? value = some parent →
    ∀ entry ∈ (parts parent).dropLast, width entry = 1

/-- In an even filter, predicates have the places of their entries. -/
theorem Numbers.eq_of_isEven {value : Json.Value} {place tree : Path} (h : Numbers value place tree)
    (heven : IsEven value) : tree = place := by
  induction h with
  | single hobject => exact absurd hobject (heven.ne_object _)
  | @entry entries harray i hi =>
    have hone : ∀ entry ∈ entries.dropLast, width entry = 1 :=
      heven.width_eq_one Path.root (.array entries) (congrArg some harray)
    rw [countBefore_of_width_eq_one hone hi]
  | @condition place tree _ members hobject hkind entries hconditions i hi ih =>
    have hone := heven.width_eq_one place _ hobject
    rw [parts_group hkind hconditions] at hone
    rw [countBefore_of_width_eq_one hone hi, ih]

/-! ## Compiling -/

/-- The place is that of a malformed entry, renumbered. -/
def Renumbers (value : Json.Value) (path : Path) (e : Error) : Prop :=
  ∃ place defect, Numbers value place path ∧ e = .malformed path defect ∧
    Blames value place (.malformed place defect)

section Compiling

variable {options : Options} {value : Json.Value}

/-- An entry gives the predicates that it is read as, or none if it is dropped. -/
theorem readEntry_of_guardedEntry {room : Nat} {path : Path} {entry : Json.Value}
    {ps : List Predicate} (h : (guardedEntry options room path entry).result = .ok ps) :
    (readEntry options room path entry).result = .ok ps ∨ ps = [] ∧ width entry = 0 := by
  unfold guardedEntry Report.orDrop at h
  cases hread : (readEntry options room path entry).result with
  | ok qs =>
    rw [hread] at h
    exact .inl (hread.symm.trans h)
  | error e =>
    rw [hread] at h
    dsimp only at h
    split at h
    · next hcond =>
      obtain ⟨hlenient, hlocal⟩ := Bool.and_eq_true_iff.1 hcond
      cases h
      exact .inr ⟨rfl, (refused_of_readEntry_error (by simpa using hlenient) hread hlocal).2.1⟩
    · rw [hread] at h
      cases h

/-- The predicates that an entry gives are as many as its width says. -/
theorem length_of_guardedEntry {room : Nat} {path : Path} {entry : Json.Value}
    {ps : List Predicate} (h : (guardedEntry options room path entry).result = .ok ps) :
    ps.length = width entry := by
  obtain hok | ⟨rfl, hwidth⟩ := readEntry_of_guardedEntry h
  · cases room with
    | zero => cases hok
    | succ room =>
      cases reading entry with
      | refused _ _ hread =>
        obtain ⟨e, -, hfail⟩ := hread path
        rw [hfail options room] at hok
        cases hok
      | leaves qs hwidth hread _ _ =>
        rw [hread options room path] at hok
        cases hok
        exact hwidth.symm
      | group connective negated _ _ _ hwidth hread =>
        rw [hread options room path] at hok
        obtain ⟨qs, -, rfl⟩ := exists_of_map_eq_ok hok
        exact hwidth.symm
  · exact hwidth.symm

/-- If the compiler works through what each entry gives, and counts on from there, it works through
the predicates of all entries. -/
theorem notes_each_flatten {P : Path → Error → Prop}
    {read : Nat → Json.Value → Report (List Predicate)} {f : Nat → Predicate → Report String}
    {entries : List Json.Value} {pss : List (List Predicate)} {start n : Nat}
    (hread : (Report.each read start entries).result = .ok pss)
    (hnotes : ∀ i entry ps, entries[i]? = some entry → (read (start + i) entry).result = .ok ps →
      ps.length = width entry ∧ (Report.each f (n + countBefore entries i) ps).Notes P) :
    (Report.each f n pss.flatten).Notes P := by
  induction entries generalizing start n pss with
  | nil =>
    cases hread
    exact Report.notes_ok []
  | cons entry rest ih =>
    cases hfirst : (read start entry).result with
    | error e =>
      rw [Report.each_cons, Report.andThen, hfirst] at hread
      cases hread
    | ok ps =>
      rw [Report.each_cons, Report.andThen, hfirst] at hread
      obtain ⟨qss, hrest, rfl⟩ := exists_of_map_eq_ok hread
      obtain ⟨hlength, hps⟩ := hnotes 0 entry ps rfl hfirst
      rw [List.flatten_cons, Report.each_append, hlength]
      refine hps.andThen fun texts _ => (ih hrest fun i e qs he hqs => ?_).map _
      have hi := hnotes (i + 1) e qs he (by rwa [Nat.add_comm i 1, ← Nat.add_assoc])
      rwa [countBefore_cons_succ, ← Nat.add_assoc] at hi

/-- A predicate without conditions has at most the one defect. -/
theorem notes_guardedClause_of_leaf {P : Path → Error → Prop} {room : Nat} {path : Path}
    {p : Predicate} (hleaf : p.isGroup = false)
    (h : ∀ defect, leafClause p = .error defect → P path (.malformed path defect)) :
    (guardedClause options (room + 1) path p).Notes P := by
  unfold guardedClause
  rw [clause_of_leaf hleaf]
  cases hclause : leafClause p with
  | ok text => exact Report.notes_ok text
  | error defect =>
    have hP := h defect hclause
    refine (Report.notes_fail ?_).orDrop ?_ _ _
    · rintro _ ⟨⟩
      exact hP
    · rintro _ - ⟨⟩ -
      exact hP

/-- What is noted of a group is noted of its conditions. -/
theorem notes_guardedClause_group {P : Path → Error → Prop} {room : Nat} {path : Path}
    (connective : Connective) (negated : Bool) {conditions : List Predicate}
    (h : (Report.each (fun i child => guardedClause options room (path.push (.condition i)) child)
      0 conditions).Notes P) :
    (guardedClause options (room + 1) path (.group connective negated conditions)).Notes P := by
  rw [guardedClause_group]
  exact h.map _

/-- What is noted of the predicates of an entry, of which the first one has a number. -/
theorem notes_guardedClause {room : Nat} {place : Path} (tree : Nat → Path) {n : Nat}
    {entry : Json.Value} (hentry : place.target? value = some entry)
    (hnumbers : Numbers value place (tree n)) {ps : List Predicate}
    (hread : (guardedEntry options room place entry).result = .ok ps) :
    (Report.each (fun i p => guardedClause options room (tree i) p) n ps).Notes
      (Renumbers value) := by
  induction room generalizing place tree n entry ps with
  | zero =>
    obtain hok | ⟨rfl, -⟩ := readEntry_of_guardedEntry hread
    · cases hok
    · exact Report.notes_ok []
  | succ room ih =>
    obtain hok | ⟨rfl, -⟩ := readEntry_of_guardedEntry hread
    · refine Report.Notes.each fun i p hp => ?_
      -- A predicate with a defect, and a group, is the only one that its entry gives.
      have hfirst (hone : ps = [p]) : i = 0 := by
        rw [hone] at hp
        exact Nat.lt_one_iff.1 (List.getElem?_eq_some_iff.1 hp).1
      cases reading entry with
      | refused _ _ hrefused =>
        obtain ⟨e, -, hfail⟩ := hrefused place
        rw [hfail options room] at hok
        cases hok
      | leaves qs _ hleaves hleaf hdefect =>
        rw [hleaves options room place] at hok
        cases hok
        have hmem := List.mem_of_getElem? hp
        refine notes_guardedClause_of_leaf (hleaf p hmem) fun defect hclause => ?_
        obtain ⟨hone, hfits⟩ := hdefect p hmem defect hclause
        obtain rfl := hfirst hone
        subst hone
        exact ⟨place, defect, hnumbers, rfl, .defective hentry hfits
          (fun options room => hleaves options room place) hclause⟩
      | @group members connective negated entries hobject hkind hconditions _ hgroup =>
        subst hobject
        rw [hgroup options room place] at hok
        obtain ⟨conditions, hflat, rfl⟩ := exists_of_map_eq_ok hok
        obtain ⟨pss, hpss, rfl⟩ := exists_of_map_eq_ok hflat
        obtain rfl := List.mem_singleton.1 (List.mem_of_getElem? hp)
        obtain rfl := hfirst rfl
        refine notes_guardedClause_group connective negated ?_
        refine notes_each_flatten hpss fun i child ps hi hps => ?_
        rw [Nat.zero_add] at hps ⊢
        have hlt := (List.getElem?_eq_some_iff.1 hi).1
        exact ⟨length_of_guardedEntry hps, ih (fun i => (tree n).push (.condition i))
          (target?_condition hentry hkind hconditions hi)
          (hnumbers.condition hentry hkind hconditions hlt) hps⟩
    · exact Report.notes_ok []

/-- What is noted when the predicates that were read are compiled. -/
theorem notes_compile {ps : List Predicate}
    (hread : (readPredicates options value).result = .ok ps) :
    (compile options ps).Notes (Renumbers value) := by
  refine Report.Notes.map ?_ conjunction
  cases value with
  | null =>
    cases hread
    exact Report.notes_ok []
  | array entries =>
    obtain ⟨pss, hpss, rfl⟩ := exists_of_map_eq_ok hread
    refine notes_each_flatten hpss fun i entry ps hi hps => ?_
    rw [Nat.zero_add] at hps ⊢
    have hlt := (List.getElem?_eq_some_iff.1 hi).1
    exact ⟨length_of_guardedEntry hps, notes_guardedClause
      (fun i => Path.root.push (.entry i)) (target?_entry hi) (.entry rfl hlt) hps⟩
  | object members =>
    exact notes_guardedClause (fun i => Path.root.push (.entry i)) (target?_root _)
      (.single rfl) hread
  | bool _ | number _ | string _ => cases hread

/-- What is noted for a filter. -/
theorem notes_compileValue (options : Options) (value : Json.Value) :
    (compileValue options value).Notes fun path e => Blames value path e ∨ Renumbers value path e :=
  ((notes_readPredicates options value).mono fun _ _ => .inl).andThen fun _ hread =>
    (notes_compile hread).mono fun _ _ => .inr

/-- In an even filter the renumbered place is the place itself. -/
theorem Renumbers.blames {path : Path} {e : Error} (h : Renumbers value path e)
    (heven : IsEven value) : Blames value path e := by
  obtain ⟨place, defect, hnumbers, rfl, hblames⟩ := h
  rw [hnumbers.eq_of_isEven heven]
  exact hblames

end Compiling

/-- Whatever the options, each place that is noted for a filter is the place of a malformed entry,
or the renumbered place of one. In an even filter it is always the place of one. -/
theorem compileValue_blames (options : Options) (value : Json.Value) :
    (compileValue options value).Notes
        (fun path e => Blames value path e ∨ Renumbers value path e) ∧
      (IsEven value → (compileValue options value).Notes (Blames value)) := by
  have hnotes := notes_compileValue options value
  refine ⟨hnotes, fun heven => hnotes.mono fun path e h => ?_⟩
  rcases h with h | h
  · exact h
  · exact h.blames heven

/-! ## A group and an object of two columns -/

/-- A membership test that only the compiler refuses. -/
def refusedTest : Json.Value :=
  .object [("type", .string "in"), ("column", .string "c"), ("values", .array [.string "x,y"])]

/-- A group of a fragment and the test. -/
def groupOfTest : Json.Value :=
  .object [("type", .string "group"), ("conditions", .array [.string "a eq 1", refusedTest])]

/-- The group has a fragment and the refused test. -/
theorem parts_groupOfTest : parts groupOfTest = [.string "a eq 1", refusedTest] :=
  parts_group (by decide) rfl

theorem isEven_groupOfTest : IsEven (.array [groupOfTest]) := by
  refine ⟨fun _ => nofun, fun path parent h => ?_⟩
  have hparent : (parent = .array [groupOfTest] ∨ parent = groupOfTest) ∨ parts parent = [] := by
    refine target?_induction
      (P := fun v => (v = .array [groupOfTest] ∨ v = groupOfTest) ∨ parts v = [])
      (.inl (.inl rfl)) ?_ h
    rintro v ((rfl | rfl) | hv) part hpart
    · exact .inl (.inr (List.mem_singleton.1 hpart))
    · rw [parts_groupOfTest] at hpart
      rcases List.mem_pair.1 hpart with rfl | rfl
      · exact .inr rfl
      · exact .inr rfl
    · rw [hv] at hpart
      cases hpart
  intro entry hentry
  rcases hparent with (rfl | rfl) | hnone
  · cases hentry
  · rw [parts_groupOfTest] at hentry
    obtain rfl := List.mem_singleton.1 hentry
    rfl
  · rw [hnone] at hentry
    cases hentry

/-- The compiler names the second condition of the group. -/
theorem compileValue_blames_condition :
    Blames (.array [groupOfTest]) ⟨"wheres", [.entry 0, .condition 1]⟩
      (.malformed ⟨"wheres", [.entry 0, .condition 1]⟩ (.delimiterInMembership "x,y" "c")) :=
  ((compileValue_blames {} _).2 isEven_groupOfTest).error _ _ (by rfl) rfl

/-- Two predicates of the first entry are counted as entries. -/
theorem exists_not_blames : ¬ ∀ (options : Options) (value : Json.Value),
    (compileValue options value).Notes (Blames value) := by
  intro h
  have hnotes := h {} (.array [.object [("a", .bool true), ("b", .bool false)], refusedTest])
  have hblames := hnotes.error
    (.malformed ⟨"wheres", [.entry 2]⟩ (.delimiterInMembership "x,y" "c")) ⟨"wheres", [.entry 2]⟩
    (by rfl) rfl
  obtain ⟨place, entry, hentry, rfl | ⟨column, hcolumn⟩⟩ := hblames.exists_entry
  · cases hentry
  · have hsteps := congrArg (·.steps.getLast?) hcolumn
    rw [Path.push, List.getLast?_concat] at hsteps
    cases hsteps

end SearchIndex.Filter
