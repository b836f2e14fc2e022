import SearchIndex.Proofs.Filter.Places
import SearchIndex.Proofs.Json.Objects

/-!
# Sites in a filter

A site is a gap in the entries of a filter, or in the conditions of a group among them, at any
depth. The tree that is read from a filter has sites as well, between predicates. If the groups
around a site are read, there is one site of the tree that belongs to it: whatever is put into the
gap, lenient work finds the predicates of it there, and the rest of the tree stays as it is
(`exists_site`). The one exception are filters that nest too deep around the gap or beside it.

Every predicate of a tree that is no group comes from an entry at such a site
(`exists_standsIn_of_mem_nodesOf`).
-/

namespace SearchIndex.Filter

open Json (Members)
open Predicate (nodesOf nodesOf_append exists_of_mem_nodesOf eq_of_mem_nodes_of_leaf)

/-! ## Sites -/

/-- A gap in a list, or in the list that is wrapped in one of its elements. The label is what the
wrapping element has beside its list. -/
inductive Site (α γ : Type) where
  | list (before after : List α)
  | inside (before : List α) (label : γ) (inner : Site α γ) (after : List α)

/-- The list with elements in the gap. -/
def Site.fill {α γ : Type} (wrap : γ → List α → α) : Site α γ → List α → List α
  | .list before after, elements => before ++ elements ++ after
  | .inside before label inner after, elements =>
    before ++ wrap label (inner.fill wrap elements) :: after

/-- A list shows what is in the gap. -/
theorem Site.fill_injective {α γ : Type} {wrap : γ → List α → α}
    (hwrap : ∀ label, Function.Injective (wrap label)) (site : Site α γ) :
    Function.Injective (site.fill wrap) := by
  induction site with
  | list before after =>
    intro l m h
    exact List.append_cancel_left (List.append_cancel_right h)
  | inside before label inner after ih =>
    intro l m h
    exact ih (hwrap label (List.cons.inj (List.append_cancel_left h)).1)

/-- A group with other conditions. -/
def withConditions (members : Members) (entries : List Json.Value) : Json.Value :=
  .object (members.set "conditions" (.array entries))

/-- The entries of a filter, with some of them in the gap. -/
def Site.withEntries (site : Site Json.Value Members) (entries : List Json.Value) :
    List Json.Value :=
  site.fill withConditions entries

/-- The predicates of a tree, with some of them in the gap. -/
def Site.withPredicates (site : Site Predicate (Connective × Bool)) (ps : List Predicate) :
    List Predicate :=
  site.fill (fun label conditions => .group label.1 label.2 conditions) ps

/-- The groups around the gap are read. -/
def Site.IsOpen : Site Json.Value Members → Prop
  | .list _ _ => True
  | .inside _ members inner _ =>
    kind? members = some .group ∧ fieldsRead members .group = true ∧ inner.IsOpen

/-- The filter is the list of the entries, or is the only entry itself. -/
inductive HasEntries : Json.Value → List Json.Value → Prop
  | list (entries : List Json.Value) : HasEntries (.array entries) entries
  | single (members : Members) : HasEntries (.object members) [.object members]

section Trees

variable (site : Site Predicate (Connective × Bool)) {ps qs : List Predicate}

/-- Different predicates at a site make different filters. -/
theorem Site.withPredicates_inj : site.withPredicates ps = site.withPredicates qs ↔ ps = qs := by
  refine (site.fill_injective ?_).eq_iff
  rintro label _ _ ⟨⟩
  rfl

/-- What is in the gap is in the tree. -/
theorem Site.nodesOf_subset_withPredicates : nodesOf ps ⊆ nodesOf (site.withPredicates ps) := by
  induction site with
  | list before after =>
    rw [withPredicates, fill, nodesOf_append, nodesOf_append]
    exact fun _ h => List.mem_append_left _ (List.mem_append_right _ h)
  | inside before label inner after ih =>
    rw [withPredicates, fill, nodesOf_append, nodesOf, Predicate.nodes]
    intro p h
    exact List.mem_append_right _ (List.mem_append_left _ (List.mem_cons_of_mem _ (ih h)))

end Trees

/-! ## Lenient reading of a list -/

namespace Report

variable {α β : Type} (f : Nat → α → Report (List β)) (start : Nat)

/-- The results for two lists, one behind the other. -/
theorem result_each_append (l m : List α) :
    ((each f start (l ++ m)).map List.flatten).result =
      ((each f start l).map List.flatten).result >>= fun bs =>
        ((each f (start + l.length) m).map List.flatten).result.map (bs ++ ·) := by
  rw [each_append]
  obtain ⟨dropped, result⟩ := each f start l
  cases result with
  | error e => rfl
  | ok bss =>
    obtain ⟨dropped', result'⟩ := each f (start + l.length) m
    cases result' with
    | error e => rfl
    | ok css =>
      show Except.ok (bss ++ css).flatten = Except.ok (bss.flatten ++ css.flatten)
      rw [List.flatten_append]

/-- The result of a single item is the result of the list. -/
theorem result_each_singleton (a : α) :
    ((each f start [a]).map List.flatten).result = (f start a).result := by
  rw [map_flatten_each_cons]
  obtain ⟨dropped, result⟩ := f start a
  cases result with
  | error e => rfl
  | ok bs =>
    show Except.ok (bs ++ []) = Except.ok bs
    rw [List.append_nil]

end Report

/-- With `room` levels left, lenient work gives the predicates of the entries, wherever these stand,
or finds that they nest too deep. -/
def Yields (maxDepth room : Nat) (entries : List Json.Value) (ps? : Option (List Predicate)) :
    Prop :=
  ∀ (place : Nat → Path) (start : Nat),
    ((Report.each (fun i entry => guardedEntry ⟨maxDepth, false⟩ room (place i) entry) start
      entries).map List.flatten).result = ps?.elim (.error (.tooDeep maxDepth)) .ok

/-- The entries stand for the predicates, wherever there is room for them. -/
def StandFor (maxDepth : Nat) (entries : List Json.Value) (ps : List Predicate) : Prop :=
  ∀ room, Yields maxDepth (room + 1) entries (some ps)

section Yields

variable {maxDepth room : Nat} {entries more : List Json.Value}
  {ps? qs? : Option (List Predicate)}

theorem yields_nil : Yields maxDepth room [] (some []) :=
  fun _ _ => rfl

/-- Entries with others behind them. -/
theorem Yields.append (h : Yields maxDepth room entries ps?)
    (hmore : Yields maxDepth room more qs?) :
    Yields maxDepth room (entries ++ more) (ps?.bind fun ps => qs?.map (ps ++ ·)) := by
  intro place start
  rw [Report.result_each_append, h place start, hmore place (start + entries.length)]
  cases ps? <;> cases qs? <;> rfl

/-- A list of one entry. -/
theorem yields_singleton {entry : Json.Value} (h : ∀ path,
    (guardedEntry ⟨maxDepth, false⟩ room path entry).result =
      ps?.elim (.error (.tooDeep maxDepth)) .ok) : Yields maxDepth room [entry] ps? := by
  intro place start
  rw [Report.result_each_singleton]
  exact h (place start)

/-- Without room for them, entries nest too deep. -/
theorem yields_zero (h : entries ≠ []) : Yields maxDepth 0 entries none := by
  intro place start
  cases entries with
  | nil => exact absurd rfl h
  | cons entry rest =>
    rw [Report.map_flatten_each_cons]
    rfl

/-- An entry that is refused gives nothing. -/
theorem guardedEntry_of_refused {path : Path} {entry : Json.Value} {e : Error}
    (hread : readEntry ⟨maxDepth, false⟩ (room + 1) path entry = .fail e)
    (hlocal : e.isLocal = true) :
    guardedEntry ⟨maxDepth, false⟩ (room + 1) path entry = ⟨[⟨path, none, e⟩], .ok []⟩ := by
  simp only [guardedEntry, hread, Report.fail, Report.orDrop, hlocal, Bool.not_false, Bool.and_self,
    if_true, List.nil_append]

/-- A group with the conditions that it has. -/
theorem withConditions_self {members : Members} (h : conditions? members = some entries) :
    withConditions members entries = .object members := by
  rw [withConditions, Members.set_of_get? (get?_of_conditions? members h)]

/-- A group gives one predicate around what its conditions give. -/
theorem exists_yields_group {members : Members} (hkind : kind? members = some .group)
    (hfields : fieldsRead members .group = true) : ∃ label : Connective × Bool,
      ∀ room conditions ps?, Yields maxDepth room conditions ps? →
        Yields maxDepth (room + 1) [withConditions members conditions]
          (ps?.map fun ps => [.group label.1 label.2 ps]) := by
  have hchecks := checks_readGroupFields members
  rw [hfields] at hchecks
  obtain ⟨⟨connective, negated, entries⟩, hentries, hread⟩ := hchecks.exists_ok
  refine ⟨(connective, negated), fun room conditions ps? hps => yields_singleton fun path => ?_⟩
  obtain ⟨htag, hsame⟩ := tag_set members (.array conditions)
  have hset := readGroupFields_set members hentries conditions path
  rw [hread path] at hset
  have htagged := htag.trans (isTagged_of_kind? members hkind)
  rw [guardedEntry, withConditions,
    readEntry_group htagged (readKind_eq (hsame.trans hkind) path) hset]
  have hconditions := hps (fun i => path.push (.condition i)) 0
  generalize (Report.each (fun i entry => guardedEntry ⟨maxDepth, false⟩ room
    (path.push (.condition i)) entry) 0 conditions).map List.flatten = r at hconditions ⊢
  obtain ⟨dropped, result⟩ := r
  obtain rfl : result = _ := hconditions
  cases ps? <;> rfl

/-- Whether entries nest too deep, and what they give if not, does not depend on where they
stand. -/
theorem exists_yields (maxDepth room : Nat) (entries : List Json.Value) :
    ∃ ps?, Yields maxDepth room entries ps? := by
  -- The conditions of a group are read with one level less, so the levels come before the list.
  induction room generalizing entries with
  | zero =>
    cases entries with
    | nil => exact ⟨_, yields_nil⟩
    | cons entry rest => exact ⟨_, yields_zero (List.cons_ne_nil entry rest)⟩
  | succ room ih =>
    induction entries with
    | nil => exact ⟨_, yields_nil⟩
    | cons entry rest ihrest =>
      obtain ⟨qs?, hrest⟩ := ihrest
      suffices ∃ ps?, Yields maxDepth (room + 1) [entry] ps? by
        obtain ⟨ps?, hentry⟩ := this
        exact ⟨_, hentry.append hrest⟩
      cases reading entry with
      | refused _ _ hread =>
        refine ⟨some [], yields_singleton fun path => ?_⟩
        obtain ⟨e, hpoints, hfail⟩ := hread path
        rw [guardedEntry_of_refused (hfail _ room) hpoints.isLocal]
        rfl
      | leaves ps _ hread _ _ =>
        refine ⟨some ps, yields_singleton fun path => ?_⟩
        rw [guardedEntry_of_ok (hread _ room path)]
        rfl
      | @group members connective negated conditions hobject hkind hconditions hwidth _ =>
        obtain ⟨label, hgroup⟩ := @exists_yields_group maxDepth members hkind
          (fieldsRead_of_width hkind (hobject ▸ hwidth))
        obtain ⟨ps?, hps⟩ := ih conditions
        rw [hobject, ← withConditions_self hconditions]
        exact ⟨_, hgroup room conditions ps? hps⟩

end Yields

/-! ## What is read at a site -/

section Sites

variable {maxDepth room : Nat}

/-- Entries between others. -/
theorem Yields.between {before entries after : List Json.Value}
    {bs? ps? as? : Option (List Predicate)} (hbefore : Yields maxDepth room before bs?)
    (hentries : Yields maxDepth room entries ps?) (hafter : Yields maxDepth room after as?) :
    Yields maxDepth room (before ++ entries ++ after)
      (bs?.bind fun bs => ps?.bind fun ps => as?.map (bs ++ ps ++ ·)) := by
  have h := (hbefore.append hentries).append hafter
  cases bs? <;> cases ps? <;> exact h

/-- With some levels left, a site of the entries belongs to a site of what they give, or they nest
too deep. -/
theorem exists_yields_withEntries {site : Site Json.Value Members} (hopen : site.IsOpen)
    (maxDepth room : Nat) :
    (∀ entries ps, entries ≠ [] → StandFor maxDepth entries ps →
        Yields maxDepth room (site.withEntries entries) none) ∨
      ∃ tree : Site Predicate (Connective × Bool), ∀ entries ps, StandFor maxDepth entries ps →
        Yields maxDepth room (site.withEntries entries) (some (tree.withPredicates ps)) := by
  -- What is beside the gap is read whatever is in it, so the site of the tree comes first.
  induction site generalizing room with
  | list before after =>
    cases room with
    | zero =>
      exact .inl fun entries ps hne _ => yields_zero (by simp [Site.withEntries, Site.fill, hne])
    | succ room =>
      obtain ⟨bs?, hbefore⟩ := exists_yields maxDepth (room + 1) before
      obtain ⟨as?, hafter⟩ := exists_yields maxDepth (room + 1) after
      cases bs? with
      | none => exact .inl fun entries ps _ h => hbefore.between (h room) hafter
      | some bs =>
        cases as? with
        | none => exact .inl fun entries ps _ h => hbefore.between (h room) hafter
        | some as => exact .inr ⟨.list bs as, fun entries ps h => hbefore.between (h room) hafter⟩
  | inside before members inner after ih =>
    obtain ⟨hkind, hfields, hinner⟩ := hopen
    cases room with
    | zero => exact .inl fun entries ps _ _ => yields_zero (by simp [Site.withEntries, Site.fill])
    | succ room =>
      obtain ⟨bs?, hbefore⟩ := exists_yields maxDepth (room + 1) before
      obtain ⟨as?, hafter⟩ := exists_yields maxDepth (room + 1) after
      obtain ⟨label, hgroup⟩ := @exists_yields_group maxDepth members hkind hfields
      have hbetween {entries : List Json.Value} {ps? : Option (List Predicate)}
          (h : Yields maxDepth room (inner.withEntries entries) ps?) :
          Yields maxDepth (room + 1) ((Site.inside before members inner after).withEntries entries)
            (bs?.bind fun bs => (ps?.map fun ps => [Predicate.group label.1 label.2 ps]).bind
              fun ps => as?.map (bs ++ ps ++ ·)) := by
        have hall := hbefore.between (hgroup room _ ps? h) hafter
        rwa [List.append_assoc] at hall
      rcases ih hinner room with hdeep | ⟨tree, htree⟩
      · refine .inl fun entries ps hne h => ?_
        have hall := hbetween (hdeep entries ps hne h)
        cases bs? <;> exact hall
      · cases bs? with
        | none => exact .inl fun entries ps _ h => hbetween (htree entries ps h)
        | some bs =>
          cases as? with
          | none => exact .inl fun entries ps _ h => hbetween (htree entries ps h)
          | some as =>
            refine .inr ⟨.inside bs label tree as, fun entries ps h => ?_⟩
            have hall := hbetween (htree entries ps h)
            rw [Site.withPredicates, Site.fill, ← List.singleton_append, ← List.append_assoc]
            exact hall

/-- Lenient reading of a filter gives what its entries give. -/
theorem Yields.readPredicates {value : Json.Value} {entries : List Json.Value}
    {ps? : Option (List Predicate)} (h : Yields maxDepth maxDepth entries ps?)
    (hvalue : HasEntries value entries) : (Filter.readPredicates ⟨maxDepth, false⟩ value).result =
      ps?.elim (.error (.tooDeep maxDepth)) .ok := by
  cases hvalue with
  | list => exact h (fun i => Path.root.push (.entry i)) 0
  | single members =>
    have hentry := h (fun _ => Path.root) 0
    rwa [Report.result_each_singleton] at hentry

/-- A site of a filter belongs to a site of the tree that lenient work reads from it, or the filter
nests too deep. -/
theorem exists_site {site : Site Json.Value Members} (hopen : site.IsOpen) (maxDepth : Nat) :
    (∀ value entries ps, HasEntries value (site.withEntries entries) → entries ≠ [] →
        StandFor maxDepth entries ps →
          (readPredicates ⟨maxDepth, false⟩ value).result = .error (.tooDeep maxDepth)) ∨
      ∃ tree : Site Predicate (Connective × Bool), ∀ value entries ps,
        HasEntries value (site.withEntries entries) → StandFor maxDepth entries ps →
          (readPredicates ⟨maxDepth, false⟩ value).result = .ok (tree.withPredicates ps) := by
  rcases exists_yields_withEntries hopen maxDepth maxDepth with hdeep | ⟨tree, htree⟩
  · exact .inl fun value entries ps hvalue hne h => (hdeep entries ps hne h).readPredicates hvalue
  · exact .inr ⟨tree, fun value entries ps hvalue h => (htree entries ps h).readPredicates hvalue⟩

end Sites

/-! ## Where predicates come from -/

section Provenance

variable {options : Options} {value : Json.Value} {p : Predicate}

/-- The entry stands in the filter, among its entries or in the conditions of groups that are
read. -/
def StandsIn (value entry : Json.Value) : Prop :=
  ∃ site : Site Json.Value Members, site.IsOpen ∧ HasEntries value (site.withEntries [entry])

/-- A result for a list has parts, and each of them is the result for one of the elements. -/
theorem Report.exists_of_mem_each {α β : Type} {f : Nat → α → Report (List β)} {start : Nat}
    {l : List α} {bs : List β} (h : ((each f start l).map List.flatten).result = .ok bs) {b : β}
    (hb : b ∈ bs) : ∃ before a after i cs, l = before ++ a :: after ∧
      (f i a).result = .ok cs ∧ b ∈ cs := by
  induction l generalizing start bs with
  | nil =>
    cases h
    cases hb
  | cons a rest ih =>
    rw [map_flatten_each_cons, andThen] at h
    cases ha : (f start a).result with
    | error e =>
      rw [ha] at h
      cases h
    | ok cs =>
      rw [ha] at h
      obtain ⟨ds, hds, rfl⟩ := exists_of_map_eq_ok h
      rcases List.mem_append.1 hb with hb | hb
      · exact ⟨[], a, rest, start, cs, rfl, ha, hb⟩
      · obtain ⟨before, c, after, i, es, rfl, hes, hmem⟩ := ih hds hb
        exact ⟨a :: before, c, after, i, es, rfl, hes, hmem⟩

/-- An entry that gives a predicate has not been dropped. -/
theorem readEntry_of_mem_guardedEntry {room : Nat} {path : Path} {entry : Json.Value}
    {ps : List Predicate} (h : (guardedEntry options room path entry).result = .ok ps)
    (hp : p ∈ ps) : (readEntry options room path entry).result = .ok ps := by
  refine (readEntry_of_guardedEntry h).resolve_right fun hdropped => ?_
  rw [hdropped.1] at hp
  cases hp

/-- A predicate that is read from a list and is no group comes from one entry at a site of it. -/
theorem exists_withEntries_of_mem_nodesOf {room : Nat} {place : Nat → Path} {start : Nat}
    {entries : List Json.Value} {ps : List Predicate}
    (h : ((Report.each (fun i entry => guardedEntry options room (place i) entry) start
      entries).map List.flatten).result = .ok ps) (hp : p ∈ nodesOf ps)
    (hleaf : p.isGroup = false) :
    ∃ (site : Site Json.Value Members) (entry : Json.Value) (qs : List Predicate),
      site.IsOpen ∧ site.withEntries [entry] = entries ∧ p ∈ qs ∧
        ∀ options room path, readEntry options (room + 1) path entry = .ok qs := by
  induction room generalizing place start entries ps with
  | zero =>
    obtain ⟨q, hq, -⟩ := exists_of_mem_nodesOf hp
    obtain ⟨before, entry, after, i, qs, rfl, hqs, hmem⟩ := Report.exists_of_mem_each h hq
    cases readEntry_of_mem_guardedEntry hqs hmem
  | succ room ih =>
    obtain ⟨q, hq, hnode⟩ := exists_of_mem_nodesOf hp
    obtain ⟨before, entry, after, i, qs, rfl, hqs, hmem⟩ := Report.exists_of_mem_each h hq
    have hok := readEntry_of_mem_guardedEntry hqs hmem
    cases reading entry with
    | refused _ _ hread =>
      obtain ⟨e, -, hfail⟩ := hread (place i)
      rw [hfail options room] at hok
      cases hok
    | leaves leaves _ hread hgroup _ =>
      rw [hread options room (place i)] at hok
      cases hok
      refine ⟨.list before after, entry, qs, trivial, by simp [Site.withEntries, Site.fill], ?_,
        hread⟩
      rwa [eq_of_mem_nodes_of_leaf (hgroup q hmem) hnode]
    | @group members connective negated conditions hobject hkind hconditions hwidth hread =>
      rw [hread options room (place i)] at hok
      obtain ⟨more, hmore, rfl⟩ := exists_of_map_eq_ok hok
      obtain rfl := List.mem_singleton.1 hmem
      rw [Predicate.nodes] at hnode
      rcases List.mem_cons.1 hnode with rfl | hnode
      · cases hleaf
      · -- The node is below a condition, so its site among the conditions is put into this entry.
        obtain ⟨inner, child, qs, hopen, hfill, hchild⟩ := ih hmore hnode
        refine ⟨.inside before members inner after, child, qs,
          ⟨hkind, fieldsRead_of_width hkind (hobject ▸ hwidth), hopen⟩, ?_, hchild⟩
        have hself : withConditions members (inner.withEntries [child]) = entry := by
          rw [hfill, withConditions_self hconditions, hobject]
        rw [Site.withEntries, Site.fill, ← Site.withEntries, hself]

/-- A predicate of a tree that was read comes from an entry of the filter, unless it is a group. -/
theorem exists_standsIn_of_mem_nodesOf {ps : List Predicate}
    (h : (readPredicates options value).result = .ok ps) (hp : p ∈ nodesOf ps)
    (hleaf : p.isGroup = false) : ∃ entry qs, StandsIn value entry ∧ p ∈ qs ∧
      ∀ options room path, readEntry options (room + 1) path entry = .ok qs := by
  suffices ∃ (entries : List Json.Value) (place : Nat → Path), HasEntries value entries ∧
      ((Report.each (fun i entry => guardedEntry options options.maxDepth (place i) entry) 0
        entries).map List.flatten).result = .ok ps by
    obtain ⟨entries, place, hvalue, hentries⟩ := this
    obtain ⟨site, entry, qs, hopen, rfl, hqs⟩ :=
      exists_withEntries_of_mem_nodesOf hentries hp hleaf
    exact ⟨entry, qs, ⟨site, hopen, hvalue⟩, hqs⟩
  cases value with
  | null =>
    cases h
    cases hp
  | array entries => exact ⟨entries, fun i => Path.root.push (.entry i), .list entries, h⟩
  | object members =>
    refine ⟨_, fun _ => Path.root, .single members, ?_⟩
    rw [Report.result_each_singleton]
    exact h
  | bool _ | number _ | string _ => cases h

end Provenance

end SearchIndex.Filter
