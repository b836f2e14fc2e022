import Mathlib.Data.List.Forall2
import SearchIndex.Json.Value

/-!
# Members of objects

What setting members does to an object: to what is found in it, to its names, and to the members
under other names.

An object that is written by hand has its members in any order, and some of them under one of several
names. It is described by its parts (`Part`): a value, and the names under one of which it stands.
What a look-up gives is settled by the part that the object has for it (`Members.Has`) or by there
being none (`Members.Lacks`).
-/

namespace SearchIndex.Json

namespace Members

/-! ## Names -/

section Names

variable {members more : Members} {name : String} {value : Value}

/-- The names of an object are those under which something is found. -/
theorem mem_names_iff : name ∈ members.names ↔ (members.get? name).isSome := by
  induction members with
  | nil => exact ⟨nofun, nofun⟩
  | cons m rest ih =>
    rw [get?_cons, names, List.map_cons, List.mem_cons]
    split
    · next h => exact ⟨fun _ => rfl, fun _ => .inl h⟩
    · next h => exact ⟨fun hmem => ih.1 (hmem.resolve_left h), fun hsome => .inr (ih.2 hsome)⟩

/-- A member whose name is not repeated is found under it. -/
theorem get?_of_mem (h : members.names.Nodup) {m : String × Value} (hm : m ∈ members) :
    members.get? m.1 = some m.2 := by
  induction members with
  | nil => cases hm
  | cons first rest ih =>
    obtain ⟨hfirst, hrest⟩ := List.nodup_cons.1 h
    rw [get?_cons]
    rcases List.mem_cons.1 hm with rfl | hm
    · rw [if_pos rfl]
    · have hne : m.1 ≠ first.1 := fun heq => hfirst (heq ▸ List.mem_map_of_mem hm)
      rw [if_neg hne, ih hrest hm]

/-- Setting a member does not repeat a name. -/
theorem nodup_names_set (h : members.names.Nodup) (name : String) (value : Value) :
    (members.set name value).names.Nodup := by
  rw [names_set]
  split
  · exact h
  · next hname =>
    refine List.nodup_append.2 ⟨h, List.pairwise_singleton _ name, ?_⟩
    rintro other hother _ hmem rfl
    exact hname (List.mem_singleton.1 hmem ▸ hother)

/-- However many members are set, no name stands twice. -/
theorem nodup_names_setAll (h : members.names.Nodup) : (members.setAll more).names.Nodup := by
  induction more generalizing members with
  | nil => exact h
  | cons m rest ih => exact ih (nodup_names_set h m.1 m.2)

/-- Setting a member leaves the names in their places. -/
theorem names_prefix_set (members : Members) (name : String) (value : Value) :
    members.names <+: (members.set name value).names := by
  rw [names_set]
  split
  · exact List.prefix_refl _
  · exact List.prefix_append _ _

/-- The names that an object has stay in front of those that are added. -/
theorem names_prefix_setAll (members more : Members) :
    members.names <+: (members.setAll more).names := by
  induction more generalizing members with
  | nil => exact List.prefix_refl _
  | cons m rest ih => exact (names_prefix_set members m.1 m.2).trans (ih _)

/-! ## Setting members -/

theorem setAll_append (members more others : Members) :
    members.setAll (more ++ others) = (members.setAll more).setAll others :=
  List.foldl_append

/-- What is set under other names does not change the value under a name. -/
theorem get?_setAll_of_not_mem (h : name ∉ more.names) (members : Members) :
    (members.setAll more).get? name = members.get? name := by
  induction more generalizing members with
  | nil => rfl
  | cons m rest ih =>
    simp only [names, List.map_cons, List.mem_cons, not_or] at h
    rw [setAll, List.foldl_cons, ← setAll, ih h.2, get?_set_ne members m.2 h.1]

/-- Setting the members of an object, its own are found, and else those that were there. -/
theorem get?_setAll (h : more.names.Nodup) (members : Members) (name : String) :
    (members.setAll more).get? name = (more.get? name).or (members.get? name) := by
  induction more generalizing members with
  | nil => rfl
  | cons m rest ih =>
    obtain ⟨hm, hrest⟩ := List.nodup_cons.1 h
    rw [setAll, List.foldl_cons, ← setAll, get?_cons]
    split
    · next hname =>
      subst hname
      rw [get?_setAll_of_not_mem hm, get?_set_self, Option.some_or]
    · next hname => rw [ih hrest, get?_set_ne members m.2 hname]

/-- Setting a member to the value it has changes nothing. -/
theorem set_of_get? (h : members.get? name = some value) : members.set name value = members := by
  induction members with
  | nil => cases h
  | cons m rest ih =>
    rw [get?_cons] at h
    rw [set]
    split at h
    · next hname =>
      rw [if_pos hname.symm, ← Option.some.inj h]
    · next hname => rw [if_neg (Ne.symm hname), ih h]

/-- A member that is set has its place among others that do not depend on its value. -/
theorem exists_set_eq (members : Members) (name : String) :
    ∃ before after, ∀ value, members.set name value = before ++ (name, value) :: after := by
  induction members with
  | nil => exact ⟨[], [], fun value => rfl⟩
  | cons m rest ih =>
    by_cases hname : m.1 = name
    · exact ⟨[], rest, fun value => by rw [set, if_pos hname, hname, List.nil_append]⟩
    · obtain ⟨before, after, hset⟩ := ih
      exact ⟨m :: before, after, fun value => by rw [set, if_neg hname, hset, List.cons_append]⟩

/-- The members under other names. -/
def without (name : String) (members : Members) : Members :=
  members.filter fun m => m.1 != name

/-- Setting a member leaves those under other names as they are, and in their order. -/
theorem without_set (members : Members) (name : String) (value : Value) :
    (members.set name value).without name = members.without name := by
  induction members with
  | nil => simp [set, without]
  | cons m rest ih =>
    rw [set]
    split
    · next hname => simp [without, hname]
    · simp only [without, List.filter_cons] at ih ⊢
      rw [ih]

end Names

end Members

/-! ## Parts -/

/-- A value in an object, the name under which it stands there, and others that do as well. -/
structure Part where
  name : String
  others : List String
  value : Value

/-- The names under one of which the part stands. -/
def Part.names (part : Part) : List String :=
  part.name :: part.others

namespace Members

/-- The object has each of the parts under one of its names, in any order, and nothing else. -/
def Writes (parts : List Part) (members : Members) : Prop :=
  ∃ ordered : Members, members.Perm ordered ∧
    List.Forall₂ (fun part m => m.1 ∈ part.names ∧ m.2 = part.value) parts ordered

/-- The object has the value under one of the names, and nothing under the other ones. -/
def Has (members : Members) (names : List String) (value : Value) : Prop :=
  ∃ name ∈ names, (name, value) ∈ members ∧ ∀ m ∈ members, m.1 ∈ names → m = (name, value)

/-- The object has nothing under the names. -/
def Lacks (members : Members) (names : List String) : Prop :=
  ∀ m ∈ members, m.1 ∉ names

/-- No name is a name of two parts. -/
def Separate (parts : List Part) : Prop :=
  parts.Pairwise fun a b => List.Disjoint a.names b.names

section Parts

variable {members : Members} {parts : List Part} {name : String} {names : List String}
  {value : Value}

/-- Parts can be written, each under its first name. -/
theorem exists_writes (parts : List Part) : ∃ members, Writes parts members := by
  refine ⟨parts.map fun part => (part.name, part.value), _, .refl _, ?_⟩
  exact List.forall₂_map_right_iff.2 (List.forall₂_same.2 fun part _ => ⟨List.mem_cons_self, rfl⟩)

/-- Each member was written for some part. -/
theorem Writes.exists_part (h : Writes parts members) {m : String × Value} (hm : m ∈ members) :
    ∃ part ∈ parts, m.1 ∈ part.names := by
  obtain ⟨ordered, hperm, hordered⟩ := h
  replace hm := hperm.mem_iff.1 hm
  clear hperm
  induction hordered with
  | nil => cases hm
  | cons hpart _ ih =>
    rcases List.mem_cons.1 hm with rfl | hm
    · exact ⟨_, List.mem_cons_self, hpart.1⟩
    · obtain ⟨part, hmem, hname⟩ := ih hm
      exact ⟨part, List.mem_cons_of_mem _ hmem, hname⟩

/-- An object has nothing under names that are not those of its parts. -/
theorem Writes.lacks (h : Writes parts members)
    (hnames : ∀ part ∈ parts, List.Disjoint part.names names) : members.Lacks names := by
  intro m hm hname
  obtain ⟨part, hpart, hmem⟩ := h.exists_part hm
  exact hnames part hpart hmem hname

/-- An object has each of its parts. -/
theorem Writes.has (h : Writes parts members) (hseparate : Separate parts) :
    ∀ part ∈ parts, members.Has part.names part.value := by
  intro part hpart
  obtain ⟨ordered, hperm, hordered⟩ := h
  suffices ∃ name ∈ part.names, (name, part.value) ∈ ordered ∧
      ∀ m ∈ ordered, m.1 ∈ part.names → m = (name, part.value) by
    simpa only [Has, hperm.mem_iff] using this
  clear hperm
  induction hordered with
  | nil => cases hpart
  | @cons first m rest ordered hfirst hrest ih =>
    obtain ⟨hdisjoint, hseparate⟩ := List.pairwise_cons.1 hseparate
    rcases List.mem_cons.1 hpart with rfl | hpart
    · refine ⟨m.1, hfirst.1, hfirst.2 ▸ List.mem_cons_self, fun m' hm' hname => ?_⟩
      rcases List.mem_cons.1 hm' with rfl | hm'
      · rw [← hfirst.2]
      · obtain ⟨other, hother, hmem⟩ :=
          Writes.exists_part ⟨ordered, .refl ordered, hrest⟩ hm'
        exact (hdisjoint other hother hname hmem).elim
    · obtain ⟨name, hname, hmem, hunique⟩ := ih hseparate hpart
      refine ⟨name, hname, List.mem_cons_of_mem m hmem,
        List.forall_mem_cons.2 ⟨fun hm => ?_, hunique⟩⟩
      exact (hdisjoint part hpart hfirst.1 hm).elim

/-! ### Look-ups -/

/-- Nothing is found under a name that is not written. -/
theorem get?_eq_none_of_lacks (h : members.Lacks [name]) : members.get? name = none := by
  induction members with
  | nil => rfl
  | cons m rest ih =>
    obtain ⟨hm, hrest⟩ := List.forall_mem_cons.1 h
    have hname : name ≠ m.1 := fun hname => hm (List.mem_singleton.2 hname.symm)
    rw [get?_cons, if_neg hname, ih hrest]

/-- A part with one name is found under it. -/
theorem get?_of_has (h : members.Has [name] value) : members.get? name = some value := by
  obtain ⟨name', hname, hmem, hunique⟩ := h
  obtain rfl := List.mem_singleton.1 hname
  induction members with
  | nil => cases hmem
  | cons m rest ih =>
    rw [get?_cons]
    split
    · next hm =>
      rw [hunique m List.mem_cons_self (List.mem_singleton.2 hm.symm)]
    · next hm =>
      refine ih ((List.mem_cons.1 hmem).resolve_left fun heq => hm ?_)
        fun m' hm' => hunique m' (List.mem_cons_of_mem m hm')
      rw [← heq]

/-- A value is found under the first name, or there is nothing and it is found under the others. -/
theorem Has.cons (h : members.Has (name :: names) value) :
    members.get? name = some value ∨
      members.get? name = none ∧ members.Has names value := by
  obtain ⟨found, hfound, hmem, hunique⟩ := h
  by_cases hname : found = name
  · subst hname
    refine .inl (get?_of_has ⟨found, List.mem_singleton_self found, hmem, fun m hm hm' => ?_⟩)
    exact hunique m hm (List.mem_cons.2 (.inl (List.mem_singleton.1 hm')))
  · refine .inr ⟨get?_eq_none_of_lacks fun m hm hm' => hname ?_, found,
      (List.mem_cons.1 hfound).resolve_left hname, hmem,
      fun m hm hm' => hunique m hm (List.mem_cons_of_mem name hm')⟩
    have heq := hunique m hm (List.mem_cons.2 (.inl (List.mem_singleton.1 hm')))
    rw [← List.mem_singleton.1 hm', heq]

/-- A part with two names is found under one of them. -/
theorem getEither?_of_has {other : String} (h : members.Has [name, other] value) :
    members.getEither? name other = some value := by
  rw [getEither?]
  rcases h.cons with hfirst | ⟨hnone, hrest⟩
  · rw [hfirst]
    rfl
  · rw [hnone]
    exact get?_of_has hrest

/-- Nothing is found under two names that are not written. -/
theorem getEither?_eq_none_of_lacks {other : String} (h : members.Lacks [name, other]) :
    members.getEither? name other = none := by
  have hname : members.get? name = none :=
    get?_eq_none_of_lacks fun m hm hm' => h m hm (List.mem_cons.2 (.inl (List.mem_singleton.1 hm')))
  have hother : members.get? other = none :=
    get?_eq_none_of_lacks fun m hm hm' => h m hm (List.mem_cons_of_mem name hm')
  rw [getEither?, hname]
  exact hother

end Parts

end Members

end SearchIndex.Json
