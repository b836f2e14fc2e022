import SearchIndex.Filter.Predicate
import SearchIndex.Filter.RawText
import SearchIndex.Proofs.Text.Parts

/-!
# Trees of predicates

A predicate and all that are nested in it, at any depth, are the nodes of a tree. What the caller
gives of a node beside its values: the column, and the text of a raw predicate or a fragment. A
column that is an identifier of the grammar has no reserved word among its parts.
-/

namespace SearchIndex.Filter

/-- The scalar is null. -/
def Scalar.isNull : Scalar → Bool
  | .null => true
  | _ => false

/-! ## Nodes -/

namespace Predicate

mutual

/-- The predicate and all that are nested in it. -/
def nodes : Predicate → List Predicate
  | .group connective negated conditions =>
    .group connective negated conditions :: nodesOf conditions
  | leaf => [leaf]

/-- The predicates of a list and all that are nested in them. -/
def nodesOf : List Predicate → List Predicate
  | [] => []
  | p :: rest => nodes p ++ nodesOf rest

end

/-- The predicate is a group. -/
def isGroup : Predicate → Bool
  | .group .. => true
  | _ => false

/-- The column of the predicate, if it has one. -/
def column? : Predicate → Option String
  | .basic column _ _ | .pattern column _ _ | .isNull column | .isNotNull column
  | .isIn column _ | .isNotIn column _ | .boolean column _ => some column
  | .raw _ | .group .. | .fragment _ => none

/-- The text that the caller wrote for the predicate, if there is one. -/
def callerText? : Predicate → Option String
  | .raw text | .fragment text => some text
  | _ => none

/-- The members of a membership test. -/
def members : Predicate → List Scalar
  | .isIn _ members | .isNotIn _ members => members
  | _ => []

/-- A predicate is a node of its tree. -/
theorem self_mem_nodes (p : Predicate) : p ∈ p.nodes := by
  cases p <;> simp [nodes]

/-- The nodes of a predicate in a list are nodes of the list. -/
theorem nodes_subset_nodesOf {p : Predicate} {ps : List Predicate} (h : p ∈ ps) :
    p.nodes ⊆ nodesOf ps := by
  induction ps with
  | nil => cases h
  | cons q rest ih =>
    rw [nodesOf]
    rcases List.mem_cons.1 h with rfl | h
    · exact List.subset_append_left _ _
    · exact fun _ hn => List.mem_append_right _ (ih h hn)

theorem nodesOf_append (ps qs : List Predicate) :
    nodesOf (ps ++ qs) = nodesOf ps ++ nodesOf qs := by
  induction ps with
  | nil => rfl
  | cons p rest ih => rw [List.cons_append, nodesOf, nodesOf, ih, List.append_assoc]

/-- A node of a list belongs to one of its predicates. -/
theorem exists_of_mem_nodesOf {p : Predicate} {ps : List Predicate} (h : p ∈ nodesOf ps) :
    ∃ q ∈ ps, p ∈ q.nodes := by
  induction ps with
  | nil => cases h
  | cons q rest ih =>
    rw [nodesOf] at h
    rcases List.mem_append.1 h with h | h
    · exact ⟨q, List.mem_cons_self, h⟩
    · obtain ⟨r, hr, hp⟩ := ih h
      exact ⟨r, List.mem_cons_of_mem q hr, hp⟩

/-- What holds of the nodes of a list holds of those of each of its predicates, and conversely. -/
theorem forall_mem_nodesOf {ps : List Predicate} {P : Predicate → Prop} :
    (∀ q ∈ nodesOf ps, P q) ↔ ∀ p ∈ ps, ∀ q ∈ p.nodes, P q := by
  refine ⟨fun h p hp q hq => h q (nodes_subset_nodesOf hp hq), fun h q hq => ?_⟩
  obtain ⟨p, hp, hq⟩ := exists_of_mem_nodesOf hq
  exact h p hp q hq

/-- A predicate without conditions of its own is the only node of its tree. -/
theorem eq_of_mem_nodes_of_leaf {p q : Predicate} (hleaf : q.isGroup = false)
    (h : p ∈ q.nodes) : p = q := by
  cases q with
  | group connective negated conditions => cases hleaf
  | _ => exact List.mem_singleton.1 h

/-- The nodes of a condition are nodes of its group. -/
theorem nodes_subset_nodes_group {p : Predicate} {conditions : List Predicate}
    (h : p ∈ conditions) (connective : Connective) (negated : Bool) :
    p.nodes ⊆ (group connective negated conditions).nodes := by
  rw [nodes]
  exact fun _ hn => List.mem_cons_of_mem _ (nodes_subset_nodesOf h hn)

/-- What holds of all predicates without conditions and of all groups holds of every predicate. -/
@[elab_as_elim]
theorem leaf_or_group {motive : Predicate → Prop} (leaf : ∀ p, p.isGroup = false → motive p)
    (group : ∀ connective negated conditions, motive (.group connective negated conditions)) :
    ∀ p, motive p
  | .group connective negated conditions => group connective negated conditions
  | .basic .. | .pattern .. | .isNull _ | .isNotNull _ | .isIn .. | .isNotIn .. | .boolean ..
  | .raw _ | .fragment _ => leaf _ rfl

/-- Induction over a tree: a property of all nodes without conditions that goes from the conditions
of a group to the group holds of all predicates. -/
@[elab_as_elim]
theorem induction {motive : Predicate → Prop} (leaf : ∀ p, p.isGroup = false → motive p)
    (group : ∀ connective negated conditions, (∀ p ∈ conditions, motive p) →
      motive (.group connective negated conditions)) : ∀ p, motive p
  | .group connective negated conditions =>
    group connective negated conditions fun p (_ : p ∈ conditions) => induction leaf group p
  | .basic .. | .pattern .. | .isNull _ | .isNotNull _ | .isIn .. | .isNotIn .. | .boolean ..
  | .raw _ | .fragment _ => leaf _ rfl

/-- The nodes of a node are nodes. -/
theorem nodes_subset_of_mem_nodes {p q : Predicate} (h : p ∈ q.nodes) : p.nodes ⊆ q.nodes := by
  induction q using Predicate.induction with
  | leaf q hleaf =>
    rw [eq_of_mem_nodes_of_leaf hleaf h]
    exact List.Subset.refl _
  | group connective negated conditions ih =>
    rw [nodes, List.mem_cons] at h
    rcases h with rfl | h
    · exact List.Subset.refl _
    · obtain ⟨q, hq, hp⟩ := exists_of_mem_nodesOf h
      exact List.Subset.trans (ih q hq hp) (nodes_subset_nodes_group hq connective negated)

/-- The nodes of a node of a list are nodes of the list. -/
theorem nodes_subset_of_mem_nodesOf {p : Predicate} {ps : List Predicate} (h : p ∈ nodesOf ps) :
    p.nodes ⊆ nodesOf ps := by
  obtain ⟨q, hq, hp⟩ := exists_of_mem_nodesOf h
  exact List.Subset.trans (nodes_subset_of_mem_nodes hp) (nodes_subset_nodesOf hq)

end Predicate

/-! ## Identifiers -/

/-- A letter or underscore, and then letters, digits, underscores and slashes. No part between
slashes is a reserved word in any case. -/
def isIdentifier : List Char → Bool
  | [] => false
  | c :: rest =>
    RawText.startsWord c && rest.all (fun d => RawText.continuesWord d || d == '/') &&
      (Text.pieces (· == '/') (c :: rest)).all fun part =>
        !RawText.keywords.contains (String.ofList (part.map Char.toLower))

section Identifiers

variable {column : List Char}

/-- The characters of an identifier. -/
theorem continuesWord_of_mem_identifier (h : isIdentifier column = true) :
    ∀ c ∈ column, (RawText.continuesWord c || c == '/') = true := by
  cases column with
  | nil => nofun
  | cons c rest =>
    simp only [isIdentifier, Bool.and_eq_true, List.all_eq_true] at h
    refine List.forall_mem_cons.2 ⟨?_, h.1.2⟩
    have hc := h.1.1
    simp only [RawText.startsWord, RawText.continuesWord, Text.isAlphanumeric,
      Bool.or_eq_true] at hc ⊢
    exact .inl (hc.imp_left .inl)

/-- An identifier has characters of words and slashes only. -/
theorem not_mem_identifier (h : isIdentifier column = true) {c : Char}
    (hc : (RawText.continuesWord c || c == '/') = false) : c ∉ column := by
  intro hm
  rw [continuesWord_of_mem_identifier h c hm] at hc
  cases hc

theorem quote_not_mem_identifier (h : isIdentifier column = true) : '\'' ∉ column :=
  not_mem_identifier h (by decide)

/-- A part of an identifier between slashes is no reserved word. -/
theorem not_keyword_of_mem_pieces (h : isIdentifier column = true) {part : List Char}
    (hpart : part ∈ Text.pieces (· == '/') column) :
    String.ofList (part.map Char.toLower) ∉ RawText.keywords := by
  cases column with
  | nil => cases h
  | cons c rest =>
    simp only [isIdentifier, Bool.and_eq_true, List.all_eq_true] at h
    simpa using h.2 part hpart

end Identifiers

end SearchIndex.Filter
