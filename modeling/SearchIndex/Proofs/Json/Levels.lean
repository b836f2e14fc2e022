import SearchIndex.Proofs.Json.Grammar

/-!
# Levels of a value

How many arrays and objects a value nests. A text opens at least as many levels as the value that it
stands for has (`IsText.levels_le`), and more only where a name is written again.
-/

namespace SearchIndex.Json

mutual

/-- How many levels of arrays and objects a value nests. -/
def Value.levels : Value → Nat
  | .array items => levelsOfItems items + 1
  | .object members => levelsOfMembers members + 1
  | _ => 0

/-- How many levels the deepest of some values nests. -/
def levelsOfItems : List Value → Nat
  | [] => 0
  | v :: rest => max v.levels (levelsOfItems rest)

/-- How many levels the deepest value of some members nests. -/
def levelsOfMembers : List (String × Value) → Nat
  | [] => 0
  | (_, v) :: rest => max v.levels (levelsOfMembers rest)

end

section Levels

variable {v : Value}

/-- An item nests no more levels than the items together. -/
theorem levels_le_of_mem {items : List Value} (h : v ∈ items) : v.levels ≤ levelsOfItems items := by
  induction items with
  | nil => cases h
  | cons w rest ih =>
    rw [levelsOfItems]
    rcases List.mem_cons.1 h with rfl | h
    · exact Nat.le_max_left _ _
    · exact Nat.le_trans (ih h) (Nat.le_max_right _ _)

/-- A member nests no more levels than the members together. -/
theorem levels_le_of_get? {members : Members} {name : String} (h : members.get? name = some v) :
    v.levels ≤ levelsOfMembers members := by
  induction members with
  | nil => cases h
  | cons m rest ih =>
    obtain ⟨n, w⟩ := m
    rw [levelsOfMembers]
    rw [Members.get?_cons] at h
    split at h
    · cases h
      exact Nat.le_max_left _ _
    · exact Nat.le_trans (ih h) (Nat.le_max_right _ _)

/-- A member that is set adds no levels but its own. -/
theorem levelsOfMembers_set_le (members : Members) (name : String) (v : Value) :
    levelsOfMembers (members.set name v) ≤ max (levelsOfMembers members) v.levels := by
  induction members with
  | nil =>
    simp only [Members.set, levelsOfMembers]
    omega
  | cons m rest ih =>
    obtain ⟨n, w⟩ := m
    simp only [Members.set]
    split
    · simp only [levelsOfMembers]
      omega
    · simp only [levelsOfMembers]
      omega

/-- Members that are written again leave no more levels than there were. -/
theorem levelsOfMembers_setAll_le (members written : Members) :
    levelsOfMembers (members.setAll written) ≤
      max (levelsOfMembers members) (levelsOfMembers written) := by
  induction written generalizing members with
  | nil => exact Nat.le_max_left _ _
  | cons m rest ih =>
    obtain ⟨name, v⟩ := m
    have hset := levelsOfMembers_set_le members name v
    have hrest := ih (members.set name v)
    simp only [Members.setAll, List.foldl_cons, levelsOfMembers] at hrest ⊢
    omega

/-- How many levels a part nests. -/
def Content.levels : Content → Nat
  | .value v => v.levels
  | .items vs => levelsOfItems vs
  | .members ms => levelsOfMembers ms

/-- A text opens the levels of what it stands for, or more. -/
theorem IsText.levels_le {levels : Nat} {p : Content} {text : List Char}
    (h : IsText levels p text) : p.levels ≤ levels := by
  induction h with
  | null | yes | no | number _ | string _ | no_items _ | no_members _ => exact Nat.zero_le _
  | array _ ih => exact Nat.succ_le_succ ih
  | @object levels written row _ ih =>
    have hset := levelsOfMembers_setAll_le [] written
    simp only [Content.levels, Value.levels, levelsOfMembers] at ih hset ⊢
    omega
  | space_before _ _ ih | space_after _ _ ih => exact ih
  | item _ ih =>
    simp only [Content.levels, levelsOfItems] at ih ⊢
    omega
  | items _ _ ih ihrest =>
    simp only [Content.levels, levelsOfItems] at ih ihrest ⊢
    omega
  | member _ _ ih =>
    simp only [Content.levels, levelsOfMembers] at ih ⊢
    omega
  | members _ _ _ ih ihrest =>
    simp only [Content.levels, levelsOfMembers] at ih ihrest ⊢
    omega

end Levels

end SearchIndex.Json
