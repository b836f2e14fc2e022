import SearchIndex.Json.Number

/-!
# JSON values

An object keeps its members in the order in which their names first appeared; a name written again
keeps its place and takes the new value.
-/

namespace SearchIndex.Json

/-- A JSON value. -/
inductive Value where
  | null
  | bool (value : Bool)
  | number (value : Number)
  | string (value : String)
  | array (items : List Value)
  | object (members : List (String × Value))

/-- The members of an object, in order. -/
abbrev Members := List (String × Value)

/-- The name of a value's type. -/
def Value.typeName : Value → String
  | .null => "null"
  | .bool _ => "boolean"
  | .number _ => "number"
  | .string _ => "string"
  | .array _ => "array"
  | .object _ => "object"

/-! ## Members -/

namespace Members

/-- The names in order. -/
def names (members : Members) : List String :=
  members.map Prod.fst

/-- The value under a name. -/
def get? (members : Members) (name : String) : Option Value :=
  members.lookup name

/-- The value under the first of two names that is there. -/
def getEither? (members : Members) (name other : String) : Option Value :=
  (members.get? name).orElse fun _ => members.get? other

/-- Sets the value under a name, in its old place if the name is there and at the end if not. -/
def set (name : String) (value : Value) : Members → Members
  | [] => [(name, value)]
  | (n, v) :: rest => if n = name then (n, value) :: rest else (n, v) :: set name value rest

/-- Sets all members of `more`, one after the other. -/
def setAll (members more : Members) : Members :=
  more.foldl (fun all m => set m.1 m.2 all) members

theorem get?_cons (name : String) (m : String × Value) (rest : Members) :
    get? (m :: rest) name = if name = m.1 then some m.2 else get? rest name := by
  obtain ⟨n, v⟩ := m
  by_cases h : name = n
  · subst h
    simp only [get?, List.lookup_cons_self, if_true]
  · have h' : (name == n) = false := beq_eq_false_iff_ne.mpr h
    simp only [get?, List.lookup_cons, h', h, if_false]

/-- A member that is set is found. -/
@[simp] theorem get?_set_self (members : Members) (name : String) (value : Value) :
    (members.set name value).get? name = some value := by
  induction members with
  | nil => simp only [set, get?_cons, if_true]
  | cons m rest ih =>
    obtain ⟨n, v⟩ := m
    by_cases h : n = name
    · simp only [set, h, if_true, get?_cons]
    · simp only [set, h, if_false, get?_cons, Ne.symm h, ih]

/-- A member that is set changes nothing under other names. -/
@[simp] theorem get?_set_ne {name other : String} (members : Members) (value : Value)
    (h : other ≠ name) : (members.set name value).get? other = members.get? other := by
  induction members with
  | nil => simp only [set, get?_cons, h, if_false]
  | cons m rest ih =>
    obtain ⟨n, v⟩ := m
    by_cases hn : n = name
    · subst hn
      simp only [set, if_true, get?_cons, h, if_false]
    · simp only [set, hn, if_false, get?_cons, ih]

/-- Setting a name that is there keeps the names; a new one is put at the end. -/
theorem names_set (members : Members) (name : String) (value : Value) :
    (members.set name value).names =
      if name ∈ members.names then members.names else members.names ++ [name] := by
  induction members with
  | nil => rfl
  | cons m rest ih =>
    obtain ⟨n, v⟩ := m
    simp only [names] at ih
    by_cases hn : n = name
    · subst hn
      simp only [set, if_true, names, List.map_cons, List.mem_cons, true_or, if_true]
    · by_cases hm : name ∈ rest.map Prod.fst
      · simp only [set, hn, if_false, names, List.map_cons, ih, List.mem_cons, hm, or_true, if_true]
      · simp only [set, hn, if_false, names, List.map_cons, ih, List.mem_cons, hm, Ne.symm hn,
          or_false, List.cons_append]

end Members

/-! ## Parts of a value -/

namespace Value

/-- The value under a name, if this is an object that has it. -/
def member? (value : Value) (name : String) : Option Value :=
  match value with
  | .object members => Members.get? members name
  | _ => none

end Value

end SearchIndex.Json
