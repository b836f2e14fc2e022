import SearchIndex.Filter.Error

/-!
# Results with dropped predicates

Reading and compiling a filter give a result or an error, and in either case the predicates that
were dropped before, in order.
-/

namespace SearchIndex.Filter

/-- How a filter is read and compiled. -/
structure Options where
  /-- How many levels of predicates a filter may have. -/
  maxDepth : Nat := 32
  /-- A predicate with an error of its own stops the work; otherwise it is dropped. -/
  strict : Bool := true
deriving DecidableEq, Repr

/-- A predicate that was left out, and why. The kind is known once the predicate was read. -/
structure Dropped where
  path : Path
  kind : Option String
  error : Error

/-- A result or an error, and what was dropped on the way. -/
structure Report (α : Type) where
  dropped : List Dropped
  result : Except Error α

namespace Report

variable {α β : Type}

/-- A result with nothing dropped. -/
def ok (a : α) : Report α := ⟨[], .ok a⟩

/-- An error with nothing dropped. -/
def fail (e : Error) : Report α := ⟨[], .error e⟩

/-- Goes on with the result; an error ends the work. -/
def andThen (r : Report α) (next : α → Report β) : Report β :=
  match r.result with
  | .error e => ⟨r.dropped, .error e⟩
  | .ok a => ⟨r.dropped ++ (next a).dropped, (next a).result⟩

/-- Applies a function to the result. -/
def map (f : α → β) (r : Report α) : Report β :=
  ⟨r.dropped, r.result.map f⟩

/-- In lenient work, replaces a predicate's own error by a result and notes the drop. -/
def orDrop (r : Report α) (options : Options) (path : Path) (kind : Option String)
    (instead : α) : Report α :=
  match r.result with
  | .ok _ => r
  | .error e =>
    if !options.strict && e.isLocal then ⟨r.dropped ++ [⟨path, kind, e⟩], .ok instead⟩ else r

/-- Works through a list with the index of each element, from `start` on. -/
def each (f : Nat → α → Report β) : (start : Nat) → List α → Report (List β)
  | _, [] => ok []
  | start, a :: rest =>
    (f start a).andThen fun b => (each f (start + 1) rest).map (b :: ·)

@[simp] theorem ok_andThen (a : α) (next : α → Report β) : (ok a).andThen next = next a := rfl

@[simp] theorem fail_andThen (e : Error) (next : α → Report β) :
    (fail e : Report α).andThen next = fail e := rfl

/-- The results of a list are that of its first item and those of the others, one number on. -/
theorem each_cons (f : Nat → α → Report β) (start : Nat) (a : α) (rest : List α) :
    each f start (a :: rest) =
      (f start a).andThen fun b => (each f (start + 1) rest).map (b :: ·) := rfl

/-- A strict report is not changed. -/
theorem orDrop_of_strict {r : Report α} {options : Options} (h : options.strict = true)
    (path : Path) (kind : Option String) (instead : α) : r.orDrop options path kind instead = r := by
  obtain ⟨dropped, result⟩ := r
  cases result with
  | error e => simp only [orDrop, h, Bool.not_true, Bool.false_and, Bool.false_eq_true, if_false]
  | ok a => rfl

end Report

end SearchIndex.Filter
