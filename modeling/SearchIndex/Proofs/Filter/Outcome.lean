import Mathlib.Data.List.Forall2
import SearchIndex.Filter.Report

/-!
# What reports say

Ways to speak of the reports of reading and compiling, each with one lemma for each operation
on reports.

* `Report.Gives P r`: if the report has a result, the result has the property `P`.
* `Report.Rel R r s`: both reports drop the same and fail with the same error, or have results
  that are related by `R`. It compares two runs.
* `Report.Refines r s`: what the first report gives, the second one gives with nothing dropped. It
  compares strict work with lenient work.
-/

namespace SearchIndex.Filter.Report

variable {α β γ δ : Type}

/-! ## One run -/

/-- A result of the report has the property. -/
def Gives (P : α → Prop) (r : Report α) : Prop :=
  ∀ a, r.result = .ok a → P a

section Gives

variable {P : α → Prop} {Q : β → Prop} {r : Report α}

theorem gives_ok {a : α} (h : P a) : (ok a).Gives P := by
  intro b hb
  cases hb
  exact h

theorem gives_fail (e : Error) : (fail e : Report α).Gives P := nofun

/-- A report gives what follows when its result is mapped. -/
theorem Gives.map {f : α → β} (h : r.Gives P) (hf : ∀ a, P a → Q (f a)) : (r.map f).Gives Q := by
  obtain ⟨dropped, result⟩ := r
  cases result with
  | error e => nofun
  | ok a =>
    intro b hb
    cases hb
    exact hf a (h a rfl)

/-- A report gives what follows when it goes on. -/
theorem Gives.andThen {next : α → Report β} (h : r.Gives P) (hn : ∀ a, P a → (next a).Gives Q) :
    (r.andThen next).Gives Q := by
  obtain ⟨dropped, result⟩ := r
  cases result with
  | error e => nofun
  | ok a => exact fun b hb => hn a (h a rfl) b hb

/-- What stands in for a dropped result has to have the property, too. -/
theorem Gives.orDrop {options : Options} {instead : α} (h : r.Gives P)
    (hi : ∀ e, options.strict = false → r.result = .error e → e.isLocal = true → P instead)
    (path : Path) (kind : Option String) : (r.orDrop options path kind instead).Gives P := by
  obtain ⟨dropped, result⟩ := r
  cases result with
  | ok a => exact h
  | error e =>
    simp only [Report.orDrop]
    split
    · next hdrop =>
      obtain ⟨hlenient, hlocal⟩ := Bool.and_eq_true_iff.1 hdrop
      intro a ha
      cases ha
      exact hi e (by simpa using hlenient) rfl hlocal
    · intro a ha
      cases ha

/-- Working through a list gives a result for each element. -/
theorem Gives.each {R : α → β → Prop} {f : Nat → α → Report β} {l : List α}
    (h : ∀ a ∈ l, ∀ i, (f i a).Gives (R a)) (start : Nat) :
    (each f start l).Gives (List.Forall₂ R l) := by
  induction l generalizing start with
  | nil => exact gives_ok .nil
  | cons a rest ih =>
    rw [each_cons]
    refine (h a List.mem_cons_self start).andThen fun b hb => ?_
    have hrest := ih (fun c hc => h c (List.mem_cons_of_mem a hc)) (start + 1)
    exact hrest.map fun bs hbs => .cons hb hbs

end Gives

/-- Each of the results for a list is the result for one of its elements. -/
theorem exists_of_mem_results {R : α → β → Prop} {l : List α} {bs : List β}
    (h : List.Forall₂ R l bs) {b : β} (hb : b ∈ bs) : ∃ a ∈ l, R a b := by
  induction h with
  | nil => cases hb
  | cons hab _ ih =>
    rcases List.mem_cons.1 hb with rfl | hb
    · exact ⟨_, List.mem_cons_self, hab⟩
    · obtain ⟨a, ha, hab⟩ := ih hb
      exact ⟨a, List.mem_cons_of_mem _ ha, hab⟩

/-! ## Results of a list, one after the other -/

/-- The report on a list has the results and the drops of its items in turn. -/
theorem each_cons_ok {f : Nat → α → Report β} {start : Nat} {a : α} {rest : List α} {b : β}
    {bs : List β} (hb : (f start a).result = .ok b)
    (hbs : (each f (start + 1) rest).result = .ok bs) :
    (each f start (a :: rest)).result = .ok (b :: bs) ∧
      (each f start (a :: rest)).dropped =
        (f start a).dropped ++ (each f (start + 1) rest).dropped := by
  rw [each_cons, andThen, hb]
  simp only [map, hbs, Except.map, and_self]

/-- Where each element has a list of results, those of the first one come first. -/
theorem map_flatten_each_cons (f : Nat → α → Report (List β)) (start : Nat) (a : α)
    (rest : List α) :
    (each f start (a :: rest)).map List.flatten =
      (f start a).andThen fun bs => ((each f (start + 1) rest).map List.flatten).map (bs ++ ·) := by
  rw [each_cons]
  obtain ⟨dropped, result⟩ := f start a
  cases result with
  | error e => rfl
  | ok bs =>
    simp only [andThen, map]
    cases (each f (start + 1) rest).result <;> rfl

theorem map_map (r : Report α) (f : α → β) (g : β → γ) : (r.map f).map g = r.map (g ∘ f) := by
  obtain ⟨dropped, result⟩ := r
  cases result <;> rfl

theorem map_nil_append (r : Report (List β)) : r.map ([] ++ ·) = r := by
  obtain ⟨dropped, result⟩ := r
  cases result <;> rfl

/-! ## Errors -/

/-- Lenient work drops what has an error of its own. -/
theorem isLocal_eq_false_of_orDrop {r : Report α} {options : Options} {path : Path}
    {kind : Option String} {instead : α} {e : Error} (hlenient : options.strict = false)
    (h : (r.orDrop options path kind instead).result = .error e) : e.isLocal = false := by
  obtain ⟨dropped, result⟩ := r
  cases result with
  | ok a => cases h
  | error e' =>
    simp only [orDrop, hlenient, Bool.not_false, Bool.true_and] at h
    split at h
    · cases h
    · next hlocal =>
      cases h
      exact Bool.eq_false_iff.2 hlocal

/-- The error for a list is the error for one of its elements. -/
theorem exists_of_each_error {f : Nat → α → Report β} {start : Nat} {l : List α} {e : Error}
    (h : (each f start l).result = .error e) : ∃ a ∈ l, ∃ i, (f i a).result = .error e := by
  induction l generalizing start with
  | nil => cases h
  | cons a rest ih =>
    rw [each_cons] at h
    cases ha : (f start a).result with
    | error e' =>
      simp only [andThen, ha] at h
      cases h
      exact ⟨a, List.mem_cons_self, start, ha⟩
    | ok b =>
      simp only [andThen, ha, map] at h
      cases hrest : (each f (start + 1) rest).result with
      | ok bs =>
        rw [hrest] at h
        cases h
      | error e' =>
        rw [hrest] at h
        cases h
        obtain ⟨c, hc, i, hi⟩ := ih hrest
        exact ⟨c, List.mem_cons_of_mem a hc, i, hi⟩

/-! ## Two runs -/

/-- The reports agree in what they drop and in their errors, and their results are related. -/
inductive Rel (R : α → β → Prop) : Report α → Report β → Prop
  | ok (dropped : List Dropped) {a : α} {b : β} (h : R a b) :
      Rel R ⟨dropped, .ok a⟩ ⟨dropped, .ok b⟩
  | error (dropped : List Dropped) (e : Error) : Rel R ⟨dropped, .error e⟩ ⟨dropped, .error e⟩

section Rel

variable {R : α → β → Prop} {S : γ → δ → Prop} {r : Report α} {s : Report β}

/-- The results of related reports. -/
theorem Rel.result (h : Rel R r s) : (∃ e, r.result = .error e ∧ s.result = .error e) ∨
    ∃ a b, r.result = .ok a ∧ s.result = .ok b ∧ R a b := by
  cases h with
  | ok dropped h => exact .inr ⟨_, _, rfl, rfl, h⟩
  | error dropped e => exact .inl ⟨e, rfl, rfl⟩

/-- Reports with related results stay related when the results are mapped in related ways. -/
theorem Rel.map {f : α → γ} {g : β → δ} (h : Rel R r s) (hfg : ∀ a b, R a b → S (f a) (g b)) :
    Rel S (r.map f) (s.map g) := by
  cases h with
  | ok dropped h => exact .ok dropped (hfg _ _ h)
  | error dropped e => exact .error dropped e

theorem Rel.andThen {next : α → Report γ} {next' : β → Report δ} (h : Rel R r s)
    (hn : ∀ a b, R a b → Rel S (next a) (next' b)) : Rel S (r.andThen next) (s.andThen next') := by
  cases h with
  | error dropped e => exact .error dropped e
  | @ok dropped a b h =>
    have hnext := hn a b h
    simp only [Report.andThen]
    generalize next a = t, next' b = u at hnext ⊢
    cases hnext with
    | ok more h => exact .ok (dropped ++ more) h
    | error more e => exact .error (dropped ++ more) e

theorem Rel.orDrop {instead : α} {instead' : β} (h : Rel R r s) (hi : R instead instead')
    (options : Options) (path : Path) (kind : Option String) :
    Rel R (r.orDrop options path kind instead) (s.orDrop options path kind instead') := by
  cases h with
  | ok dropped h => exact .ok dropped h
  | error dropped e =>
    simp only [Report.orDrop]
    split
    · exact .ok _ hi
    · exact .error dropped e

/-- Working through related lists step by step gives related lists. -/
theorem Rel.each {A : γ → δ → Prop} {f : Nat → γ → Report α} {g : Nat → δ → Report β}
    {l : List γ} {m : List δ} (hlm : List.Forall₂ A l m)
    (h : ∀ i, ∀ c ∈ l, ∀ d ∈ m, A c d → Rel R (f i c) (g i d)) (start : Nat) :
    Rel (List.Forall₂ R) (each f start l) (each g start m) := by
  induction hlm generalizing start with
  | nil => exact .ok [] .nil
  | cons hcd _ ih =>
    rw [each_cons, each_cons]
    refine (h start _ List.mem_cons_self _ List.mem_cons_self hcd).andThen fun a b hab => ?_
    refine (ih (fun i c hc d hd => ?_) (start + 1)).map fun as bs hbs => .cons hab hbs
    exact h i c (List.mem_cons_of_mem _ hc) d (List.mem_cons_of_mem _ hd)

end Rel

/-! ## Runs without errors -/

/-- What the first report gives, the second one gives with nothing dropped. -/
def Refines (r s : Report α) : Prop :=
  ∀ a, r.result = .ok a → s = .ok a

section Refines

variable {r s : Report α}

theorem refines_ok (a : α) : Refines (ok a) (ok a) := by
  intro b hb
  cases hb
  rfl

theorem refines_fail (e : Error) (s : Report α) : Refines (fail e) s := nofun

/-- A mapped report refines what is mapped from the report that it refines. -/
theorem Refines.map (h : Refines r s) (f : α → β) : Refines (r.map f) (s.map f) := by
  intro b hb
  cases hr : r.result with
  | error e =>
    simp only [Report.map, hr] at hb
    cases hb
  | ok a =>
    simp only [Report.map, hr] at hb
    cases hb
    rw [h a hr]
    rfl

/-- A report that goes on refines what goes on from the report that it refines. -/
theorem Refines.andThen {next next' : α → Report β} (h : Refines r s)
    (hn : ∀ a, Refines (next a) (next' a)) : Refines (r.andThen next) (s.andThen next') := by
  intro b hb
  cases hr : r.result with
  | error e =>
    simp only [Report.andThen, hr] at hb
    cases hb
  | ok a =>
    simp only [Report.andThen, hr] at hb
    rw [h a hr, ok_andThen]
    exact hn a b hb

/-- Strict work drops nothing, and lenient work only what has an error. -/
theorem Refines.orDrop (h : Refines r s) {options : Options} (hstrict : options.strict = true)
    (options' : Options) (path : Path) (kind : Option String) (instead : α) :
    Refines (r.orDrop options path kind instead) (s.orDrop options' path kind instead) := by
  rw [orDrop_of_strict hstrict]
  intro a ha
  rw [h a ha]
  rfl

/-- The report on a list refines another one if the reports on its items do. -/
theorem Refines.each {f g : Nat → α → Report β} {l : List α}
    (h : ∀ a ∈ l, ∀ i, Refines (f i a) (g i a)) (start : Nat) :
    Refines (each f start l) (each g start l) := by
  induction l generalizing start with
  | nil => exact refines_ok []
  | cons a rest ih =>
    rw [each_cons, each_cons]
    refine (h a List.mem_cons_self start).andThen fun b => ?_
    exact (ih (fun c hc => h c (List.mem_cons_of_mem a hc)) (start + 1)).map (b :: ·)

end Refines

end SearchIndex.Filter.Report
