import SearchIndex.Engine.Operations

/-!
# Errors that the engine finds by itself

An operation may fail for a reason that needs no service: a filter does not compile, or a definition
that is to be sent says nothing. Such an error comes before any call, so it leaves the service as it
was. A flush is different: it deletes the index and then creates it again, so it has deleted the
index when it finds that the configured definition says nothing (`calls_of_ownError`).

A plan is a tree of replies, and so are the properties of plans. `Plan.Ends P`: every leaf has the
property `P`. `Plan.EndsBelow P`: every leaf below a call has it. What holds of all leaves holds of
the result of every run (`Plan.Ends.run`).
-/

namespace SearchIndex.Engine

open Json (Value Members)

/-! ## Results of a plan -/

namespace Plan

variable {α β σ : Type} {P Q : α → Prop}

/-- The result has the property, whatever the replies are. -/
def Ends (P : α → Prop) : Plan α → Prop
  | .done a => P a
  | .call _ next => ∀ reply, (next reply).Ends P

/-- The result has the property if a call was made, whatever the replies are. -/
def EndsBelow (P : α → Prop) : Plan α → Prop
  | .done _ => True
  | .call _ next => ∀ reply, (next reply).Ends P

/-- What holds of every result holds of those that come after a call. -/
theorem Ends.endsBelow {p : Plan α} (h : p.Ends P) : p.EndsBelow P := by
  cases p with
  | done a => trivial
  | call c next => exact h

/-- What follows from a property of every result holds of every result. -/
theorem Ends.mono {p : Plan α} (h : p.Ends P) (hPQ : ∀ a, P a → Q a) : p.Ends Q := by
  induction p with
  | done a => exact hPQ a h
  | call c next ih =>
    intro reply
    exact ih reply (h reply)

/-- What holds whatever the replies are holds with every gateway. -/
theorem Ends.run {p : Plan α} (h : p.Ends P) (answer : σ → Call → Reply × σ) (s : σ) :
    P (run answer s p).1 := by
  induction p generalizing s with
  | done a => exact h
  | call c next ih => exact ih (answer s c).1 (h _) (answer s c).2

/-- A result without the property was found before any call. -/
theorem EndsBelow.calls_eq_nil {p : Plan α} (h : p.EndsBelow P) {answer : σ → Call → Reply × σ}
    {s : σ} (hresult : ¬ P (Plan.run answer s p).1) : calls answer s p = [] := by
  cases p with
  | done a => rfl
  | call c next =>
    refine absurd ?_ hresult
    exact Ends.run (h (answer s c).1) answer (answer s c).2

end Plan

/-! ## Errors -/

/-- The engine finds the error by itself. -/
def EngineError.isOwn : EngineError → Bool
  | .filter _ => true
  | .gateway _ => false
  | .missingSettings _ => true

/-- The error of an outcome, if it is one. -/
def Outcome.error? {α : Type} (o : Outcome α) : Option EngineError :=
  match o.result with
  | .ok _ => none
  | .error e => some e

/-- The plan up to the error in which it ends, if it ends in one. -/
def Plan.error? {α : Type} (p : Plan (Outcome α)) : Plan (Option EngineError) :=
  p.andThen fun o => .done o.error?

/-- There is no error, or the service is the reason for it. -/
def NotOwn (e? : Option EngineError) : Prop :=
  ∀ e ∈ e?, e.isOwn = false

/-! ## Operations -/

/-- An operation of the engine with its arguments. -/
inductive Operation where
  | update (records : List Record)
  | delete (records : List Record)
  | search (q : Query)
  | paginate (q : Query) (perPage page : Nat)
  | flush (name : String)
  | createIndex (name : String)
  | deleteIndex (name : String)
  | updateIndexSettings (name : String) (definition : Value)

/-- What the operation does, up to the error in which it ends. -/
def Operation.plan (settings : Settings) : Operation → Plan (Option EngineError)
  | .update records => (Engine.update records).error?
  | .delete records => (Engine.delete records).error?
  | .search q => (Engine.search settings q).error?
  | .paginate q perPage page => (Engine.paginate settings q perPage page).error?
  | .flush name => (Engine.flush settings name).error?
  | .createIndex name => (Engine.createIndex settings name).error?
  | .deleteIndex name => (Engine.deleteIndex name).error?
  | .updateIndexSettings name definition => (Engine.updateIndexSettings name definition).error?

section Operations

variable {α β : Type} {settings : Settings} {name : String}

/-- A change of the result leaves the error. -/
theorem error?_mapResult (f : α → β) (p : Plan (Outcome α)) :
    (p.mapResult f).error? = p.error? := by
  induction p with
  | done o =>
    obtain ⟨dropped, result⟩ := o
    cases result <;> rfl
  | call c next ih => exact congrArg (Plan.call c) (funext ih)

/-- A reply is the service's. -/
theorem notOwn_ofReply (reply : Reply) : NotOwn (Outcome.ofReply reply).error? := by
  intro e he
  cases reply with
  | ok v => cases he
  | error error =>
    obtain rfl := Option.some.inj he
    rfl

/-- A single call ends with no error of the engine's own. -/
theorem ends_ask (c : Call) : (Plan.ask c).error?.Ends NotOwn :=
  fun reply => notOwn_ofReply reply

/-- An upload has no error of its own once it has called the gateway. -/
theorem endsBelow_upload (c : Call) :
    ((Plan.ask c).mapResult some).error?.EndsBelow NotOwn := by
  rw [error?_mapResult]
  exact (ends_ask c).endsBelow

/-- An update has no error of its own once it has called the gateway. -/
theorem endsBelow_update (records : List Record) : (update records).error?.EndsBelow NotOwn := by
  unfold update
  split
  · trivial
  · split
    · trivial
    · exact endsBelow_upload _

theorem endsBelow_delete (records : List Record) : (delete records).error?.EndsBelow NotOwn := by
  unfold delete
  split
  · trivial
  · exact endsBelow_upload _

/-- The filter is compiled before the query is sent. -/
theorem endsBelow_execute (q : Query) (paging : Members) :
    (execute settings q paging).error?.EndsBelow NotOwn := by
  unfold execute
  dsimp only
  split
  · trivial
  · exact fun reply => notOwn_ofReply reply

theorem endsBelow_updateIndexSettings (definition : Value) :
    (updateIndexSettings name definition).error?.EndsBelow NotOwn := by
  unfold updateIndexSettings
  split
  · trivial
  · exact (ends_ask _).endsBelow

theorem endsBelow_createIndex : (createIndex settings name).error?.EndsBelow NotOwn := by
  unfold createIndex
  split
  · trivial
  · rw [error?_mapResult]
    exact endsBelow_updateIndexSettings _

/-! ### Indexes -/

/-- The configured definition of the index says nothing, and nothing is added to it. -/
def DefinesNothing (settings : Settings) (name : String) : Prop :=
  settings.softDelete.enabled = false ∧
    ∃ definition, settings.indexes.get? name = some definition ∧
      isEmptyDefinition definition = true

/-- A definition with the policy is not empty. -/
theorem isEmptyDefinition_withSoftDeletePolicy (definition : Value) :
    isEmptyDefinition (withSoftDeletePolicy settings definition) = false := by
  cases definition with
  | object members =>
    rw [withSoftDeletePolicy, isEmptyDefinition]
    cases members with
    | nil => rfl
    | cons m rest =>
      rw [Members.set]
      split <;> rfl
  | null | bool _ | number _ | string _ | array _ => rfl

/-- The one error of its own with which the creation of an index fails. -/
theorem ends_createIndex :
    (createIndex settings name).error?.Ends fun e? =>
      ∀ e ∈ e?, e.isOwn = true → e = .missingSettings name ∧ DefinesNothing settings name := by
  unfold createIndex
  cases hdefinition : settings.indexes.get? name with
  | none => nofun
  | some definition =>
    simp only
    rw [error?_mapResult, updateIndexSettings]
    by_cases hempty : isEmptyDefinition (if settings.softDelete.enabled = true then
        withSoftDeletePolicy settings definition else definition) = true
    · rw [if_pos hempty]
      intro e he _
      obtain rfl := Option.some.inj he
      -- With the policy a definition is never empty, so the policy is off.
      cases henabled : settings.softDelete.enabled with
      | true =>
        rw [henabled, if_pos rfl, isEmptyDefinition_withSoftDeletePolicy] at hempty
        cases hempty
      | false =>
        rw [henabled, if_neg Bool.false_ne_true] at hempty
        exact ⟨rfl, henabled, definition, hdefinition, hempty⟩
    · rw [if_neg hempty]
      refine (ends_ask _).mono ?_
      intro e? he? e he hown
      rw [he? e he] at hown
      cases hown

/-- A flush goes on with the creation of the index, unless the deletion fails. -/
theorem error?_flush : (flush settings name).error? =
    .call (.deleteIndex name) fun reply =>
      match reply with
      | .ok _ => (createIndex settings name).error?
      | .error error => .done (some (.gateway error)) := by
  refine congrArg (Plan.call _) (funext fun reply => ?_)
  cases reply with
  | ok v => cases v <;> rfl
  | error error => rfl

end Operations

/-! ## Runs of operations -/

/-- Apart from a flush, an operation finds its own errors before any call. -/
theorem Operation.endsBelow_plan (settings : Settings) {op : Operation}
    (h : ∀ name, op ≠ .flush name) : (op.plan settings).EndsBelow NotOwn := by
  cases op with
  | update records => exact endsBelow_update records
  | delete records => exact endsBelow_delete records
  | search q => exact endsBelow_execute q _
  | paginate q perPage page => exact endsBelow_execute q _
  | flush name => exact absurd rfl (h name)
  | createIndex name => exact endsBelow_createIndex
  | deleteIndex name =>
    rw [plan, Engine.deleteIndex, error?_mapResult]
    exact (ends_ask _).endsBelow
  | updateIndexSettings name definition => exact endsBelow_updateIndexSettings definition

/-- An operation that fails with an error of the engine's own has made no call. Only a flush may
have deleted its index by then, and has made no other call: the configured definition of the
index, with which it was to be created again, says nothing. -/
theorem Operation.calls_of_ownError {σ : Type} (settings : Settings) (op : Operation)
    (answer : σ → Call → Reply × σ) (s : σ) {e : EngineError}
    (he : (Plan.run answer s (op.plan settings)).1 = some e) (hown : e.isOwn = true) :
    Plan.calls answer s (op.plan settings) = [] ∨
      ∃ name, op = .flush name ∧ e = .missingSettings name ∧ DefinesNothing settings name ∧
        Plan.calls answer s (op.plan settings) = [.deleteIndex name] := by
  have hresult {p : Plan (Option EngineError)} {t : σ} (hp : (Plan.run answer t p).1 = some e) :
      ¬ NotOwn (Plan.run answer t p).1 := by
    intro hnot
    rw [hnot e hp] at hown
    cases hown
  -- Only a flush makes a call before it can fail by itself.
  by_cases hflush : ∀ name, op ≠ .flush name
  · left
    exact (op.endsBelow_plan settings hflush).calls_eq_nil (hresult he)
  · right
    obtain ⟨name, hname⟩ := Classical.not_forall.1 hflush
    obtain rfl := Classical.not_not.1 hname
    rw [plan, error?_flush, Plan.run] at he
    rw [plan, error?_flush, Plan.calls]
    cases hreply : (answer s (.deleteIndex name)).1 with
    | error error =>
      rw [hreply] at he
      obtain rfl := Option.some.inj he
      cases hown
    | ok v =>
      rw [hreply] at he
      obtain ⟨rfl, hnothing⟩ := ends_createIndex.run answer _ e he hown
      have hcalls := endsBelow_createIndex.calls_eq_nil (hresult he)
      exact ⟨name, rfl, rfl, hnothing, congrArg (_ :: ·) hcalls⟩

/-- The index is gone, and there is nothing to create it from. -/
theorem Operation.calls_of_ownError_flush :
    Plan.calls (fun _ _ => (.ok (.bool true), ())) ()
        (plan { indexes := [("products", .null)] } (.flush "products")) = [] ∨
      ∃ name, Operation.flush "products" = .flush name ∧
        EngineError.missingSettings "products" = .missingSettings name ∧
        DefinesNothing { indexes := [("products", .null)] } name ∧
        Plan.calls (fun _ _ => (.ok (.bool true), ())) ()
          (plan { indexes := [("products", .null)] } (.flush "products")) = [.deleteIndex name] :=
  calls_of_ownError { indexes := [("products", .null)] } (.flush "products") _ () rfl rfl

/-- An error of the engine's own may come behind a call: a flush with an empty definition deletes the
index first. -/
theorem Operation.exists_call_before_ownError :
    ¬ ∀ (settings : Settings) (op : Operation) (answer : Unit → Call → Reply × Unit)
      (e : EngineError), (Plan.run answer () (op.plan settings)).1 = some e → e.isOwn = true →
        Plan.calls answer () (op.plan settings) = [] := by
  intro h
  have hnone := h { indexes := [("products", .object [])] } (.flush "products")
    (fun _ _ => (.ok (.bool true), ())) (.missingSettings "products") rfl rfl
  cases hnone

end SearchIndex.Engine
