import SearchIndex.Proofs.Engine.OwnErrors
import SearchIndex.Proofs.Json.Objects

/-!
# Definitions with and without the policy

What the policy for records marked as deleted does to the creation of an index, by comparison of two
engines whose settings differ in nothing but that switch (`createIndex_switched`). The policy is put
into the definition before it is decided whether the definition says anything. So with the policy
a definition that says nothing is sent as well, with the policy alone, where without it the creation
fails before any call.
-/

namespace SearchIndex.Engine

open Json (Value Members)

/-! ## The policy in a definition -/

/-- The second definition is the first one with the policy. An object keeps its other members, with
their values and in their places; anything else is replaced. -/
inductive AddsPolicy (policy : Value) : Value → Value → Prop
  | object {members members' : Members}
      (hothers : members'.without policyName = members.without policyName)
      (hnames : members.names <+: members'.names)
      (hpolicy : Members.get? members' policyName = some policy) :
      AddsPolicy policy (.object members) (.object members')
  | instead {definition : Value} (h : ∀ members, definition ≠ .object members) :
      AddsPolicy policy definition (.object [(policyName, policy)])

/-- The settings with the policy switched on or off. -/
def Settings.switched (settings : Settings) (enabled : Bool) : Settings :=
  { settings with softDelete := { settings.softDelete with enabled } }

section Definitions

variable (settings : Settings)

/-- The policy becomes a member of the definition, or takes the place of what is no object. -/
theorem addsPolicy (definition : Value) : AddsPolicy settings.softDelete.policy definition
    (withSoftDeletePolicy settings definition) := by
  cases definition with
  | object members =>
    exact .object (Members.without_set members policyName _)
      (Members.names_prefix_set members policyName _) (Members.get?_set_self members policyName _)
  | null | bool _ | number _ | string _ | array _ => exact .instead nofun

/-- Whatever the definition was, with the policy it is an object that has it. -/
theorem exists_withSoftDeletePolicy (definition : Value) : ∃ members : Members,
    withSoftDeletePolicy settings definition = .object members ∧
      members.get? policyName = some settings.softDelete.policy := by
  cases definition with
  | object members => exact ⟨_, rfl, Members.get?_set_self members policyName _⟩
  | null | bool _ | number _ | string _ | array _ =>
    exact ⟨_, rfl, Members.get?_set_self [] policyName _⟩

/-- The policy is put into a definition once. -/
theorem withSoftDeletePolicy_idem (definition : Value) :
    withSoftDeletePolicy settings (withSoftDeletePolicy settings definition) =
      withSoftDeletePolicy settings definition := by
  obtain ⟨members, hmembers, hpolicy⟩ := exists_withSoftDeletePolicy settings definition
  rw [hmembers, withSoftDeletePolicy, Members.set_of_get? hpolicy]

/-- A definition that says nothing becomes one of the policy alone. -/
theorem withSoftDeletePolicy_of_isEmptyDefinition {definition : Value}
    (h : isEmptyDefinition definition = true) :
    withSoftDeletePolicy settings definition =
      .object [(policyName, settings.softDelete.policy)] := by
  cases definition with
  | object members =>
    obtain rfl := List.isEmpty_iff.1 h
    rfl
  | null | bool _ | number _ | string _ | array _ => rfl

end Definitions

/-! ## Creation of an index -/

/-- The creation of an index from a definition that says something. -/
def define (name : String) (definition : Value) : Plan (Outcome (Option Value)) :=
  (Plan.ask (.defineIndex name definition)).mapResult some

section Creation

variable {σ : Type} (settings : Settings) (name : String) (answer : σ → Call → Reply × σ) (s : σ)

/-- A change of the settings of an index is one call. -/
theorem calls_define (definition : Value) :
    Plan.calls answer s (define name definition) = [.defineIndex name definition] := rfl

/-- What the service replies is neither a missing definition nor one that says nothing. -/
theorem result_define (definition : Value) :
    (Plan.run answer s (define name definition)).1.result ≠ .ok none ∧
      ∀ index, (Plan.run answer s (define name definition)).1.result ≠
        .error (.missingSettings index) := by
  have hrun : (Plan.run answer s (define name definition)).1 =
      (Outcome.ofReply (answer s (.defineIndex name definition)).1).map some := rfl
  rw [hrun]
  cases (answer s (.defineIndex name definition)).1 with
  | ok v => exact ⟨nofun, fun index => nofun⟩
  | error error => exact ⟨nofun, fun index => nofun⟩

/-- Without a definition there is nothing to create. Without the policy, a definition must say
something; with the policy, each one does. -/
theorem createIndex_cases :
    (settings.indexes.get? name = none ∧
        ∀ enabled, createIndex (settings.switched enabled) name = .done (.ok none)) ∨
      ∃ definition, settings.indexes.get? name = some definition ∧
        createIndex (settings.switched true) name =
          define name (withSoftDeletePolicy settings definition) ∧
        createIndex (settings.switched false) name =
          if isEmptyDefinition definition then .done (.fail (.missingSettings name))
          else define name definition := by
  have hget (enabled : Bool) :
      (settings.switched enabled).indexes.get? name = settings.indexes.get? name := rfl
  cases hdefinition : settings.indexes.get? name with
  | none =>
    refine .inl ⟨rfl, fun enabled => ?_⟩
    simp only [createIndex, hget, hdefinition]
  | some definition =>
    refine .inr ⟨definition, rfl, ?_, ?_⟩
    · -- The policy is always something to say, so nothing can be missing with it.
      have hsays : isEmptyDefinition (withSoftDeletePolicy (settings.switched true) definition) =
          false := isEmptyDefinition_withSoftDeletePolicy definition
      have hon : (settings.switched true).softDelete.enabled = true := rfl
      simp only [createIndex, hget, hdefinition, hon, if_true, updateIndexSettings, hsays]
      rfl
    · have hoff : (settings.switched false).softDelete.enabled = false := rfl
      simp only [createIndex, hget, hdefinition, hoff, Bool.false_eq_true, if_false,
        updateIndexSettings]
      split <;> rfl

/-- What the creation of an index gives, with the policy switched on or off. -/
def created (enabled : Bool) : Except EngineError (Option Value) :=
  (Plan.run answer s (createIndex (settings.switched enabled) name)).1.result

/-- The calls that the creation makes. -/
def creationCalls (enabled : Bool) : List Call :=
  Plan.calls answer s (createIndex (settings.switched enabled) name)

/-- One creation of an index, with the policy switched on and off. There is nothing to create
in both cases or in neither. Without the policy a definition that says nothing is missing; with it
none is missing, and in place of the one that says nothing the policy alone is sent. Any other
definition is sent in both cases, and in one of them with the policy. -/
theorem createIndex_switched :
    (created settings name answer s true = .ok none ↔
      created settings name answer s false = .ok none) ∧
    (∀ index, created settings name answer s true ≠ .error (.missingSettings index)) ∧
    (∀ index, created settings name answer s false = .error (.missingSettings index) ↔
      index = name ∧ ∃ definition, settings.indexes.get? name = some definition ∧
        isEmptyDefinition definition = true) ∧
    (∀ definition, settings.indexes.get? name = some definition →
      isEmptyDefinition definition = true →
        creationCalls settings name answer s false = [] ∧
        creationCalls settings name answer s true =
          [.defineIndex name (.object [(policyName, settings.softDelete.policy)])]) ∧
    (∀ index definition,
      .defineIndex index definition ∈ creationCalls settings name answer s false →
        index = name ∧ ∃ definition', AddsPolicy settings.softDelete.policy definition definition' ∧
          creationCalls settings name answer s true = [.defineIndex name definition']) ∧
    ∀ definition, withSoftDeletePolicy settings (withSoftDeletePolicy settings definition) =
      withSoftDeletePolicy settings definition := by
  have hidem := withSoftDeletePolicy_idem settings
  unfold created creationCalls
  rcases createIndex_cases settings name with ⟨hnone, hdone⟩ | ⟨definition, hsome, hon, hoff⟩
  · rw [hdone, hdone, hnone]
    exact ⟨.rfl, fun index => nofun, fun index => ⟨nofun, nofun⟩, nofun, nofun, hidem⟩
  · -- With the policy there is always something to send; the other run decides what is left.
    obtain ⟨hsent, hmissing⟩ :=
      result_define name answer s (withSoftDeletePolicy settings definition)
    rw [hon, hoff, hsome]
    cases hempty : isEmptyDefinition definition with
    | true =>
      refine ⟨iff_of_false hsent nofun, hmissing, fun index => ?_, ?_, nofun, hidem⟩
      · constructor
        · rintro ⟨⟩
          exact ⟨rfl, definition, rfl, hempty⟩
        · rintro ⟨rfl, -⟩
          rfl
      · rintro _ ⟨⟩ -
        rw [calls_define, withSoftDeletePolicy_of_isEmptyDefinition settings hempty]
        exact ⟨rfl, rfl⟩
    | false =>
      obtain ⟨hsent', hmissing'⟩ := result_define name answer s definition
      refine ⟨iff_of_false hsent hsent', hmissing, fun index => ?_, ?_, ?_, hidem⟩
      · refine iff_of_false (hmissing' index) ?_
        rintro ⟨-, _, ⟨⟩, h⟩
        rw [hempty] at h
        cases h
      · rintro _ ⟨⟩ h
        rw [hempty] at h
        cases h
      · rintro index definition' hmem
        cases List.mem_singleton.1 hmem
        exact ⟨rfl, _, addsPolicy settings definition, rfl⟩

/-- A definition that has another policy beside its fields. -/
theorem createIndex_switched_fields : ∃ definition',
    AddsPolicy (SoftDelete.policy {})
      (.object [("dataDeletionDetectionPolicy", .null), ("fields", .array [])]) definition' ∧
      creationCalls { indexes := [("products", .object [("dataDeletionDetectionPolicy", .null),
        ("fields", .array [])])] } "products" (fun _ _ => (.ok .null, ())) () true =
          [.defineIndex "products" definition'] :=
  ((createIndex_switched { indexes := [("products", .object
    [("dataDeletionDetectionPolicy", .null), ("fields", .array [])])] } "products"
    (fun _ _ => (.ok .null, ())) ()).2.2.2.2.1 "products" _ List.mem_cons_self).2

/-- An empty definition is missing without the policy only, and a definition that is a list is not
kept with it. -/
theorem createIndex_switched_ne :
    (created { indexes := [("products", .object [])] } "products" (fun _ _ => (.ok .null, ())) ()
        false = .error (.missingSettings "products") ∧
      created { indexes := [("products", .object [])] } "products" (fun _ _ => (.ok .null, ())) ()
        true = .ok (some .null)) ∧
    creationCalls { indexes := [("products", .array [])] } "products"
        (fun _ _ => (.ok .null, ())) () false = [.defineIndex "products" (.array [])] ∧
      creationCalls { indexes := [("products", .array [])] } "products"
        (fun _ _ => (.ok .null, ())) () true =
          [.defineIndex "products" (.object [(policyName, SoftDelete.policy {})])] :=
  ⟨⟨rfl, rfl⟩, rfl, rfl⟩

end Creation

end SearchIndex.Engine
