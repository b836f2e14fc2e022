import SearchIndex.Engine.Gateway
import SearchIndex.Engine.Record

/-!
# Operations of the engine

The engine keeps an index in step with records, searches it, and creates it from configured
settings. Each operation is a plan; whatever can be refused without the service is refused before
the call that needs it.
-/

namespace SearchIndex.Engine

open Json (Value Members)

/-! ## Settings -/

/-- How deleted records are marked. -/
structure SoftDelete where
  enabled : Bool := false
  column : String := "isDeleted"
  marker : String := "true"
deriving DecidableEq, Repr

/-- The settings of an engine. -/
structure Settings where
  filter : Filter.Options := {}
  softDelete : SoftDelete := {}
  /-- The definitions of indexes by name. -/
  indexes : Members := []

/-! ## Results -/

/-- Why an operation failed. -/
inductive EngineError where
  | filter (error : Filter.Error)
  | gateway (error : GatewayError)
  | missingSettings (index : String)

/-- The error in words. -/
def EngineError.message : EngineError → String
  | .filter error => "Filter error: " ++ error.message
  | .gateway error => "Gateway error: " ++ error.message
  | .missingSettings index => "Index settings are required for '" ++ index ++ "'"

/-- The error and what is behind it, from the outside in. -/
def EngineError.chain : EngineError → List String
  | .filter error => [(EngineError.filter error).message, error.message]
  | .gateway error => (EngineError.gateway error).message :: error.chain
  | .missingSettings index => [(EngineError.missingSettings index).message]

/-- The result of an operation, and the predicates that were dropped. -/
structure Outcome (α : Type) where
  dropped : List Filter.Dropped
  result : Except EngineError α

namespace Outcome

variable {α β : Type}

/-- A result with nothing dropped. -/
def ok (a : α) : Outcome α := ⟨[], .ok a⟩

/-- An error with nothing dropped. -/
def fail (e : EngineError) : Outcome α := ⟨[], .error e⟩

/-- The outcome of a filter. -/
def ofReport (r : Filter.Report α) : Outcome α :=
  ⟨r.dropped, r.result.mapError .filter⟩

/-- The outcome of a reply. -/
def ofReply : Reply → Outcome Value
  | .ok v => ok v
  | .error e => fail (.gateway e)

/-- Applies a function to the result. -/
def map (f : α → β) (o : Outcome α) : Outcome β :=
  ⟨o.dropped, o.result.map f⟩

end Outcome

/-- Makes one call and gives its reply. -/
def Plan.ask (c : Call) : Plan (Outcome Value) :=
  .call c fun reply => .done (Outcome.ofReply reply)

/-- Applies a function to the result of a plan. -/
def Plan.mapResult {α β : Type} (f : α → β) (p : Plan (Outcome α)) : Plan (Outcome β) :=
  p.andThen fun o => .done (o.map f)

/-! ## Documents -/

/-- Brings records into the index of the first of them. Records without fields are left out; with
none left, nothing is sent. -/
def update (records : List Record) : Plan (Outcome (Option Value)) :=
  match records with
  | [] => .done (.ok none)
  | first :: _ =>
    -- The index is that of the first record, also if that record itself is left out.
    match records.filterMap Record.upload? with
    | [] => .done (.ok none)
    | documents => (Plan.ask (.upload first.index documents)).mapResult some

/-- Takes records out of the index of the first of them. -/
def delete (records : List Record) : Plan (Outcome (Option Value)) :=
  match records with
  | [] => .done (.ok none)
  | first :: _ => (Plan.ask (.upload first.index (records.map Record.removal))).mapResult some

/-! ## Searches -/

/-- The largest count of records to skip. -/
def maxSkip : Nat := 0xFFFFFFFFFFFFFFFF

/-- The body of a search: the options, then the text, the paging, the filter unless it is empty, and
the order if there is one. -/
def buildQuery (settings : Settings) (q : Query) (paging : Members) : Filter.Report Members :=
  -- What is set later wins, so no option displaces a member of the query's own.
  let body := Members.setAll (q.options.set "search" (.string q.text)) paging
  let ordered (body : Members) : Members :=
    match q.orderText? with
    | some order => body.set "orderby" (.string order)
    | none => body
  match q.predicates with
  | [] => .ok (ordered body)
  | predicates =>
    (Filter.compile settings.filter predicates).map fun filter =>
      ordered (if filter = "" then body else body.set "filter" (.string filter))

/-- Sends a query with its paging. -/
def execute (settings : Settings) (q : Query) (paging : Members) : Plan (Outcome Value) :=
  let report := buildQuery settings q paging
  match report.result with
  | .error e => .done ⟨report.dropped, .error (.filter e)⟩
  | .ok body =>
    .call (.search q.index body) fun reply =>
      .done ⟨report.dropped, (Outcome.ofReply reply).result⟩

/-- A count as a member of a query. -/
def countValue (n : Nat) : Value :=
  .number (Json.Number.ofNat n)

/-- Searches with the query's own limit. -/
def search (settings : Settings) (q : Query) : Plan (Outcome Value) :=
  execute settings q <|
    match q.limit with
    | some limit => [("top", countValue limit)]
    | none => []

/-- Searches for one page of results. Pages count from one, and page zero is page one. -/
def paginate (settings : Settings) (q : Query) (perPage page : Nat) : Plan (Outcome Value) :=
  execute settings q
    [("top", countValue perPage), ("skip", countValue (min (perPage * (page - 1)) maxSkip))]

/-! ## Indexes -/

/-- A definition that says nothing. -/
def isEmptyDefinition : Value → Bool
  | .null => true
  | .object members => members.isEmpty
  | _ => false

/-- Sends the definition of an index, which must not be empty. -/
def updateIndexSettings (name : String) (definition : Value) : Plan (Outcome Value) :=
  if isEmptyDefinition definition then .done (.fail (.missingSettings name))
  else Plan.ask (.defineIndex name definition)

/-- The policy that has the service notice records marked as deleted. -/
def SoftDelete.policy (s : SoftDelete) : Value :=
  .object [
    ("@odata.type", .string "#Microsoft.Azure.Search.SoftDeleteColumnDeletionDetectionPolicy"),
    ("softDeleteColumnName", .string s.column),
    ("softDeleteMarkerValue", .string s.marker)]

/-- The member of a definition that holds the policy. -/
def policyName : String := "dataDeletionDetectionPolicy"

/-- A definition with the policy. A definition that is no object is replaced. -/
def withSoftDeletePolicy (settings : Settings) : Value → Value
  | .object members => .object (Members.set policyName settings.softDelete.policy members)
  | _ => .object [(policyName, settings.softDelete.policy)]

/-- Creates an index from its configured definition, if there is one. -/
def createIndex (settings : Settings) (name : String) : Plan (Outcome (Option Value)) :=
  match settings.indexes.get? name with
  | none => .done (.ok none)
  | some definition =>
    (updateIndexSettings name
      (if settings.softDelete.enabled then withSoftDeletePolicy settings definition
        else definition)).mapResult some

/-- Deletes an index and gives whether the service did so. -/
def deleteIndex (name : String) : Plan (Outcome Bool) :=
  (Plan.ask (.deleteIndex name)).mapResult fun reply =>
    match reply with
    | .bool deleted => deleted
    | _ => false

/-- Deletes an index and creates it again from its configured definition. -/
def flush (settings : Settings) (name : String) : Plan (Outcome (Option Value)) :=
  (deleteIndex name).andThen fun o =>
    match o.result with
    | .error e => .done (.fail e)
    | .ok _ => createIndex settings name

/-! ## Results of a search -/

/-- The keys of the documents in a reply, where they have one. -/
def keysOf (reply : Value) (keyName : String) : List Value :=
  match reply.member? "value" with
  | some (.array documents) => documents.filterMap fun d => d.member? keyName
  | _ => []

/-- The total count in a reply, zero if it has none. -/
def totalCount (reply : Value) : Nat :=
  match reply.member? "@odata.count" with
  | some (.number n) => n.toNat?.getD 0
  | _ => 0

end SearchIndex.Engine
