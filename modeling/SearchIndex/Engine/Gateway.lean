import SearchIndex.Json.Value

/-!
# Calls to the search service

The engine reaches the service through a few calls. A plan is a computation that makes calls one
after the other, each next step depending on the reply so far; what a plan does is settled before
any gateway is there to answer it.
-/

namespace SearchIndex.Engine

open Json (Value Members)

/-- A call to the service. -/
inductive Call where
  | upload (index : String) (documents : List Value)
  | search (index : String) (query : Members)
  | createIndex (index : String) (definition : Value)
  | defineIndex (index : String) (definition : Value)
  /-- The reply is whether the service deleted the index. -/
  | deleteIndex (index : String)

/-- The index that a call concerns. -/
def Call.index : Call → String
  | .upload index _ => index
  | .search index _ => index
  | .createIndex index _ => index
  | .defineIndex index _ => index
  | .deleteIndex index => index

/-! ## Failures -/

/-- Why a request had no reply. -/
inductive TransportError where
  /-- The address is no absolute one. -/
  | badAddress (reason : String)
  /-- No request goes to the address. -/
  | refusedAddress (url reason : String)
  /-- No connection could be made. -/
  | unreachable (url : String)
  /-- The connection ended before a reply came. -/
  | hungUp (url : String)
deriving DecidableEq, Repr

/-- The error in words. -/
def TransportError.message : TransportError → String
  | .badAddress _ => "builder error"
  | .refusedAddress url _ => "builder error for url (" ++ url ++ ")"
  | .unreachable url => "error sending request for url (" ++ url ++ ")"
  | .hungUp url => "error sending request for url (" ++ url ++ ")"

/-- What is behind the error, the nearest cause first. -/
def TransportError.causes : TransportError → List String
  | .badAddress reason => [reason]
  | .refusedAddress _ reason => [reason]
  | .unreachable _ =>
    ["client error (Connect)", "tcp connect error", "Network is unreachable (os error 101)"]
  | .hungUp _ => ["client error (SendRequest)", "connection closed before message completed"]

/-- Why a call failed. -/
inductive GatewayError where
  | config (reason : String)
  | invalidIndexName (name : String)
  | http (error : TransportError)
  | status (method url : String) (code : Nat) (body : String)
  | decode (url reason : String)
deriving DecidableEq, Repr

/-- The error in words. -/
def GatewayError.message : GatewayError → String
  | .config reason => "Gateway configuration error: " ++ reason
  | .invalidIndexName name => "Invalid index name '" ++ name ++ "'"
  | .http error => "HTTP error: " ++ error.message
  | .status method url code body =>
    method ++ " " ++ url ++ " returned " ++ String.ofList (Decimal.naturalDigits code) ++ ": " ++
      body
  | .decode url reason => "Failed to decode response from " ++ url ++ ": " ++ reason

/-- The error and what is behind it, from the outside in. -/
def GatewayError.chain : GatewayError → List String
  | .http error => (GatewayError.http error).message :: error.message :: error.causes
  | e => [e.message]

/-! ## Plans -/

/-- A reply to a call. -/
abbrev Reply := Except GatewayError Value

/-- A computation that makes calls. -/
inductive Plan (α : Type) where
  | done (result : α)
  | call (c : Call) (next : Reply → Plan α)

namespace Plan

variable {α β σ : Type}

/-- Goes on with the result. -/
def andThen : Plan α → (α → Plan β) → Plan β
  | .done a, next => next a
  | .call c k, next => .call c fun reply => (k reply).andThen next

/-- Carries out a plan with a gateway that has a state. -/
def run (answer : σ → Call → Reply × σ) : σ → Plan α → α × σ
  | s, .done a => (a, s)
  | s, .call c k => run answer (answer s c).2 (k (answer s c).1)

/-- The calls of a plan, in order, with a gateway that has a state. -/
def calls (answer : σ → Call → Reply × σ) : σ → Plan α → List Call
  | _, .done _ => []
  | s, .call c k => c :: calls answer (answer s c).2 (k (answer s c).1)

end Plan

end SearchIndex.Engine
