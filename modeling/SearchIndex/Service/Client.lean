import SearchIndex.Address.Reading
import SearchIndex.Engine.Gateway
import SearchIndex.Json.Reader
import SearchIndex.Text.Classes

/-!
# The client of the service

Each call becomes at most one request: the index name is checked first, then the request is built
and sent, and the reply is read. A reply with a success status is a JSON text, where a blank one
counts as null; any other status is an error, but for the deletion of an index that is not there.

The service takes index names of at most 128 characters from the lower-case letters, the digits and
the dash, with no dash at either end.
-/

namespace SearchIndex.Service

open Json (Value)
open Engine (Call Reply GatewayError TransportError)

/-! ## Index names -/

/-- A character of an index name. -/
def inIndexName (c : Char) : Bool :=
  ('a' ≤ c && c ≤ 'z') || ('0' ≤ c && c ≤ '9') || c == '-'

/-- The longest index name. -/
def maxIndexName : Nat := 128

/-- The text is an index name. -/
def isIndexName (name : String) : Bool :=
  let cs := name.toList
  !cs.isEmpty && cs.length ≤ maxIndexName && cs.head? != some '-' && cs.getLast? != some '-' &&
    cs.all inIndexName

/-! ## Requests -/

/-- A request as it is sent. -/
structure Request where
  method : String
  /-- The address as it is named in messages. -/
  address : String
  /-- The address in standard form. -/
  url : String
  apiKey : String
  /-- The type of content that is declared, also where there is no body. -/
  contentType : String
  body : Option String
deriving DecidableEq, Repr

/-- What became of a request. -/
inductive Exchange where
  | reply (status : Nat) (body : String)
  /-- The connection ended without a reply. -/
  | hungUp
  /-- There was no connection. -/
  | unreachable
deriving DecidableEq, Repr

/-- A network on which no peer can be reached. -/
def offline {σ : Type} (s : σ) (_ : Request) : Exchange × σ :=
  (.unreachable, s)

/-! ## Clients -/

/-- The settings of a client. -/
structure ClientConfig where
  endpoint : String
  apiKey : String
  apiVersion : String := "2024-07-01"
  timeoutSecs : Nat := 30
deriving DecidableEq, Repr

/-- A client of one service. -/
structure Client where
  baseUrl : String
  apiKey : String
  apiVersion : String
deriving DecidableEq, Repr

/-- The name under which the client appears. -/
def clientName : String := "azure"

/-- A key may stand in a header: it has no control character other than tab. -/
def isHeaderText (s : String) : Bool :=
  s.toList.all fun c => c == '\t' || (0x20 ≤ c.toNat && c.toNat != 0x7F)

/-- An endpoint without surrounding white space and trailing slashes. -/
def baseOf (endpoint : String) : String :=
  String.ofList (((Text.trim endpoint).toList.reverse.dropWhile (· == '/')).reverse)

/-- The client of some settings. -/
def Client.ofConfig (config : ClientConfig) : Except GatewayError Client :=
  let base := baseOf config.endpoint
  if base = "" then .error (.config "endpoint must not be empty")
  else if config.apiKey = "" then .error (.config "api key must not be empty")
  else if isHeaderText config.apiKey then .ok ⟨base, config.apiKey, config.apiVersion⟩
  else .error (.config "invalid api key: failed to parse header value")

namespace Client

/-! ## Addresses -/

/-- What follows the index name in the address of a call. -/
def suffix : Call → String
  | .upload .. => "/docs/index"
  | .search .. => "/docs/search"
  | .createIndex .. => ""
  | .defineIndex .. => ""
  | .deleteIndex _ => ""

/-- The query of the address of a call. -/
def query (client : Client) : Call → String
  | .defineIndex .. => "allowIndexDowntime=false&api-version=" ++ client.apiVersion
  | _ => "api-version=" ++ client.apiVersion

/-- The address of a call. -/
def address (client : Client) (c : Call) : String :=
  client.baseUrl ++ "/indexes/" ++ c.index ++ suffix c ++ "?" ++ client.query c

/-! ## Requests -/

/-- The method of a call. -/
def method : Call → String
  | .upload .. => "POST"
  | .search .. => "POST"
  | .createIndex .. => "PUT"
  | .defineIndex .. => "PUT"
  | .deleteIndex _ => "DELETE"

/-- The body of a call. -/
def body? : Call → Option Value
  | .upload _ documents => some (.object [("value", .array documents)])
  | .search _ query => some (.object query)
  | .createIndex _ definition => some definition
  | .defineIndex _ definition => some definition
  | .deleteIndex _ => none

/-- What all requests of a client declare as the type of their content. -/
def contentType : String := "application/json"

/-- The standard form of an address that requests go to. A login in it is sent apart. -/
def target (address : String) : Except TransportError String :=
  match Address.ofText address with
  | .error problem => .error (.badAddress problem.reason)
  | .ok a =>
    let a := a.withoutLogin
    match a.refusal? with
    | some refusal => .error (.refusedAddress a.text refusal.reason)
    | none => .ok a.text

/-- The request of a call, whose index name must be one and to whose address requests must go. -/
def request (client : Client) (c : Call) : Except GatewayError Request :=
  if isIndexName c.index then
    let address := client.address c
    match target address with
    | .error e => .error (.http e)
    | .ok url =>
      .ok ⟨method c, address, url, client.apiKey, contentType, (body? c).map Value.text⟩
  else .error (.invalidIndexName c.index)

/-! ## Replies -/

/-- A status of success. -/
def isSuccess (status : Nat) : Bool :=
  200 ≤ status && status < 300

/-- Reads a reply to a call that is not a deletion. -/
def readBody (r : Request) (status : Nat) (body : String) : Reply :=
  if !isSuccess status then .error (.status r.method r.address status body)
  else if Text.isBlankText body then .ok .null
  else
    match Json.parse body with
    | .ok v => .ok v
    | .error fault => .error (.decode r.address fault.message)

/-- Reads a reply to a deletion: the service confirms one with the status 204. -/
def readDeletion (r : Request) (status : Nat) (body : String) : Reply :=
  if status = 204 then .ok (.bool true)
  else if status = 404 || isSuccess status then .ok (.bool false)
  else .error (.status r.method r.address status body)

/-- Reads what became of the request of a call. -/
def read (c : Call) (r : Request) : Exchange → Reply
  | .reply status body =>
    match c with
    | .deleteIndex _ => readDeletion r status body
    | _ => readBody r status body
  | .hungUp => .error (.http (.hungUp r.url))
  | .unreachable => .error (.http (.unreachable r.url))

/-- Answers a call over a network that has a state. -/
def answer {σ : Type} (network : σ → Request → Exchange × σ) (client : Client) (s : σ) (c : Call) :
    Reply × σ :=
  match client.request c with
  | .error e => (.error e, s)
  | .ok r => (read c r (network s r).1, (network s r).2)

end Client

end SearchIndex.Service
