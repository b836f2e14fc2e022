import SearchIndex.CommandLine.Count
import SearchIndex.Engine.Query

/-!
# Parameters of the command line

A parameter is a flag, an option with a value, or a positional argument. Its kind settles what texts
are values of it and what they are read as.
-/

namespace SearchIndex.CommandLine

open Engine (OrderClause SortDirection)

/-! ## Order clauses -/

/-- Cuts a text at its first colon. -/
def cutAtColon (text : String) : String × Option String :=
  match text.toList.span (· != ':') with
  | (_, []) => (text, none)
  | (before, _ :: after) => (String.ofList before, some (String.ofList after))

/-- Reads an order clause: a column, and after a colon a direction. The direction is read first. -/
def readOrder (text : String) : Except String OrderClause :=
  let clause (column : String) (direction : SortDirection) : Except String OrderClause :=
    let trimmed := Text.trim column
    if trimmed = "" then
      .error ("Invalid order '" ++ text ++ "'. Expected column[:asc|desc]")
    else .ok ⟨trimmed, direction⟩
  match cutAtColon text with
  | (column, none) => clause column .asc
  | (column, some word) =>
    match SortDirection.parse? word with
    | some direction => clause column direction
    | none => .error (SortDirection.unknownMessage word)

/-! ## Kinds -/

/-- What kind of value a parameter takes. -/
inductive Kind where
  /-- Given or not, without a value. -/
  | flag
  | text
  /-- Any text but the empty one. -/
  | path
  | count
  | order
deriving DecidableEq, Repr

namespace Kind

/-- The values of a kind. -/
def Value : Kind → Type
  | .flag => Unit
  | .text => String
  | .path => String
  | .count => Nat
  | .order => OrderClause

/-- Why a text is no value. -/
inductive Fault where
  | noValue
  | badValue (reason : String)
deriving DecidableEq, Repr

/-- Reads the text of a value. A flag has none, so nothing is refused. -/
def read : (kind : Kind) → String → Except Fault kind.Value
  | .flag, _ => .ok ()
  | .text, s => .ok s
  | .path, s => if s = "" then .error .noValue else .ok s
  | .count, s => (readCount s).mapError fun fault => .badValue fault.message
  | .order, s => (readOrder s).mapError .badValue

end Kind

/-! ## Parameters -/

/-- A parameter of some command. -/
inductive Parameter where
  | endpoint
  | apiKey
  | apiVersion
  | timeout
  | config
  | maxDepth
  | lenient
  | json
  | file
  | index
  | query
  | filter
  | top
  | page
  | order
  | key
  | delete
  | name
  | help
  | version
deriving DecidableEq, Repr

namespace Parameter

/-- What values the parameter takes. -/
def kind : Parameter → Kind
  | .endpoint => .text
  | .apiKey => .text
  | .apiVersion => .text
  | .timeout => .count
  | .config => .path
  | .maxDepth => .count
  | .lenient => .flag
  | .json => .text
  | .file => .path
  | .index => .text
  | .query => .text
  | .filter => .text
  | .top => .count
  | .page => .count
  | .order => .order
  | .key => .text
  | .delete => .flag
  | .name => .text
  | .help => .flag
  | .version => .flag

/-- The parameter is given by its place, not by its name. -/
def isPositional : Parameter → Bool
  | .json => true
  | .index => true
  | .name => true
  | _ => false

/-- The name after two dashes. -/
def long : Parameter → String
  | .endpoint => "endpoint"
  | .apiKey => "api-key"
  | .apiVersion => "api-version"
  | .timeout => "timeout"
  | .config => "config"
  | .maxDepth => "max-depth"
  | .lenient => "lenient"
  | .json => "json"
  | .file => "file"
  | .index => "index"
  | .query => "query"
  | .filter => "filter"
  | .top => "top"
  | .page => "page"
  | .order => "order"
  | .key => "key"
  | .delete => "delete"
  | .name => "name"
  | .help => "help"
  | .version => "version"

/-- The letter after one dash. -/
def short? : Parameter → Option Char
  | .endpoint => some 'e'
  | .config => some 'c'
  | .file => some 'f'
  | .query => some 'q'
  | .top => some 't'
  | .page => some 'p'
  | .order => some 'o'
  | .key => some 'k'
  | .help => some 'h'
  | .version => some 'V'
  | _ => none

/-- The environment variable that stands in for the parameter. -/
def environmentName? : Parameter → Option String
  | .endpoint => some "AZSCOUT_ENDPOINT"
  | .apiKey => some "AZSCOUT_API_KEY"
  | .apiVersion => some "AZSCOUT_API_VERSION"
  | .timeout => some "AZSCOUT_TIMEOUT_SECS"
  | .config => some "AZSCOUT_CONFIG"
  | _ => none

/-- The parameter may be given more than once at one level. -/
def isRepeatable (p : Parameter) : Bool :=
  p == .order

/-- The parameter that must not be given along with this one. -/
def rival? : Parameter → Option Parameter
  | .json => some .file
  | .file => some .json
  | _ => none

/-- The name of the value in messages. -/
def valueName (p : Parameter) : String :=
  p.long.map fun c => if c = '-' then '_' else c.toUpper

/-- The parameter in messages: an optional positional argument in square brackets, an option with its
value in angle brackets. -/
def label (p : Parameter) : String :=
  if p.isPositional then "[" ++ p.valueName ++ "]"
  else
    match p.kind with
    | .flag => "--" ++ p.long
    | _ => "--" ++ p.long ++ " <" ++ p.valueName ++ ">"

end Parameter

/-! ## Entries -/

/-- A parameter with its value. -/
structure Entry where
  parameter : Parameter
  value : parameter.kind.Value

/-- The first value of a parameter. -/
def firstValue? (p : Parameter) : List Entry → Option p.kind.Value
  | [] => none
  | e :: rest => if h : e.parameter = p then some (h ▸ e.value) else firstValue? p rest

/-- All values of a parameter, in order. -/
def values (p : Parameter) : List Entry → List p.kind.Value
  | [] => []
  | e :: rest => if h : e.parameter = p then (h ▸ e.value) :: values p rest else values p rest

/-- The parameter has a value. -/
def isGiven (p : Parameter) (entries : List Entry) : Bool :=
  entries.any fun e => e.parameter == p

end SearchIndex.CommandLine
