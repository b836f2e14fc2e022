import SearchIndex.Config.File
import SearchIndex.Engine.Operations
import SearchIndex.Files.Disk
import SearchIndex.Service.Client

/-!
# The configuration of a run

Every setting is the first that is given in the order: command line and environment, the file named
there or the one in the current directory, the file in the home directory, default. What results is
checked as a whole, so a bad value that is overridden does no harm.
-/

namespace SearchIndex.Config

open Files (Disk Places)

/-! ## Settings of a run -/

/-- The settings from the command line and the environment. -/
structure Overrides where
  endpoint : Option String := none
  apiKey : Option String := none
  apiVersion : Option String := none
  timeout : Option Nat := none
  config : Option String := none
  maxDepth : Option Nat := none
  lenient : Bool := false
deriving DecidableEq, Repr

/-- How to reach the service. The endpoint and the key may be missing until they are needed. -/
structure SearchSettings where
  endpoint : Option String
  apiKey : Option String
  apiVersion : String
  timeoutSecs : Nat
deriving DecidableEq, Repr

/-- The configuration of a run. -/
structure AppConfig where
  search : SearchSettings
  engine : Engine.Settings

/-- Lays the overrides over a file and fills in defaults. Leniency is never taken back. -/
def resolve (overrides : Overrides) (file : File) : AppConfig :=
  let search := file.search.getD {}
  let filters := file.filters.getD {}
  let softDelete := file.softDelete.getD {}
  { search := {
      endpoint := overrides.endpoint.or search.endpoint
      apiKey := overrides.apiKey.or search.apiKey
      apiVersion := (overrides.apiVersion.or search.apiVersion).getD "2024-07-01"
      timeoutSecs := (overrides.timeout.or search.timeoutSecs).getD 30 }
    engine := {
      filter := {
        maxDepth := (overrides.maxDepth.or filters.maxDepth).getD 32
        strict := !overrides.lenient && filters.strict.getD true }
      softDelete := {
        enabled := softDelete.enabled.getD false
        column := softDelete.column.getD "isDeleted"
        marker := softDelete.marker.getD "true" }
      indexes := file.indexes.getD [] } }

/-! ## Errors -/

/-- Why there is no configuration. -/
inductive ConfigError where
  | unreadable (path : String) (fault : Files.ReadFault)
  | unparsable (path : String) (fault : Json.Fault)
  | notFound (path : String)
  | zeroTimeout
  | zeroDepth
  | blankVersion
  | blankSoftDeleteColumn
  | noEndpoint
  | noApiKey

/-- The error and what is behind it, from the outside in. -/
def ConfigError.chain : ConfigError → List String
  | .unreadable path fault => ["Failed to read config file: " ++ path, fault.message]
  | .unparsable path fault => ["Failed to parse config file: " ++ path, fault.message]
  | .notFound path => ["Config file not found: " ++ path]
  | .zeroTimeout => ["Configuration error: search.timeout_secs must be greater than 0"]
  | .zeroDepth => ["Configuration error: filters.max_depth must be greater than 0"]
  | .blankVersion => ["Configuration error: search.api_version must not be empty"]
  | .blankSoftDeleteColumn => ["Configuration error: soft_delete.column must not be empty"]
  | .noEndpoint =>
    ["Configuration error: search.endpoint is required (--endpoint or AZSCOUT_ENDPOINT)"]
  | .noApiKey =>
    ["Configuration error: search.api_key is required (--api-key or AZSCOUT_API_KEY)"]

/-! ## Checks -/

/-- Refuses a configuration with a useless value. -/
def AppConfig.check (config : AppConfig) : Except ConfigError AppConfig :=
  if config.search.timeoutSecs = 0 then .error .zeroTimeout
  else if config.engine.filter.maxDepth = 0 then .error .zeroDepth
  else if Text.isBlankText config.search.apiVersion then .error .blankVersion
  else if Text.isBlankText config.engine.softDelete.column then .error .blankSoftDeleteColumn
  else .ok config

/-- The settings of a client, for which there must be an endpoint and a key. -/
def AppConfig.client (config : AppConfig) : Except ConfigError Service.ClientConfig :=
  match config.search.endpoint.filter fun e => !Text.isBlankText e with
  | none => .error .noEndpoint
  | some endpoint =>
    match config.search.apiKey.filter (· != "") with
    | none => .error .noApiKey
    | some apiKey =>
      .ok ⟨endpoint, apiKey, config.search.apiVersion, config.search.timeoutSecs⟩

/-! ## Loading -/

/-- The name of a configuration file. -/
def fileName : String := "azscout.json"

/-- The file in the home directory. -/
def profilePath (places : Places) : String :=
  Files.within (Files.within places.home ".azscout") fileName

/-- A loaded configuration or an error, and for each file read the names of its unknown members. -/
structure Loaded (α : Type) where
  unknown : List String
  result : Except ConfigError α

/-- Reads a file that appears under a name. -/
def loadFile (disk : Disk) (path shown : String) : Except ConfigError File :=
  match disk.readText path with
  | .error fault => .error (.unreadable shown fault)
  | .ok text =>
    match parseFile text with
    | .error fault => .error (.unparsable shown fault)
    | .ok file => .ok file

/-- The file that lies over the one in the home directory: its path and the name under which it
appears. A named file must be there. -/
def overlayPath (disk : Disk) (places : Places) (overrides : Overrides) :
    Except ConfigError (Option (String × String)) :=
  match overrides.config with
  | some path =>
    let absolute := Files.expand places path
    if disk.has absolute then .ok (some (absolute, absolute)) else .error (.notFound absolute)
  | none =>
    let absolute := Files.within places.current fileName
    .ok (if disk.has absolute then some (absolute, fileName) else none)

/-- The names of unknown members, as a list of at most one. -/
def File.notes (file : File) : List String :=
  file.unknownNames?.toList

/-- Loads the configuration of a run. -/
def load (disk : Disk) (places : Places) (overrides : Overrides) : Loaded AppConfig :=
  let path := profilePath places
  let profile : Except ConfigError File := if disk.has path then loadFile disk path path else .ok {}
  match profile with
  | .error e => ⟨[], .error e⟩
  | .ok bottom =>
    -- The lower file is noted before the upper one is looked for.
    match overlayPath disk places overrides with
    | .error e => ⟨bottom.notes, .error e⟩
    | .ok none => ⟨bottom.notes, (resolve overrides (bottom.over {})).check⟩
    | .ok (some (path, shown)) =>
      match loadFile disk path shown with
      | .error e => ⟨bottom.notes, .error e⟩
      | .ok top =>
        ⟨bottom.notes ++ top.notes, (resolve overrides (top.over (bottom.over {}))).check⟩

end SearchIndex.Config
