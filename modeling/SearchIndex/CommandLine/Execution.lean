import SearchIndex.CommandLine.Invocation
import SearchIndex.CommandLine.Log
import SearchIndex.Filter.Reading
import SearchIndex.Json.Printer

/-!
# Carrying out commands

A command that talks to the service is a plan, which ends with a text to print or an error. The
filter command and the filter of a search read and compile a text in the same way.
-/

namespace SearchIndex.CommandLine

open Engine (EngineError Outcome Plan Query RecordFault Settings)
open Files (Disk Places)
open Json (Value)

/-! ## Errors -/

/-- Why a command failed. -/
inductive CommandError where
  | config (error : Config.ConfigError)
  | client (error : Engine.GatewayError)
  | engine (error : EngineError)
  /-- The filter to compile. -/
  | filter (error : Filter.Error)
  /-- The filter of a search. -/
  | searchFilter (error : Filter.Error)
  | noFilter
  /-- A file that cannot be read: the causes from the outside in. -/
  | file (causes : List String)
  | records (path : String) (fault : RecordFault)
  | noDefinition (index : String)

/-- The error and what is behind it, from the outside in. -/
def CommandError.chain : CommandError → List String
  | .config error => error.chain
  | .client error => "Failed to initialize search client" :: error.chain
  | .engine error => error.chain
  | .filter error => ["Failed to compile filter", error.message]
  | .searchFilter error => ["Invalid --filter", error.message]
  | .noFilter => ["Provide predicate JSON or --file"]
  | .file causes => causes
  | .records path fault => ["Invalid documents in " ++ path, fault.message]
  | .noDefinition index => ["No index settings configured for '" ++ index ++ "'"]

/-- How a command ends: what was dropped, and the text to print or an error. -/
structure Ending where
  dropped : List Filter.Dropped
  result : Except CommandError String

namespace Ending

/-- A text with nothing dropped. -/
def ok (text : String) : Ending := ⟨[], .ok text⟩

/-- An error with nothing dropped. -/
def fail (error : CommandError) : Ending := ⟨[], .error error⟩

/-- The ending of an outcome, of which the result is printed. -/
def ofOutcome {α : Type} (print : α → Except CommandError String) (o : Outcome α) : Ending :=
  match o.result with
  | .error e => ⟨o.dropped, .error (.engine e)⟩
  | .ok a => ⟨o.dropped, print a⟩

end Ending

/-! ## Filters -/

/-- The text of the filter to compile: given as it is, or in a file. -/
def filterText (disk : Disk) (places : Places) : (json file : Option String) →
    Except CommandError String
  | some json, _ => .ok json
  | none, some path => (Files.readInput disk places path).mapError .file
  | none, none => .error .noFilter

/-- Compiles the text of a filter and prints it. -/
def compileFilter (settings : Settings) (text : String) : Ending :=
  let report := Filter.compileText settings.filter text
  ⟨report.dropped, report.result.mapError .filter⟩

/-- Compiles a filter, given as it is or in a file. -/
def filter (disk : Disk) (places : Places) (settings : Settings) (json file : Option String) :
    Ending :=
  match filterText disk places json file with
  | .error e => .fail e
  | .ok text => compileFilter settings text

/-! ## Searches -/

/-- How many results a page has if nothing is said. -/
def defaultPageSize : Nat := 50

/-- The predicates of a search. -/
def searchPredicates (settings : Settings) : Option String → Filter.Report (List Filter.Predicate)
  | none => .ok []
  | some text => Filter.parsePredicates settings.filter text

/-- Carries out the query of a search, for one page if one is named. -/
def runQuery (settings : Settings) (arguments : SearchArguments) (q : Query) :
    Plan (Outcome Value) :=
  match arguments.page with
  | some page => Engine.paginate settings q (arguments.top.getD defaultPageSize) page
  | none => Engine.search settings { q with limit := arguments.top }

/-- Searches an index and prints the reply. -/
def search (settings : Settings) (arguments : SearchArguments) : Plan Ending :=
  let report := searchPredicates settings arguments.filter
  match report.result with
  -- A filter that cannot be read is reported before anything is sent.
  | .error e => .done ⟨report.dropped, .error (.searchFilter e)⟩
  | .ok predicates =>
    let q : Query := {
      index := arguments.index
      text := arguments.query
      predicates
      orders := arguments.orders }
    (runQuery settings arguments q).andThen fun o =>
      .done (Ending.ofOutcome (fun v => .ok v.indentedText)
        ⟨report.dropped ++ o.dropped, o.result⟩)

/-! ## Uploads -/

/-- What is printed of the reply to an upload. -/
def uploadText : Option Value → String
  | some reply => reply.indentedText
  | none => "No documents to send."

/-- Sends the documents of a value, or their deletion. -/
def upload (arguments : UploadArguments) (documents : Value) : Plan Ending :=
  match Engine.Record.ofArray arguments.index (arguments.key.getD Engine.defaultKeyName)
      documents with
  | .error fault => .done (.fail (.records arguments.file fault))
  | .ok records =>
    (if arguments.delete then Engine.delete records else Engine.update records).andThen fun o =>
      .done (Ending.ofOutcome (fun reply => .ok (uploadText reply)) o)

/-! ## Indexes -/

/-- Does something with an index and prints what came of it. -/
def changeIndex (settings : Settings) (name : String) : IndexAction → Plan Ending
  | .create =>
    (Engine.createIndex settings name).andThen fun o =>
      .done (Ending.ofOutcome
        (fun definition =>
          match definition with
          | some v => .ok v.indentedText
          | none => .error (.noDefinition name)) o)
  | .delete =>
    (Engine.deleteIndex name).andThen fun o =>
      .done (Ending.ofOutcome
        (fun deleted =>
          .ok ((if deleted then "Deleted index: " else "Index not found: ") ++ name)) o)
  | .flush =>
    (Engine.flush settings name).andThen fun o =>
      .done (Ending.ofOutcome
        (fun definition =>
          match definition with
          | some v => .ok v.indentedText
          | none =>
            .ok ("Deleted index: " ++ name ++ " (no settings configured to recreate it)")) o)

/-! ## Commands -/

/-- The plan of a command that talks to the service. -/
def ServiceCommand.plan (disk : Disk) (places : Places) (settings : Settings) :
    ServiceCommand → Plan Ending
  | .search arguments => CommandLine.search settings arguments
  | .upload arguments =>
    match Files.readJson disk places arguments.file with
    | .error causes => .done (.fail (.file causes))
    | .ok documents => CommandLine.upload arguments documents
  | .index action name => changeIndex settings name action

end SearchIndex.CommandLine
