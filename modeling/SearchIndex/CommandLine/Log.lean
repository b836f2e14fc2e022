import SearchIndex.CommandLine.Directive
import SearchIndex.CommandLine.VariableFile
import SearchIndex.Filter.Report
import SearchIndex.Text.Quoted

/-!
# The log

A run notes dropped predicates and unknown members of configuration files as warnings. Each note
comes from a named part of the program and has named fields, by which it can be asked for. The
environment says which notes of a run are shown, by directives with commas between them.
-/

namespace SearchIndex.CommandLine

/-! ## Notes -/

/-- A warning. -/
inductive Note where
  | dropped (predicate : Filter.Dropped)
  /-- The names of unknown members of a configuration file. -/
  | unknownMembers (names : String)

namespace Note

/-- The note as a line of the log. -/
def line : Note → String
  | .dropped d =>
    let kind :=
      match d.kind with
      | some kind => " kind=" ++ Text.quoted kind
      | none => ""
    "WARN Dropping predicate path=" ++ d.path.text ++ kind ++ " error=" ++ d.error.message
  | .unknownMembers names => "WARN Unknown fields in config file (possible typos) fields=" ++ names

/-- The part of the program that the note comes from. A predicate of a known kind was dropped when it
was compiled, any other when it was read. -/
def part : Note → String
  | .dropped d =>
    if d.kind.isSome then "azure_scout::filters::compiler" else "azure_scout::filters::parser"
  | .unknownMembers _ => "azure_scout_cli::core::config"

/-- The names of the fields of the note. -/
def fields : Note → List String
  | .dropped d => ["message", "path", "error"] ++ if d.kind.isSome then ["kind"] else []
  | .unknownMembers _ => ["message", "fields"]

end Note

/-! ## The log -/

/-- What of the log is shown, and complaints about how it was asked for. -/
structure Log where
  directives : List Directive
  complaints : List String
deriving DecidableEq, Repr

namespace Log

/-- The variables that say what is shown; the first that is set counts. -/
def variableNames : List String :=
  ["AZSCOUT_LOG", "RUST_LOG"]

/-- What the environment says about the log, which is something in any case. -/
def request (vars : Variables) : String :=
  (variableNames.findSome? vars.get?).getD "info,azscout=info"

/-- The texts of the directives of a request. -/
def pieces (request : String) : List String :=
  (request.splitOn ",").filter (· != "")

/-- The directive of a piece. -/
def directive? (piece : String) : Option Directive :=
  (Directive.ofText piece).toOption

/-- The complaint about a piece that is no directive. -/
def complaint? (piece : String) : Option String :=
  match Directive.ofText piece with
  | .ok _ => none
  | .error fault => some ("ignoring \x60" ++ piece ++ "\x60: " ++ fault.message)

/-- The log of a request. -/
def ofRequest (request : String) : Log where
  directives := (pieces request).filterMap directive?
  complaints := (pieces request).filterMap complaint?

/-- A note is shown: the directive that decides about it lets warnings through. -/
def shows (log : Log) (note : Note) : Bool :=
  (Directive.deciding log.directives note.part note.fields).any fun d => d.threshold.showsWarnings

/-- The lines of those of some notes that are shown. -/
def lines (log : Log) (notes : List Note) : List String :=
  (notes.filter log.shows).map Note.line

end Log

end SearchIndex.CommandLine
