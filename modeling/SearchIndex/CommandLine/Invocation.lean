import SearchIndex.CommandLine.Level
import SearchIndex.Config.Resolved
import SearchIndex.Text.Terminal

/-!
# Invocations

What a command line asks for: a command with its arguments, and settings of the run. Where no
invocation can be read there is a stop instead, which says what was wrong or that help is wanted.
-/

namespace SearchIndex.CommandLine

open Engine (OrderClause)
open Text.Terminal (bold plain)

/-! ## Commands -/

/-- What is done with an index. -/
inductive IndexAction where
  | create
  | delete
  | flush
deriving DecidableEq, Repr

/-- The arguments of a search. -/
structure SearchArguments where
  index : String
  query : String := "*"
  filter : Option String := none
  top : Option Nat := none
  page : Option Nat := none
  orders : List OrderClause := []
deriving DecidableEq, Repr

/-- The arguments of an upload. -/
structure UploadArguments where
  index : String
  file : String
  key : Option String := none
  delete : Bool := false
deriving DecidableEq, Repr

/-- A command that talks to the service. -/
inductive ServiceCommand where
  | search (arguments : SearchArguments)
  | upload (arguments : UploadArguments)
  | index (action : IndexAction) (name : String)
deriving DecidableEq, Repr

/-- A command. -/
inductive Command where
  /-- Compiles a filter, given as it is or in a file. -/
  | filter (json file : Option String)
  | service (command : ServiceCommand)
deriving DecidableEq, Repr

/-- The command talks to the service. -/
def Command.needsService : Command → Bool
  | .filter .. => false
  | .service _ => true

/-- A command and the settings of its run. -/
structure Invocation where
  overrides : Config.Overrides
  command : Command
deriving DecidableEq, Repr

/-! ## Stops -/

/-- Why there is no command to run. -/
inductive Stop where
  | help (level : Level)
  | version
  /-- Nothing was given where a command has to follow. -/
  | helpInstead (level : Level)
  | missingCommand (level : Level)
  | unknownCommand (word : String)
  | unknownArgument (argument : String)
  | missingArgument (p : Parameter)
  | noValue (p : Parameter)
  | badValue (p : Parameter) (value reason : String)
  | repeated (p : Parameter)
  | rivals (first second : Parameter)
  /-- A flag has a value. -/
  | surplusValue (p : Parameter) (value : String)
deriving DecidableEq, Repr

namespace Stop

/-- What is wrong, unless only help or the version is wanted. What the user wrote is in bold. -/
def complaint? : Stop → Option String
  | .help _ => none
  | .version => none
  | .helpInstead _ => none
  | .missingCommand level =>
    some ("'" ++ Text.joinWith " " level.words ++
      "' requires a subcommand but one was not provided")
  | .unknownCommand word => some ("unrecognized subcommand '" ++ bold word ++ "'")
  | .unknownArgument argument =>
    some ("unexpected argument '" ++ bold argument ++ "' found")
  | .missingArgument _ => some "the following required arguments were not provided:"
  | .noValue p => some ("a value is required for '" ++ p.label ++ "' but none was supplied")
  | .badValue p value reason =>
    some ("invalid value '" ++ bold value ++ "' for '" ++ p.label ++ "': " ++ reason)
  | .repeated p => some ("the argument '" ++ p.label ++ "' cannot be used multiple times")
  | .rivals first second =>
    some ("the argument '" ++ first.label ++ "' cannot be used with '" ++ second.label ++ "'")
  | .surplusValue p value =>
    some ("unexpected value '" ++ bold value ++ "' for '" ++ p.label ++
      "' found; no more were expected")

/-- Where more is to be found. -/
def hint : String :=
  "For more information, try '" ++ bold "--help" ++ "'."

/-- The complaint as it is shown where there is no terminal: without bold type, and without the
control sequences in what the user wrote. -/
def message? (stop : Stop) : Option String :=
  stop.complaint?.map fun complaint => plain ("error: " ++ complaint ++ "\n\n" ++ hint)

end Stop

end SearchIndex.CommandLine
