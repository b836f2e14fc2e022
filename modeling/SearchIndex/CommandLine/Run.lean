import SearchIndex.CommandLine.Execution
import SearchIndex.CommandLine.Reading
import SearchIndex.CommandLine.VariableFile

/-!
# A run of the program

A run reads the environment, the command line and the configuration, and carries out the command. It
leaves an exit status, what it printed and what it complained of.
-/

namespace SearchIndex.CommandLine

open Engine (Plan)
open Files (Disk Places)
open Service (Client Exchange Request)

/-- What a run finds. -/
structure Surroundings where
  disk : Disk
  places : Places
  environment : Variables

/-- The variables that a run asks for, apart from those in a file of variables. -/
def variableNames : List String :=
  Level.settings.filterMap Parameter.environmentName? ++ Log.variableNames

/-- The files that a command reads. -/
def Command.files : Command → List String
  | .filter none (some file) => [file]
  | .service (.upload arguments) => [arguments.file]
  | _ => []

/-- The paths of the files that an invocation reads. -/
def Invocation.paths (places : Places) (invocation : Invocation) : List String :=
  let overlay :=
    match invocation.overrides.config with
    | some path => Files.expand places path
    | none => Files.within places.current Config.fileName
  Config.profilePath places :: overlay ::
    invocation.command.files.map (Files.expand places)

/-- What a run leaves: its exit status, the lines it printed and the lines of its complaints. -/
structure Exit where
  status : Nat
  printed : List String
  complaints : List String
deriving DecidableEq, Repr

namespace Exit

/-- Each line with its end. -/
def linesText (lines : List String) : String :=
  String.join (lines.map (· ++ "\n"))

/-- What is printed. -/
def output (e : Exit) : String :=
  linesText e.printed

/-- What is complained of. -/
def errors (e : Exit) : String :=
  linesText e.complaints

/-- The exit of a run that reads no command. -/
def ofStop : Stop → Exit
  | .help level => ⟨0, [level.description], []⟩
  | .version => ⟨0, [programName ++ " " ++ programVersion], []⟩
  | .helpInstead level => ⟨2, [], [level.description]⟩
  | stop => ⟨2, [], stop.message?.toList⟩

/-- The complaint of an error, between blank lines. -/
def ofError (error : CommandError) : Exit :=
  ⟨1, [], ["", "Error: " ++ Text.joinWith ": " error.chain, ""]⟩

/-- The exit with complaints before its own. -/
def after (before : List String) (e : Exit) : Exit :=
  { e with complaints := before ++ e.complaints }

/-- The exit of a command. -/
def ofResult : Except CommandError String → Exit
  | .ok text => ⟨0, [text], []⟩
  | .error error => ofError error

end Exit

/-- The client of a configuration. -/
def clientOf (config : Config.AppConfig) : Except CommandError Client :=
  match config.client with
  | .error e => .error (.config e)
  | .ok settings => (Client.ofConfig settings).mapError .client

variable {σ : Type}

/-- Carries out a command. One that does not talk to the service needs no client. -/
def carryOut (network : σ → Request → Exchange × σ) (s : σ) (around : Surroundings)
    (config : Config.AppConfig) : Command → Ending × σ
  | .filter json file => (filter around.disk around.places config.engine json file, s)
  | .service command =>
    match clientOf config with
    | .error e => (.fail e, s)
    | .ok client =>
      (command.plan around.disk around.places config.engine).run (Client.answer network client) s

/-- Runs a command that was read. -/
def runInvocation (network : σ → Request → Exchange × σ) (s : σ) (around : Surroundings)
    (log : Log) (invocation : Invocation) : Exit × σ :=
  let loaded := Config.load around.disk around.places invocation.overrides
  let notes := log.lines (loaded.unknown.map Note.unknownMembers)
  match loaded.result with
  | .error e => ((Exit.ofError (.config e)).after notes, s)
  | .ok config =>
    let (ending, s) := carryOut network s around config invocation.command
    ((Exit.ofResult ending.result).after (notes ++ log.lines (ending.dropped.map Note.dropped)), s)

/-- Runs the program over a network that has a state. -/
def run (network : σ → Request → Exchange × σ) (s : σ) (found : Surroundings)
    (arguments : List String) : Exit × σ :=
  let environment := found.environment.complete found.disk found.places.current
  let around := { found with environment }
  let log := Log.ofRequest (Log.request environment)
  let (exit, s) :=
    match Invocation.read environment arguments with
    | .error stop => (Exit.ofStop stop, s)
    | .ok invocation => runInvocation network s around log invocation
  (exit.after log.complaints, s)

end SearchIndex.CommandLine
