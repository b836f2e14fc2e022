import SearchIndex.CommandLine.Invocation
import SearchIndex.CommandLine.VariableFile

/-!
# Reading a command line

Arguments are read from left to right. A value that stands apart from its option waits until the
next argument that makes use of it is read, and is checked then. A command ends its level and starts
the one below; what is wrong below is found before what is wrong at the levels above.

An argument is a long option, perhaps with a value after an equals sign, a cluster of short options,
the mark after which all arguments are positional, or plain.
-/

namespace SearchIndex.CommandLine

/-! ## Forms of an argument -/

/-- The form of an argument. -/
inductive Argument where
  /-- Two dashes alone: what follows is positional. -/
  | mark
  | long (name : String) (value : Option String)
  /-- One dash and what follows it, which is not empty. -/
  | short (letters : List Char)
  | plain
deriving DecidableEq, Repr

namespace Argument

/-- A long option from what follows its dashes. -/
def longOf (cs : List Char) : Argument :=
  match cs.span (· != '=') with
  | (name, []) => .long (String.ofList name) none
  | (name, _ :: value) => .long (String.ofList name) (some (String.ofList value))

/-- The form of a text. A dash alone is plain. -/
def ofText (text : String) : Argument :=
  match text.toList with
  | ['-', '-'] => .mark
  | '-' :: '-' :: rest => longOf rest
  | '-' :: c :: rest => .short (c :: rest)
  | _ => .plain

end Argument

/-! ## Reading one level -/

/-- How far a level is read. -/
structure State where
  /-- What was given so far, in order. -/
  given : List Entry := []
  /-- A parameter that is not yet among them, with its value if that has come. -/
  waiting : Option (Parameter × Option String) := none
  /-- The positional arguments that may still come. -/
  positionals : List Parameter
  /-- All further arguments are positional. -/
  onlyPositional : Bool := false

namespace State

/-- The start of a level. -/
def start (level : Level) : State :=
  { positionals := level.positionals }

/-- An option waits for its value. -/
def awaited? (s : State) : Option Parameter :=
  match s.waiting with
  | some (p, none) => some p
  | _ => none

end State

/-- Reads the value of a parameter. -/
def entry (p : Parameter) (text : String) : Except Stop Entry :=
  match p.kind.read text with
  | .ok value => .ok ⟨p, value⟩
  | .error .noValue => .error (.noValue p)
  | .error (.badValue reason) => .error (.badValue p text reason)

/-- Adds a parameter with its value to what was given. -/
def addValue (given : List Entry) (p : Parameter) (text : Option String) :
    Except Stop (List Entry) :=
  match text with
  | none => .error (.noValue p)
  | some text =>
    -- A repeated parameter is reported even if its second value is bad.
    if isGiven p given && !p.isRepeatable then .error (.repeated p)
    else (entry p text).map fun e => given ++ [e]

/-- Adds a flag to what was given. Help and the version stop the reading. -/
def addFlag (level : Level) (given : List Entry) (p : Parameter) : Except Stop (List Entry) :=
  match p with
  | .help => .error (.help level)
  | .version => .error .version
  | p =>
    if isGiven p given then .error (.repeated p)
    else (entry p "").map fun e => given ++ [e]

/-- Adds what waits to what was given. -/
def State.settle (s : State) : Except Stop State :=
  match s.waiting with
  | none => .ok s
  | some (p, text) => (addValue s.given p text).map fun given => { s with given, waiting := none }

/-- Takes an option with its value. -/
def takeValue (s : State) (p : Parameter) (text : String) : Except Stop State :=
  match s.settle with
  | .error stop => .error stop
  | .ok s => (addValue s.given p (some text)).map fun given => { s with given }

/-- Takes an option whose value is to follow. -/
def takeOption (s : State) (p : Parameter) : Except Stop State :=
  s.settle.map fun s => { s with waiting := some (p, none) }

/-- Takes a flag. -/
def takeFlag (level : Level) (s : State) (p : Parameter) : Except Stop State :=
  match s.settle with
  | .error stop => .error stop
  | .ok s => (addFlag level s.given p).map fun given => { s with given }

/-- Takes a long option. -/
def takeLong (level : Level) (s : State) (name : String) (value : Option String) :
    Except Stop State :=
  match level.long? name with
  | none => .error (.unknownArgument ("--" ++ name))
  | some p =>
    match p.kind, value with
    | .flag, none => takeFlag level s p
    | .flag, some text => .error (.surplusValue p text)
    | _, none => takeOption s p
    | _, some text => takeValue s p text

/-- Takes a cluster of short options. The first that has a value takes the rest of the cluster, without
an equals sign before it. -/
def takeShort (level : Level) (s : State) : List Char → Except Stop State
  | [] => .ok s
  | letter :: rest =>
    match level.short? letter with
    | none => .error (.unknownArgument (String.ofList ['-', letter]))
    | some p =>
      match p.kind, rest with
      | .flag, _ =>
        match takeFlag level s p with
        | .error stop => .error stop
        -- A flag leaves the rest of the cluster to more letters.
        | .ok s => takeShort level s rest
      | _, [] => takeOption s p
      | _, '=' :: text => takeValue s p (String.ofList text)
      | _, text => takeValue s p (String.ofList text)

/-- What is said of an argument that has no place. -/
def misplaced (level : Level) (s : State) (argument : String) : Stop :=
  if level.needsCommand && !(s.onlyPositional && level.isCommand argument) then
    .unknownCommand argument
  else .unknownArgument argument

/-- Takes a positional argument. -/
def takePositional (level : Level) (s : State) (argument : String) : Except Stop State :=
  match s.positionals with
  -- What waits is not checked here: the argument without a place counts more.
  | [] => .error (misplaced level s argument)
  | p :: rest =>
    s.settle.map fun s => { s with waiting := some (p, some argument), positionals := rest }

/-- Takes an argument that is no command. -/
def takeArgument (level : Level) (s : State) (argument : String) : Except Stop State :=
  if s.onlyPositional then takePositional level s argument
  else
    match Argument.ofText argument with
    | .mark => .ok { s with onlyPositional := true }
    | .long name value => takeLong level s name value
    | .short letters => takeShort level s letters
    | .plain =>
      -- The value is only kept here. It is read when the next argument settles it.
      match s.awaited? with
      | some p => .ok { s with waiting := some (p, some argument) }
      | none => takePositional level s argument

/-! ## The end of a level -/

/-- A level that was read, with those below it: what was given, the deepest level first, and what the
environment gives instead. -/
structure Parsed where
  command : Command
  given : List Entry
  assumed : List Entry

/-- Reads the variables that stand in for parameters that were not given. -/
def assume (vars : Variables) (given : List Entry) : List Parameter → Except Stop (List Entry)
  | [] => .ok []
  | p :: rest =>
    match p.environmentName?.bind vars.get? with
    | none => assume vars given rest
    | some text =>
      if isGiven p given then assume vars given rest
      else
        match entry p text with
        | .error stop => .error stop
        | .ok e => (assume vars given rest).map (e :: ·)

/-- The first parameter that was given along with its rival. -/
def rivals? (given : List Entry) : Option (Parameter × Parameter) :=
  given.findSome? fun e =>
    match e.parameter.rival? with
    | none => none
    | some rival => if isGiven rival given then some (e.parameter, rival) else none

/-- The value of a parameter that must be given. -/
def require (p : Parameter) (given : List Entry) : Except Stop p.kind.Value :=
  match firstValue? p given with
  | some value => .ok value
  | none => .error (.missingArgument p)

/-- The command that does something with the named index. -/
def indexCommand (action : IndexAction) (given : List Entry) : Except Stop Command :=
  (require .name given).map fun name => .service (.index action name)

/-- The command of a level from what was given at it. -/
def commandOf (level : Level) (given : List Entry) : Except Stop Command :=
  match level with
  | .program => .error (.missingCommand level)
  | .index => .error (.missingCommand level)
  | .filter => .ok (.filter (firstValue? .json given) (firstValue? .file given))
  | .search =>
    (require .index given).map fun index =>
      .service (.search {
        index
        query := (firstValue? .query given).getD "*"
        filter := firstValue? .filter given
        top := firstValue? .top given
        page := firstValue? .page given
        orders := values .order given })
  | .upload =>
    match require .index given, require .file given with
    | .error stop, _ => .error stop
    | _, .error stop => .error stop
    | .ok index, .ok file =>
      .ok (.service (.upload {
        index
        file
        key := firstValue? .key given
        delete := isGiven .delete given }))
  | .createIndex => indexCommand .create given
  | .deleteIndex => indexCommand .delete given
  | .flushIndex => indexCommand .flush given

/-- What a level without a command below it comes to. -/
def closeAlone (level : Level) (given assumed : List Entry) : Except Stop Parsed :=
  if level.needsCommand && given.isEmpty && assumed.isEmpty then .error (.helpInstead level)
  else
    match rivals? given with
    | some (first, second) => .error (.rivals first second)
    | none => (commandOf level given).map fun command => ⟨command, given, assumed⟩

/-- Closes a level, of which what is below was read. -/
def closeLevel (vars : Variables) (level : Level) (s : State) (below : Option Parsed) :
    Except Stop Parsed :=
  match s.settle with
  | .error stop => .error stop
  | .ok s =>
    -- Each level reads the environment for itself, whatever the levels around it were given.
    match assume vars s.given level.options with
    | .error stop => .error stop
    | .ok assumed =>
      match below with
      | none => closeAlone level s.given assumed
      | some p => .ok ⟨p.command, p.given ++ s.given, p.assumed ++ assumed⟩

/-! ## Reading all levels -/

/-- The help for the command of some words. -/
def helpFor (level : Level) : List String → Stop
  | [] => .help level
  | word :: rest =>
    match level.command? word with
    | some below => helpFor below rest
    | none =>
      if level.needsCommand && word == helpCommand then
        match rest with
        | [] => .help level
        | word :: _ => .unknownCommand word
      else .unknownCommand word

/-- Reads arguments from a level on. -/
def readLevel (vars : Variables) : Level → State → List String → Except Stop Parsed
  | level, s, [] => closeLevel vars level s none
  | level, s, argument :: rest =>
    if !s.onlyPositional && s.awaited?.isNone && level.isCommand argument then
      match level.command? argument with
      | none => .error (helpFor level rest)
      | some below =>
        -- What waits at this level is settled after all that is below.
        match readLevel vars below (State.start below) rest with
        | .error stop => .error stop
        | .ok parsed => closeLevel vars level s (some parsed)
    else
      match takeArgument level s argument with
      | .error stop => .error stop
      | .ok s => readLevel vars level s rest

/-- The settings of a run: what was given counts before what the environment gives, and a deeper level
before a higher one. -/
def overridesOf (entries : List Entry) : Config.Overrides where
  endpoint := firstValue? .endpoint entries
  apiKey := firstValue? .apiKey entries
  apiVersion := firstValue? .apiVersion entries
  timeout := firstValue? .timeout entries
  config := firstValue? .config entries
  maxDepth := firstValue? .maxDepth entries
  lenient := isGiven .lenient entries

/-- Reads a command line, without the name of the program. -/
def Invocation.read (vars : Variables) (arguments : List String) : Except Stop Invocation :=
  (readLevel vars .program (State.start .program) arguments).map fun parsed =>
    ⟨overridesOf (parsed.given ++ parsed.assumed), parsed.command⟩

end SearchIndex.CommandLine
