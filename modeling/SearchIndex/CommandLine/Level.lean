import SearchIndex.CommandLine.Parameter

/-!
# Levels of the command line

A command line is read level by level: the program itself, then a command, then for indexes what to
do with one. Each level has parameters of its own and knows the commands below it; the settings of
a run and the call for help are known at every level.
-/

namespace SearchIndex.CommandLine

/-- The name of the program. -/
def programName : String := "azscout"

/-- The version of the program. -/
def programVersion : String := "0.1.0"

/-- The command that shows help for the commands named after it. -/
def helpCommand : String := "help"

/-- A level of the command line. -/
inductive Level where
  | program
  | filter
  | search
  | upload
  | index
  | createIndex
  | deleteIndex
  | flushIndex
deriving DecidableEq, Repr

namespace Level

/-- The settings of a run, in the order in which the environment stands in for them. -/
def settings : List Parameter :=
  [.endpoint, .apiKey, .apiVersion, .timeout, .config, .maxDepth, .lenient]

/-- The level's own options and flags. -/
def ownOptions : Level → List Parameter
  | program => [.version]
  | filter => [.file]
  | search => [.query, .filter, .top, .page, .order]
  | upload => [.file, .key, .delete]
  | index => []
  | createIndex => []
  | deleteIndex => []
  | flushIndex => []

/-- All options and flags that are known at the level. -/
def options (level : Level) : List Parameter :=
  level.ownOptions ++ settings ++ [.help]

/-- The positional arguments, in order. -/
def positionals : Level → List Parameter
  | program => []
  | filter => [.json]
  | search => [.index]
  | upload => [.index]
  | index => []
  | createIndex => [.name]
  | deleteIndex => [.name]
  | flushIndex => [.name]

/-- The commands below the level, by name. -/
def commands : Level → List (String × Level)
  | program => [("filter", filter), ("search", search), ("upload", upload), ("index", index)]
  | index => [("create", createIndex), ("delete", deleteIndex), ("flush", flushIndex)]
  | _ => []

/-- A command has to follow. -/
def needsCommand (level : Level) : Bool :=
  !level.commands.isEmpty

/-- The command of a name. -/
def command? (level : Level) (word : String) : Option Level :=
  level.commands.lookup word

/-- The word names a command, help among them. -/
def isCommand (level : Level) (word : String) : Bool :=
  level.needsCommand && (word == helpCommand || (level.command? word).isSome)

/-- The option of a long name. -/
def long? (level : Level) (word : String) : Option Parameter :=
  level.options.find? fun p => p.long == word

/-- The option of a letter. -/
def short? (level : Level) (letter : Char) : Option Parameter :=
  level.options.find? fun p => p.short? == some letter

/-- The words that lead to the level. -/
def words : Level → List String
  | program => [programName]
  | filter => [programName, "filter"]
  | search => [programName, "search"]
  | upload => [programName, "upload"]
  | index => [programName, "index"]
  | createIndex => [programName, "index", "create"]
  | deleteIndex => [programName, "index", "delete"]
  | flushIndex => [programName, "index", "flush"]

/-- What the level is for. -/
def description : Level → String
  | program => "Azure AI Search filter compiler and index tool"
  | filter => "Compile JSON predicates into a filter expression"
  | search => "Search an index"
  | upload => "Merge-or-upload (or delete) documents from a JSON file"
  | index => "Index management commands"
  | createIndex => "Create an index from its configured settings"
  | deleteIndex => "Delete an index"
  | flushIndex => "Delete an index and recreate it from configured settings"

end Level

end SearchIndex.CommandLine
