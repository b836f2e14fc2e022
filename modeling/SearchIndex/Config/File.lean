import SearchIndex.Config.Reader
import SearchIndex.Text.Pieces

/-!
# Configuration files

A configuration file is an object with a section for the service, one for filters, one for deleted
records, and the definitions of indexes. Every field of a section may be left out or null. Other
members are read and noted, since they are likely to be misspelt.
-/

namespace SearchIndex.Config

open Json (Step Members)

/-! ## Sections -/

/-- How to reach the service. -/
structure SearchSection where
  endpoint : Option String := none
  apiKey : Option String := none
  apiVersion : Option String := none
  timeoutSecs : Option Nat := none
deriving DecidableEq, Repr

/-- How filters are read and compiled. -/
structure FilterSection where
  maxDepth : Option Nat := none
  strict : Option Bool := none
deriving DecidableEq, Repr

/-- How deleted records are marked. -/
structure SoftDeleteSection where
  enabled : Option Bool := none
  column : Option String := none
  marker : Option String := none
deriving DecidableEq, Repr

/-- A configuration file. A section may be missing as a whole. -/
structure File where
  search : Option SearchSection := none
  filters : Option FilterSection := none
  softDelete : Option SoftDeleteSection := none
  indexes : Option Members := none
  unknown : Members := []

/-! ## Reading -/

/-- A field that may be null. -/
def optionalField {ρ α : Type} (name : String) (read : List Char → Step α)
    (set : Option α → ρ → ρ) : FieldReader ρ where
  name := name
  read text := Step.map set (readOptional read text)

/-- The fields of the section for the service. -/
def searchSection : RecordType SearchSection where
  name := "struct SearchFileConfig"
  empty := {}
  fields := [
    optionalField "endpoint" readText fun v s => { s with endpoint := v },
    optionalField "api_key" readText fun v s => { s with apiKey := v },
    optionalField "api_version" readText fun v s => { s with apiVersion := v },
    optionalField "timeout_secs" (readCount "u64") fun v s => { s with timeoutSecs := v }]

/-- The fields of the section for filters. -/
def filterSection : RecordType FilterSection where
  name := "struct FiltersFileConfig"
  empty := {}
  fields := [
    optionalField "max_depth" (readCount "usize") fun v s => { s with maxDepth := v },
    optionalField "strict" readBool fun v s => { s with strict := v }]

/-- The fields of the section for deleted records. -/
def softDeleteSection : RecordType SoftDeleteSection where
  name := "struct SoftDeleteFileConfig"
  empty := {}
  fields := [
    optionalField "enabled" readBool fun v s => { s with enabled := v },
    optionalField "column" readText fun v s => { s with column := v },
    optionalField "marker" readText fun v s => { s with marker := v }]

/-- The levels of containers that are left inside the file's own object. -/
def roomInFile : Nat := Json.depthLimit - 1

/-- The members of a file. -/
def fileFields : List (FieldReader File) := [
  optionalField "search" (readRecord searchSection) fun v f => { f with search := v },
  optionalField "filters" (readRecord filterSection) fun v f => { f with filters := v },
  optionalField "soft_delete" (readRecord softDeleteSection) fun v f => { f with softDelete := v },
  optionalField "index_settings" (readObject (roomInFile - 1)) fun v f => { f with indexes := v }]

/-- Reads a file, which must be an object. -/
def readFile (text : List Char) : Step File :=
  match Json.skipSpace text with
  | '\x7b' :: rest =>
    readFields fileFields
      (fun name text =>
        Step.map (fun v f => { f with unknown := f.unknown.set name v })
          (Json.readValue roomInFile text))
      (rest.length + 1) true [] {} rest
  | rest => mismatch "struct FileConfig" rest

/-- The file of a text. -/
def parseFile (text : String) : Except Json.Fault File :=
  let whole := text.toList
  match readFile whole with
  | .error stop => .error (stop.fault whole)
  | .ok (file, rest) =>
    match Json.readEnd rest with
    | .error stop => .error (stop.fault whole)
    | .ok () => .ok file

/-! ## Layers -/

/-- The section with the fields of another where it has none itself. -/
def SearchSection.over (top bottom : SearchSection) : SearchSection where
  endpoint := top.endpoint.or bottom.endpoint
  apiKey := top.apiKey.or bottom.apiKey
  apiVersion := top.apiVersion.or bottom.apiVersion
  timeoutSecs := top.timeoutSecs.or bottom.timeoutSecs

/-- The section with the fields of another where it has none itself. -/
def FilterSection.over (top bottom : FilterSection) : FilterSection where
  maxDepth := top.maxDepth.or bottom.maxDepth
  strict := top.strict.or bottom.strict

/-- The section with the fields of another where it has none itself. -/
def SoftDeleteSection.over (top bottom : SoftDeleteSection) : SoftDeleteSection where
  enabled := top.enabled.or bottom.enabled
  column := top.column.or bottom.column
  marker := top.marker.or bottom.marker

/-- A section laid over another, where either may be missing; `empty` has no field. -/
def overSection {α : Type} (lay : α → α → α) (empty : α) (top bottom : Option α) : Option α :=
  match top with
  | none => bottom
  | some given => some (lay given (bottom.getD empty))

/-- One file laid over another: fields of sections and definitions of indexes win one by one. -/
def File.over (top bottom : File) : File where
  search := overSection SearchSection.over {} top.search bottom.search
  filters := overSection FilterSection.over {} top.filters bottom.filters
  softDelete := overSection SoftDeleteSection.over {} top.softDelete bottom.softDelete
  indexes :=
    overSection (fun top bottom => Members.setAll bottom top) [] top.indexes bottom.indexes
  unknown := bottom.unknown

/-- The names of the members that no file has, unless there are none. -/
def File.unknownNames? (file : File) : Option String :=
  match file.unknown.names with
  | [] => none
  | names => some (Text.joinWith ", " names)

end SearchIndex.Config
