import SearchIndex.Files.Disk
import SearchIndex.Text.Classes
import SearchIndex.Text.Pieces

/-!
# Environment variables

The environment gives each name at most one value, and a default never replaces a value that is set.

A file of variables has a binding on each line. A value may stand in single quotes, where nothing
is special, or in double quotes; a backslash takes the next character as it is, a dollar sign puts
in the value of a variable, and quotes may run over several lines. Reading stops at the first line
that is no binding, and keeps those before it.
-/

namespace SearchIndex.CommandLine

/-! ## The environment -/

/-- The environment: names with their values. -/
structure Variables where
  bindings : List (String × String) := []
deriving DecidableEq, Repr

namespace Variables

/-- The value of a variable. -/
def get? (vars : Variables) (name : String) : Option String :=
  vars.bindings.lookup name

/-- Sets a variable unless it is set. -/
def setDefault (vars : Variables) (name value : String) : Variables :=
  match vars.get? name with
  | some _ => vars
  | none => ⟨(name, value) :: vars.bindings⟩

end Variables

/-! ## Lines -/

/-- Where in a line the reader is. -/
inductive Quoting where
  | plain
  /-- After a blank, where a comment may start. -/
  | blank
  | escape
  | single
  | singleEscape
  | double
  | doubleEscape
deriving DecidableEq, Repr

/-- What a character outside quotes leads to. -/
def Quoting.start (c : Char) : Quoting :=
  if c = '\\' then .escape else if c = '"' then .double else if c = '\'' then .single else .plain

/-- Where the reader is after one more character. -/
def Quoting.next (c : Char) : Quoting → Quoting
  | .plain =>
    -- The end of a line is no blank, so no comment starts behind it.
    if Text.isBlank c && c != '\n' && c != '\r' then .blank else Quoting.start c
  | .blank => Quoting.start c
  | .escape => .plain
  | .single => if c = '\\' then .singleEscape else if c = '\'' then .plain else .single
  | .singleEscape => .single
  | .double => if c = '\\' then .doubleEscape else if c = '"' then .plain else .double
  | .doubleEscape => .double

/-- Reads a line to its end or to a comment: what is before it, and where the reader is at the end. -/
def readToEnd : Quoting → List Char → List Char × Option Quoting
  | q, [] => ([], some q)
  | q, c :: rest =>
    if q = .blank ∧ c = '#' then ([], none)
    else
      let (kept, last) := readToEnd (q.next c) rest
      (c :: kept, last)

/-- A line without the line feed at its end, and the carriage return before that. -/
def withoutLineEnd (line : List Char) : List Char :=
  match line.reverse with
  | '\n' :: '\r' :: rest => rest.reverse
  | '\n' :: rest => rest.reverse
  | _ => line

/-- Joins the lines that belong together because a quote is open. What is unfinished at the end is
dropped. -/
def joinLines : (before : List Char) → Quoting → List (List Char) → List (List Char)
  | _, _, [] => []
  | before, q, line :: rest =>
    -- A line that is all comment has no quotes to open.
    if (Text.trimStart (before ++ line)).head? = some '#' then joinLines [] .plain rest
    else
      match readToEnd q line with
      | (kept, none) => (before ++ kept) :: joinLines [] .plain rest
      | (kept, some .plain) => withoutLineEnd (before ++ kept) :: joinLines [] .plain rest
      | (kept, some q') => joinLines (before ++ kept) q' rest

/-! ## Values -/

/-- Where in a value the reader is. In a name it is between double quotes or not. -/
inductive ValueState where
  | bare
  | double
  | single
  | escape (inDouble : Bool)
  | name (inDouble : Bool) (sofar : List Char)
  | braced (inDouble : Bool) (sofar : List Char)
  /-- After the value, where only a comment may follow. -/
  | after
deriving DecidableEq, Repr

namespace ValueState

/-- Back from an escape or a name. -/
def back (inDouble : Bool) : ValueState :=
  if inDouble then .double else .bare

end ValueState

/-- The value of a variable in another value; without one it is empty. -/
def substitution (vars : Variables) (name : List Char) : List Char :=
  ((vars.get? (String.ofList name)).getD "").toList

/-- The characters that a backslash takes as they are. -/
def isEscapable (c : Char) : Bool :=
  c == '\\' || c == '\'' || c == '"' || c == '$' || c == ' '

/-- Reads a value; `none` is a malformed one. -/
def readValueText (vars : Variables) : ValueState → List Char → Option (List Char)
  | .bare, [] => some []
  | .after, [] => some []
  | .escape inDouble, [] => if inDouble then none else some []
  | .name inDouble name, [] => if inDouble then none else some (substitution vars name)
  | .double, [] => none
  | .single, [] => none
  | .braced _ _, [] => none
  | .bare, c :: rest =>
    if c = '$' then readValueText vars (.name false []) rest
    else if c = '\'' then readValueText vars .single rest
    else if c = '"' then readValueText vars .double rest
    else if c = '\\' then readValueText vars (.escape false) rest
    else if c = ' ' ∨ c = '\t' then readValueText vars .after rest
    else (readValueText vars .bare rest).map (c :: ·)
  | .double, c :: rest =>
    if c = '$' then readValueText vars (.name true []) rest
    else if c = '"' then readValueText vars .bare rest
    else if c = '\\' then readValueText vars (.escape true) rest
    else (readValueText vars .double rest).map (c :: ·)
  | .single, c :: rest =>
    if c = '\'' then readValueText vars .bare rest
    else (readValueText vars .single rest).map (c :: ·)
  | .escape inDouble, c :: rest =>
    if isEscapable c then (readValueText vars (.back inDouble) rest).map (c :: ·)
    else if c = 'n' then (readValueText vars (.back inDouble) rest).map ('\n' :: ·)
    else none
  | .name inDouble name, c :: rest =>
    if Text.isAlphanumeric c then readValueText vars (.name inDouble (name ++ [c])) rest
    else if c = '{' ∧ name = [] then readValueText vars (.braced inDouble []) rest
    else if c = '$' then
      -- The mark ends one name and starts the next.
      (readValueText vars (.name inDouble []) rest).map (substitution vars name ++ ·)
    else (readValueText vars (.back inDouble) rest).map (substitution vars name ++ c :: ·)
  | .braced inDouble name, c :: rest =>
    if c = '}' then
      (readValueText vars (.back inDouble) rest).map (substitution vars name ++ ·)
    else readValueText vars (.braced inDouble (name ++ [c])) rest
  | .after, c :: rest =>
    if c = ' ' ∨ c = '\t' then readValueText vars .after rest
    else if c = '#' then some []
    else none

/-! ## Bindings -/

/-- What a line holds. -/
inductive Line where
  | nothing
  | binding (name value : String)
  | malformed
deriving DecidableEq, Repr

/-- A name and what follows it. -/
def readVariableName (cs : List Char) : Option (List Char × List Char) :=
  match cs with
  | [] => none
  | c :: _ =>
    if c.isAlpha || c == '_' then
      some (cs.span fun c => c.isAlphanum || c == '_' || c == '.')
    else none

/-- What follows an equals sign. -/
def afterEquals : List Char → Option (List Char)
  | '=' :: rest => some rest
  | _ => none

/-- A name and what follows the equals sign after it. The word `export` may stand before a name; right
before the equals sign it is a name itself. -/
def readAssignment (cs : List Char) : Option (List Char × List Char) :=
  match readVariableName cs with
  | none => none
  | some (name, rest) =>
    match afterEquals (Text.trimStart rest) with
    | some value => some (name, value)
    | none =>
      if name = "export".toList then
        match readVariableName (Text.trimStart rest) with
        | none => none
        | some (name, rest) => (afterEquals (Text.trimStart rest)).map (name, ·)
      else none

/-- A line that is blank or a comment. -/
def isIdle (cs : List Char) : Bool :=
  cs.isEmpty || cs.head? == some '#'

/-- Reads a line, where values may refer to variables. -/
def readLine (vars : Variables) (line : List Char) : Line :=
  let start := Text.trimStart (Text.trimEnd line)
  if isIdle start then .nothing
  else
    match readAssignment start with
    | none => .malformed
    | some (name, rest) =>
      let value := Text.trimStart rest
      if isIdle value then .binding (String.ofList name) ""
      else
        match readValueText vars .bare value with
        | none => .malformed
        | some text => .binding (String.ofList name) (String.ofList text)

/-- Sets the variables of some lines that are not set. -/
def Variables.setLines (vars : Variables) : List (List Char) → Variables
  | [] => vars
  | line :: rest =>
    match readLine vars line with
    | .nothing => setLines vars rest
    | .binding name value => setLines (vars.setDefault name value) rest
    | .malformed => vars

/-! ## Files -/

/-- Cuts bytes after each line feed. -/
def byteLines : List UInt8 → List (List UInt8)
  | [] => []
  | b :: rest =>
    if b = 0x0A then [b] :: byteLines rest
    else
      match byteLines rest with
      | [] => [[b]]
      | line :: lines => (b :: line) :: lines

/-- The lines up to the first that is no text. -/
def textLines : List (List UInt8) → List (List Char)
  | [] => []
  | line :: rest =>
    match String.fromUTF8? ⟨line.toArray⟩ with
    | some text => text.toList :: textLines rest
    | none => []

/-- Bytes without a byte order mark. -/
def withoutMark : List UInt8 → List UInt8
  | 0xEF :: 0xBB :: 0xBF :: rest => rest
  | bytes => bytes

/-- Sets the variables of a file that are not set. -/
def Variables.setFile (vars : Variables) (bytes : ByteArray) : Variables :=
  vars.setLines (joinLines [] .plain (textLines (byteLines (withoutMark bytes.toList))))

/-- The name of a file of variables. -/
def variableFileName : String := ".env"

/-- The paths where the file may be: in the current directory or in one above it. -/
def variableFilePaths (current : String) : List String :=
  let parts := Files.Tree.components current
  (List.range (parts.length + 1)).reverse.map fun n =>
    Files.within ("/" ++ Text.joinWith "/" (parts.take n)) variableFileName

/-- The first file under some paths. -/
def firstFile? (disk : Files.Disk) : List String → Option ByteArray
  | [] => none
  | path :: rest =>
    match disk.read path with
    | .ok bytes => some bytes
    -- What is no file is passed over, and what cannot be read ends the search.
    | .error .missing => firstFile? disk rest
    | .error .isDirectory => firstFile? disk rest
    | .error _ => none

/-- The maximal runs of characters that pass a test. -/
def runs (test : Char → Bool) : List Char → List (List Char)
  | [] => [[]]
  | c :: rest =>
    if test c then
      match runs test rest with
      | [] => [[c]]
      | first :: others => (c :: first) :: others
    else [] :: runs test rest

/-- The names that a file may bind or refer to, and some words beside them. -/
def namesIn (bytes : ByteArray) : List String :=
  let text := (textLines (byteLines bytes.toList)).flatten
  let words := runs (fun c => Text.isAlphanumeric c || c == '_' || c == '.') text ++
    runs Text.isAlphanumeric text
  (words.filter fun w => !w.isEmpty).map String.ofList

/-- Sets the variables of the nearest file that are not set. -/
def Variables.complete (vars : Variables) (disk : Files.Disk) (current : String) : Variables :=
  match firstFile? disk (variableFilePaths current) with
  | some bytes => vars.setFile bytes
  | none => vars

end SearchIndex.CommandLine
