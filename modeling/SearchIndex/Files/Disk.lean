import SearchIndex.Files.Path
import SearchIndex.Json.Reader

/-!
# Reading files

A disk answers for each absolute path what reading it gives. A tree of directories and files is one
such disk: it is walked from the root component by component.
-/

namespace SearchIndex.Files

/-- Why a path cannot be read. -/
inductive ReadFault where
  | missing
  | isDirectory
  | notDirectory
  | nameTooLong
  | nulInName
  | notText
deriving DecidableEq, Repr

/-- The fault in words. -/
def ReadFault.message : ReadFault → String
  | .missing => "No such file or directory (os error 2)"
  | .isDirectory => "Is a directory (os error 21)"
  | .notDirectory => "Not a directory (os error 20)"
  | .nameTooLong => "File name too long (os error 36)"
  | .nulInName => "file name contained an unexpected NUL byte"
  | .notText => "stream did not contain valid UTF-8"

/-- What the files hold: the bytes under an absolute path, or why there are none. -/
structure Disk where
  read : String → Except ReadFault ByteArray

namespace Disk

/-- There is something under the path. -/
def has (disk : Disk) (path : String) : Bool :=
  match disk.read path with
  | .ok _ => true
  | .error .isDirectory => true
  | .error _ => false

/-- The text under the path. -/
def readText (disk : Disk) (path : String) : Except ReadFault String :=
  match disk.read path with
  | .error fault => .error fault
  | .ok bytes =>
    match String.fromUTF8? bytes with
    | some text => .ok text
    | none => .error .notText

end Disk

/-! ## Files named on the command line -/

/-- The text of a file that a user names, or the error in words, the outermost part first. -/
def readInput (disk : Disk) (places : Places) (path : String) : Except (List String) String :=
  let absolute := expand places path
  match disk.readText absolute with
  | .ok text => .ok text
  | .error fault => .error ["Failed to read file: " ++ absolute, fault.message]

/-- The JSON value of a file that a user names. -/
def readJson (disk : Disk) (places : Places) (path : String) : Except (List String) Json.Value :=
  match readInput disk places path with
  | .error e => .error e
  | .ok text =>
    match Json.parse text with
    | .ok v => .ok v
    | .error fault => .error ["Failed to parse JSON file: " ++ path, fault.message]

/-! ## Trees -/

/-- A file or a directory. -/
inductive Entry where
  | file (bytes : ByteArray)
  | directory

/-- A tree: what there is under each path from the root, given by its components. -/
structure Tree where
  entries : List (List String × Entry)

namespace Tree

/-- The tree with nothing but the root. -/
def empty : Tree := ⟨[([], .directory)]⟩

/-- What there is under a path. -/
def find? (tree : Tree) (components : List String) : Option Entry :=
  tree.entries.lookup components

/-- The components of a path without empty ones. -/
def components (path : String) : List String :=
  (path.splitOn "/").filter (· != "")

/-- Puts an entry under a path, and directories on the way to it where there is nothing. -/
def put (tree : Tree) (path : List String) (entry : Entry) : Tree :=
  let parents := (List.range path.length).map path.take
  let missing := parents.filter fun p => (tree.find? p).isNone
  ⟨(path, entry) :: missing.map (·, .directory) ++ tree.entries⟩

/-- The longest name of a file, in bytes. -/
def maxName : Nat := 255

/-- The longest path, in bytes, with its end mark. -/
def maxPath : Nat := 4096

/-- Walks on from a place. Each step, also one that stays, is taken from a directory. -/
def walk (tree : Tree) : (place : List String) → (steps : List String) → Except ReadFault Entry
  | place, [] =>
    match tree.find? place with
    | some entry => .ok entry
    | none => .error .missing
  | place, step :: rest =>
    match tree.find? place with
    | none => .error .missing
    | some (.file _) => .error .notDirectory
    | some .directory =>
      if step = "" ∨ step = "." then walk tree place rest
      -- Above the root is the root.
      else if step = ".." then walk tree place.dropLast rest
      else if maxName < step.utf8ByteSize then .error .nameTooLong
      else walk tree (place ++ [step]) rest

/-- The disk of a tree. -/
def disk (tree : Tree) : Disk where
  read path :=
    if path.toList.contains '\x00' then .error .nulInName
    else if maxPath ≤ path.utf8ByteSize then .error .nameTooLong
    else
      match walk tree [] (path.splitOn "/") with
      | .error fault => .error fault
      | .ok .directory => .error .isDirectory
      | .ok (.file bytes) => .ok bytes

end Tree

end SearchIndex.Files
