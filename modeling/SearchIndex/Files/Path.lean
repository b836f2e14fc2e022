import SearchIndex.Text.Classes

/-!
# Paths

A path that a user writes may start at the home directory, with a tilde, or at the current
directory. Expansion makes it absolute.
-/

namespace SearchIndex.Files

/-- The directories that relative paths start from. -/
structure Places where
  home : String
  current : String
deriving DecidableEq, Repr

/-- The path starts at the root. -/
def isAbsolute (path : List Char) : Bool :=
  path.head? == some '/'

/-- A path seen from a directory; an absolute path stays as it is. -/
def join (directory path : List Char) : List Char :=
  if isAbsolute path then path
  else if directory.getLast? == some '/' || directory.isEmpty then directory ++ path
  else directory ++ '/' :: path

/-- The absolute path that a user means. Surrounding white space does not count, a blank path is the
current directory, and a tilde that stands alone or before a slash is the home directory. -/
def expand (places : Places) (path : String) : String :=
  match (Text.trim path).toList with
  | [] => places.current
  | cs =>
    let expanded :=
      match cs with
      | ['~'] => places.home.toList
      | '~' :: '/' :: rest => join places.home.toList rest
      | _ => cs
    String.ofList (join places.current.toList expanded)

/-- A file in a directory. -/
def within (directory name : String) : String :=
  String.ofList (join directory.toList name.toList)

end SearchIndex.Files
