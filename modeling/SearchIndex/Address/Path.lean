import SearchIndex.Address.Percent
import SearchIndex.Text.Pieces

/-!
# Paths

A path is a row of segments, each behind a slash. In its standard form no segment stands for its own
directory or for the one above: these are carried out, where the letter of a drive stays as it is.
-/

namespace SearchIndex.Address

/-- A segment of a path. -/
abbrev Segment := List Char

namespace Segment

/-- The segment stands for its own directory. -/
def isDot (s : Segment) : Bool :=
  s == ['.'] || s.map Char.toLower == ['%', '2', 'e']

/-- The segment stands for the directory above. -/
def isDoubleDot (s : Segment) : Bool :=
  match s with
  | ['.', '.'] => true
  | '.' :: rest => isDot rest
  | '%' :: a :: b :: rest => isDot ['%', a, b] && isDot rest
  | _ => false

/-- The segment is the letter of a drive. -/
def isDrive (s : Segment) : Bool :=
  match s with
  | [letter, mark] => letter.isAlpha && (mark == ':' || mark == '|')
  | _ => false

/-- The segment with a colon behind its letter, if it is the letter of a drive. -/
def plainDrive (s : Segment) : Segment :=
  if s.isDrive then s.take 1 ++ [':'] else s

end Segment

namespace Path

/-- The segments without the last one, which comes first and stays if it is the letter of a drive. -/
def up : List Segment → List Segment
  | [] => []
  | s :: kept => if s.isDrive then s :: kept else kept

/-- Adds a segment to those before it, the last of which comes first. The first segment may be the
letter of a drive where `drives` says so. -/
def add (drives : Bool) (kept : List Segment) (s : Segment) : List Segment :=
  if s.isDot then kept
  else if s.isDoubleDot then up kept
  else (if drives && kept.isEmpty then s.plainDrive else s) :: kept

/-- Segments behind those before them, in order and in standard form. A segment at the end that stands
for a directory leaves the slash behind that. -/
def resolve (drives : Bool) (kept : List Segment) : List Segment → List Segment
  | [] => kept.reverse
  | [s] =>
    let kept := add drives kept s
    (if s.isDot || s.isDoubleDot then [] :: kept else kept).reverse
  | s :: rest => resolve drives (add drives kept s) rest

/-- The segments of a path, where a slash at its start may be missing. -/
def segments (isSlash : Char → Bool) (path : List Char) : List Segment :=
  Text.pieces isSlash
    (match path with
    | c :: rest => if isSlash c then rest else path
    | [] => [])

/-- The text of segments. -/
def text (segments : List Segment) : List Char :=
  segments.flatMap fun s => '/' :: encode specialInPath s

/-! ## Laws -/

/-- The segment stands for no directory. -/
def IsProper (s : Segment) : Prop :=
  s.isDot = false ∧ s.isDoubleDot = false

theorem isProper_nil : IsProper [] := ⟨rfl, rfl⟩

end Path

end SearchIndex.Address
