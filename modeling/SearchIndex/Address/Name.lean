import SearchIndex.Address.NameTable
import SearchIndex.Address.Punycode
import SearchIndex.Text.Composition
import SearchIndex.Text.Direction
import SearchIndex.Text.Joining
import SearchIndex.Text.Pieces

/-!
# Names of hosts

A name is a row of labels with points between. It is put in a plain form, in which names that look the
same are the same, and a label with letters beyond ASCII is written in ASCII behind `xn--`. Some names
could be mistaken for others when they are shown and are refused: a label must not start with a mark,
joiners must stand where they have an effect, and letters of both directions must not mix.
-/

namespace SearchIndex.Address

open Text (Direction Joining)

/-! ## Characters -/

/-- A character of ASCII that no name has. -/
def isDenied (c : Char) : Bool :=
  c.toNat ≤ 0x20 || c.toNat == 0x7F || c == '%' || c == '#' || c == '/' || c == ':' || c == '<' ||
    c == '>' || c == '?' || c == '@' || c == '[' || c == '\\' || c == ']' || c == '^' || c == '|'

/-- The plain form of a name. -/
def plainName? (name : List Char) : Option (List Char) :=
  (name.mapM plainForm?).map fun forms => Text.compose forms.flatten

/-! ## Joiners -/

/-- The first character that is not transparent is joined to the one next to it on the given side. -/
def meets (side : Joining) (cs : List Char) : Bool :=
  match (cs.map Text.joining).dropWhile (· == .transparent) with
  | [] => false
  | j :: _ => j == .dual || j == side

/-- The character before is a mark that kills a vowel. -/
def endsInVirama (before : List Char) : Bool :=
  before.head?.any fun c => Text.combiningClass c == Text.viramaClass

/-- The joiners behind the characters `before`, the last of which comes first, have an effect. A joiner
does behind a mark that kills a vowel; one that keeps letters apart also does between letters that are
joined. -/
def joinersFit : (before after : List Char) → Bool
  | _, [] => true
  | before, c :: after =>
    (if c.toNat = 0x200D then endsInVirama before
      else if c.toNat = 0x200C then
        endsInVirama before || (meets .left before && meets .right after)
      else true) && joinersFit (c :: before) after

/-! ## Directions -/

/-- The letter or number is written from right to left or goes along with what is. -/
def isRightward (c : Char) : Bool :=
  Text.direction c == .right || Text.direction c == .arabicNumber

/-- A label that is shown beside letters written from right to left keeps to one direction: the one of
its first character, which is a letter. Marks at its end do not count. -/
def keepsDirection (label : List Char) : Bool :=
  match label.map Text.direction with
  | [] => true
  | first :: rest =>
    let backward := rest.reverse.dropWhile (· == .mark)
    match first with
    | .left =>
      backward.all (fun d => d != .right && d != .arabicNumber) &&
        backward.head?.all fun d => d == .left || d == .europeanNumber
    | .right =>
      backward.all (· != .left) &&
        (backward.head?.all fun d => d == .right || d == .europeanNumber || d == .arabicNumber) &&
        !(backward.contains .europeanNumber && backward.contains .arabicNumber)
    | _ => false

/-! ## Labels -/

/-- A label of a name. -/
structure Label where
  /-- The label as it is shown. -/
  letters : List Char
  /-- The label in ASCII. -/
  ascii : List Char
deriving DecidableEq, Repr

namespace Label

/-- What a label in ASCII starts with if it stands for one with other letters. -/
def mark : List Char :=
  ['x', 'n', '-', '-']

/-- The letters beyond ASCII do not mislead within the label. -/
def isSound (letters : List Char) : Bool :=
  !letters.head?.any Text.isMark && joinersFit [] letters

/-- The length of a label to which its form in ASCII is read. -/
def maxCoded : Nat := 2000

/-- The length of a label to which its form in ASCII is made. -/
def maxLetters : Nat := 1000

/-- The label that stands for what is behind the mark. The letters must be in plain form. -/
def ofCode? (code : List Char) : Option Label :=
  if code.isEmpty || code.getLast? == some '-' || maxCoded < code.length ||
      code.any (0x80 ≤ ·.toNat) then none
  else
    match Punycode.decode? code with
    | none => none
    | some letters =>
      if letters.all isPlain && !letters.any isDenied && Text.isComposed letters && isSound letters then
        some ⟨letters, mark ++ code⟩
      else none

/-- Reads a label in plain form. -/
def ofPlain? (letters : List Char) : Option Label :=
  if mark.isPrefixOf letters then ofCode? (letters.drop mark.length)
  else if letters.any isDenied then none
  else if letters.all (·.toNat < 0x80) then some ⟨letters, letters⟩
  else if isSound letters && letters.length ≤ maxLetters then
    some ⟨letters, mark ++ Punycode.encode letters⟩
  else none

end Label

/-! ## Names -/

/-- The labels of a name. -/
def labels? (name : List Char) : Option (List Label) :=
  match plainName? name with
  | none => none
  | some plain =>
    match (Text.pieces (· == '.') plain).mapM Label.ofPlain? with
    | none => none
    | some labels =>
      -- Directions count only if something is written from right to left.
      if labels.any (fun l => l.letters.any isRightward) &&
          !labels.all (fun l => keepsDirection l.letters) then none
      else some labels

/-- A name in ASCII. -/
def asciiName? (name : List Char) : Option (List Char) :=
  (labels? name).map fun labels => ['.'].intercalate (labels.map Label.ascii)

end SearchIndex.Address
