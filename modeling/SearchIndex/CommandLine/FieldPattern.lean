import SearchIndex.Text.Classes
import SearchIndex.Text.Hexadecimal

/-!
# Patterns for the values of fields

A directive may ask for a value of a field by a pattern, which is a regular expression. No note is ever
judged by its values, so all that counts is whether a text is a pattern. A reader takes the unread
text and gives what is left of it, or nothing if the text is no pattern. What follows an opening brace
is never closed, because a closing one ends the directive; so a brace outside of brackets is an error.
-/

namespace SearchIndex.CommandLine.FieldPattern

/-- Why a text is no pattern that can be used. -/
inductive Fault where
  | malformed
  /-- It asks for the edge of a word. -/
  | wordEdge
deriving DecidableEq, Repr

/-- The fault in words. -/
def Fault.message : Fault → String
  | .malformed => "error building NFA"
  | .wordEdge =>
    "unsupported regex feature for DFAs: cannot build DFAs for regexes with Unicode word " ++
      "boundaries; switch to ASCII word boundaries, or heuristically enable Unicode word " ++
      "boundaries or use a different regex engine"

/-! ## Escapes -/

/-- What an escape stands for. -/
inductive Escape where
  | character (c : Char)
  /-- One of several characters. -/
  | oneOf
  /-- An end of the text. -/
  | textEdge
  | wordEdge
deriving DecidableEq, Repr

/-- The escapes by a letter for single characters. -/
def controlEscapes : List (Char × Char) :=
  [('a', '\x07'), ('f', '\x0c'), ('t', '\t'), ('n', '\n'), ('r', '\r'), ('v', '\x0b')]

/-- The escapes by a letter for a code, with the number of its hexadecimal digits. -/
def codeEscapes : List (Char × Nat) :=
  [('x', 2), ('u', 4), ('U', 8)]

/-- Reads the code of an escape. -/
def readCode? (count : Nat) (text : List Char) : Option (Escape × List Char) :=
  match (text.take count).mapM Text.hexValue? with
  | none => none
  | some digits =>
    let code := digits.foldl (fun n d => 16 * n + d) 0
    if digits.length = count ∧ code.isValidChar then
      some (.character (Char.ofNat code), text.drop count)
    else none

/-- Reads an escape behind its backslash. -/
def readEscape? : List Char → Option (Escape × List Char)
  | [] => none
  | c :: rest =>
    match codeEscapes.lookup c, controlEscapes.lookup c with
    | some count, _ => readCode? count rest
    | none, some control => some (.character control, rest)
    | none, none =>
      if "dDsSwW".toList.contains c then some (.oneOf, rest)
      else if c = 'p' ∨ c = 'P' then
        -- A class of characters is named by its first letter.
        match rest with
        | name :: rest => if "CLMNPSZ".toList.contains name.toUpper then some (.oneOf, rest) else none
        | [] => none
      else if c = 'A' ∨ c = 'z' then some (.textEdge, rest)
      else if "bB<>".toList.contains c then some (.wordEdge, rest)
      else if c.toNat < 0x80 ∧ !c.isAlphanum then some (.character c, rest)
      else none

/-! ## Sets of characters -/

/-- Reads the beginning of a set behind its bracket, where a hyphen and a closing bracket stand for
themselves. -/
def openSet (text : List Char) : List Char :=
  let text := if text.head? = some '^' then text.tail else text
  match text with
  | '-' :: _ => text.dropWhile (· == '-')
  | ']' :: rest => rest
  | _ => text

/-- The names of sets that are written between colons in a bracket of their own. -/
def namedSets : List String :=
  ["alnum", "alpha", "ascii", "blank", "cntrl", "digit", "graph", "lower", "print", "punct",
    "space", "upper", "word", "xdigit"]

/-- Reads a named set behind its bracket, if there is one. -/
def readNamedSet? : List Char → Option (List Char)
  | ':' :: rest =>
    let rest := if rest.head? = some '^' then rest.tail else rest
    match rest.span (· != ':') with
    | (name, ':' :: ']' :: rest) =>
      if namedSets.contains (String.ofList name) then some rest else none
    | _ => none
  | _ => none

/-- Reads a member of a set: one character, or none if the member stands for several. -/
def readMember? : List Char → Option (Option Char × List Char)
  | [] => none
  | '\\' :: rest =>
    match readEscape? rest with
    | some (.character c, rest) => some (some c, rest)
    | some (.oneOf, rest) => some (none, rest)
    | _ => none
  | c :: rest => some (some c, rest)

/-- Reads a member of a set, or a range of characters. -/
def readRange? (text : List Char) : Option (List Char) :=
  match readMember? text with
  | some (low, '-' :: rest) =>
    if rest.head? = some ']' ∨ rest.head? = some '-' then some ('-' :: rest)
    else
      match low, readMember? rest with
      | some low, some (some high, rest) => if low ≤ high then some rest else none
      | _, _ => none
  | some (_, rest) => some rest
  | none => none

/-- Reads members until as many sets are closed as are open. -/
def readSet? : (fuel : Nat) → (opened : Nat) → List Char → Option (List Char)
  | _, 0, text => some text
  | 0, _, _ => none
  | _, _, [] => none
  | fuel + 1, opened + 1, c :: rest =>
    if c = ']' then readSet? fuel opened rest
    else if c = '[' then
      match readNamedSet? rest with
      | some rest => readSet? fuel (opened + 1) rest
      | none => readSet? fuel (opened + 2) (openSet rest)
    -- A sign that is written twice joins two sets.
    else if rest.head? = some c ∧ (c = '&' ∨ c = '-' ∨ c = '~') then
      readSet? fuel (opened + 1) rest.tail
    else
      match readRange? (c :: rest) with
      | some rest => readSet? fuel (opened + 1) rest
      | none => none

/-! ## Groups -/

/-- The letters that switch something on or off. -/
def isFlag (c : Char) : Bool :=
  "imsUuxR".toList.contains c

/-- Flags, each once, of which the last ones may stand behind a hyphen. -/
def areFlags (flags : List Char) : Bool :=
  let letters := flags.filter (· != '-')
  letters.all isFlag && letters.eraseDups.length == letters.length &&
    flags.length ≤ letters.length + 1 && flags.getLast? != some '-'

/-- A name for what a group is found at. -/
def isName (name : List Char) : Bool :=
  match name with
  | [] => false
  | c :: rest =>
    let begins (c : Char) : Bool := c == '_' || Text.isAlphabetic c
    begins c && rest.all fun c =>
      begins c || Text.isAlphanumeric c || c == '.' || c == '[' || c == ']'

/-- Reads the name of a group behind its bracket. -/
def readName? (text : List Char) : Option (List Char) :=
  match text.span (· != '>') with
  | (name, '>' :: rest) => if isName name then some rest else none
  | _ => none

/-- Reads the beginning of a group behind its parenthesis. What is read may be all of it, if it only sets
flags. -/
def openGroup? : List Char → Option (Bool × List Char)
  | '?' :: 'P' :: '<' :: rest => (readName? rest).map fun rest => (true, rest)
  | '?' :: '<' :: rest => (readName? rest).map fun rest => (true, rest)
  | '?' :: rest =>
    match rest.span fun c => c != ':' && c != ')' with
    | (flags, ':' :: rest) => if areFlags flags then some (true, rest) else none
    | (flags, ')' :: rest) =>
      if areFlags flags && !flags.isEmpty then some (false, rest) else none
    | _ => none
  | rest => some (true, rest)

/-! ## Patterns -/

/-- Reads a pattern with groups open. `repeatable` tells that something stands before what may be
repeated. Gives whether an edge of a word is asked for. -/
def readFrom : (fuel : Nat) → (groups : Nat) → (repeatable : Bool) → List Char → Option Bool
  | _, groups, _, [] => if groups = 0 then some false else none
  | 0, _, _, _ => none
  | fuel + 1, groups, repeatable, c :: rest =>
    if c = '(' then
      match openGroup? rest with
      | some (isOpen, rest) => readFrom fuel (if isOpen then groups + 1 else groups) false rest
      | none => none
    else if c = ')' then
      if groups = 0 then none else readFrom fuel (groups - 1) true rest
    else if c = '|' then readFrom fuel groups false rest
    else if c = '*' ∨ c = '+' ∨ c = '?' then
      -- A question mark behind makes the repetition as short as can be.
      if repeatable then
        readFrom fuel groups true (if rest.head? = some '?' then rest.tail else rest)
      else none
    else if c = '\x7b' then none
    else if c = '[' then
      match readSet? (rest.length + 1) 1 (openSet rest) with
      | some rest => readFrom fuel groups true rest
      | none => none
    else if c = '\\' then
      match readEscape? rest with
      | some (e, rest) => (readFrom fuel groups true rest).map (e == .wordEdge || ·)
      | none => none
    else readFrom fuel groups true rest

/-! ## Values -/

/-- An exponent, which may be missing. -/
def isExponent : List Char → Bool
  | [] => true
  | mark :: rest =>
    let digits := if rest.head? = some '+' ∨ rest.head? = some '-' then rest.tail else rest
    mark.toLower == 'e' && !digits.isEmpty && digits.all Char.isDigit

/-- A number without a sign. -/
def isNumber (text : List Char) : Bool :=
  let word := String.ofList (text.map Char.toLower)
  let (whole, rest) := text.span Char.isDigit
  let (fraction, rest) :=
    match rest with
    | '.' :: rest => rest.span Char.isDigit
    | _ => ([], rest)
  word == "inf" || word == "infinity" || word == "nan" ||
    (!(whole.isEmpty && fraction.isEmpty) && isExponent rest)

/-- Why a text asks for no value, unless it does. A number with a plus sign is no pattern, yet it asks
for a value. -/
def fault? (text : List Char) : Option Fault :=
  if text.head? = some '+' ∧ isNumber text.tail then none
  else
    match readFrom (text.length + 1) 0 false text with
    | none => some .malformed
    | some true => some .wordEdge
    | some false => none

end SearchIndex.CommandLine.FieldPattern
