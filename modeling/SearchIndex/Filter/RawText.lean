import SearchIndex.Filter.Literal
import SearchIndex.Filter.Operator
import SearchIndex.Text.Classes

/-!
# Text written by callers

Callers may write parts of a filter themselves. Such a text is cut into literals, operator symbols,
words and single characters; symbols become the grammar's words, keywords are put in lower case,
and all else is kept. A text with an `or` outside literals and parentheses is put in parentheses, so
that it stays one condition of the conjunction around it.
-/

namespace SearchIndex.Filter.RawText

/-! ## Tokens -/

/-- A piece of a text written by a caller. -/
inductive Token where
  /-- A string literal with its quotes; it may lack the closing one at the end of the text. -/
  | literal (text : List Char)
  | operator (c : Comparison)
  | word (text : List Char)
  | other (c : Char)
deriving DecidableEq, Repr

/-- The operator symbol that a text starts with, the longest one, and what follows it. -/
def symbol? : List Char → Option (Comparison × List Char)
  | '<' :: '=' :: rest => some (.le, rest)
  | '>' :: '=' :: rest => some (.ge, rest)
  | '<' :: '>' :: rest => some (.ne, rest)
  | '!' :: '=' :: rest => some (.ne, rest)
  | '=' :: '=' :: rest => some (.eq, rest)
  | '=' :: rest => some (.eq, rest)
  | '<' :: rest => some (.lt, rest)
  | '>' :: rest => some (.gt, rest)
  | _ => none

/-- A character that may start a word. -/
def startsWord (c : Char) : Bool :=
  Text.isAlphabetic c || c == '_'

/-- A character that may continue a word. -/
def continuesWord (c : Char) : Bool :=
  Text.isAlphanumeric c || c == '_'

/-- The first token of a text that starts with `c`, and what follows it. -/
def firstToken (c : Char) (rest : List Char) : Token × List Char :=
  if c = '\'' then (.literal (c :: (Literal.scan rest).1), (Literal.scan rest).2)
  else
    match symbol? (c :: rest) with
    | some (op, after) => (.operator op, after)
    | none =>
      if startsWord c then
        (.word (c :: rest.takeWhile continuesWord), rest.dropWhile continuesWord)
      else (.other c, rest)

/-- The tokens of a text. Every token takes a character, so the length bounds their number. -/
def tokensWithin : (fuel : Nat) → List Char → List Token
  | 0, _ => []
  | _ + 1, [] => []
  | fuel + 1, c :: rest => (firstToken c rest).1 :: tokensWithin fuel (firstToken c rest).2

/-- The tokens of a text. -/
def tokens (cs : List Char) : List Token :=
  tokensWithin cs.length cs

/-! ## Normal form -/

/-- The words of the grammar that are known in any case. They are ASCII, and no letter beyond ASCII
has one of theirs as its lower-case form. -/
def keywords : List String :=
  ["and", "or", "not", "eq", "ne", "gt", "ge", "lt", "le", "null", "true", "false"]

/-- A word in its normal form: a keyword in lower case, any other word as it is. -/
def normalWord (word : List Char) : List Char :=
  let lower := word.map Char.toLower
  if keywords.contains (String.ofList lower) then lower else word

/-- The characters of a token in normal form, apart from the spaces around operators. -/
def Token.render : Token → List Char
  | .literal text => text
  | .operator c => c.word.toList
  | .word text => normalWord text
  | .other c => [c]

/-- An operator needs a space before it: something precedes it that is neither white space nor an
opening parenthesis. -/
def spaceBefore : (last : Option Char) → List Char
  | none => []
  | some c => if Text.isBlank c || c == '(' then [] else [' ']

/-- An operator needs a space after it: something follows it that is neither white space nor a
closing parenthesis. -/
def spaceAfter : (next : List Token) → List Char
  | [] => []
  | .other c :: _ => if Text.isBlank c || c == ')' then [] else [' ']
  | _ :: _ => [' ']

/-- Writes tokens behind a last character. -/
def renderFrom : (last : Option Char) → List Token → List Char
  | _, [] => []
  | last, t :: rest =>
    let text :=
      match t with
      | .operator _ => spaceBefore last ++ t.render ++ spaceAfter rest
      | _ => t.render
    -- The last character written decides on the space before the next operator.
    text ++ renderFrom (text.getLast?.or last) rest

/-- The normal form of a text. -/
def normalize (cs : List Char) : List Char :=
  renderFrom none (tokens cs)

/-! ## Disjunctions -/

/-- A character of a name: names include dots and may start with a digit. -/
def inName (c : Char) : Bool :=
  Text.isAlphanumeric c || c == '_' || c == '.'

/-- The name is the word `or` in any case. -/
def isOr (name : List Char) : Bool :=
  name.map Char.toLower == ['o', 'r']

/-- There is an `or` outside literals and parentheses, with `depth` parentheses open. Every step
takes a character, so the length bounds the steps. -/
def hasOrWithin : (fuel depth : Nat) → List Char → Bool
  | 0, _, _ => false
  | _ + 1, _, [] => false
  | fuel + 1, depth, c :: rest =>
    if c = '\'' then hasOrWithin fuel depth (Literal.scan rest).2
    else if c = '(' then hasOrWithin fuel (depth + 1) rest
    -- A closing parenthesis too many leaves the depth at zero.
    else if c = ')' then hasOrWithin fuel (depth - 1) rest
    else if inName c then
      depth == 0 && isOr (c :: rest.takeWhile inName) ||
        hasOrWithin fuel depth (rest.dropWhile inName)
    else hasOrWithin fuel depth rest

/-- The scan goes on behind a literal. -/
theorem hasOrWithin_literal (text : List Char) {rest : List Char} (hrest : rest.head? ≠ some '\'')
    (fuel depth : Nat) :
    hasOrWithin (fuel + 1) depth ('\'' :: (Literal.escape text ++ '\'' :: rest)) =
      hasOrWithin fuel depth rest := by
  rw [hasOrWithin, if_pos rfl, Literal.scan_escape_append text rest hrest]

/-- At a name the scan looks whether it is an `or` outside of parentheses. -/
theorem hasOrWithin_name {c : Char} (hname : inName c = true) (fuel depth : Nat)
    (rest : List Char) : hasOrWithin (fuel + 1) depth (c :: rest) =
      (depth == 0 && isOr (c :: rest.takeWhile inName) ||
        hasOrWithin fuel depth (rest.dropWhile inName)) := by
  have hmarks : c ≠ '\'' ∧ c ≠ '(' ∧ c ≠ ')' := by
    refine ⟨?_, ?_, ?_⟩ <;> rintro rfl <;> cases hname
  simp only [hasOrWithin, hmarks, hname, if_false, if_true]

/-- There is an `or` outside literals and parentheses. -/
def hasOr (cs : List Char) : Bool :=
  hasOrWithin cs.length 0 cs

/-- The text, in parentheses if it would bind looser than the conjunction around it. -/
def enclose (cs : List Char) : List Char :=
  if hasOr cs then '(' :: cs ++ [')'] else cs

end SearchIndex.Filter.RawText
