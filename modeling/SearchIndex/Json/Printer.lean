import SearchIndex.Json.Value
import SearchIndex.Text.Hexadecimal

/-!
# The text of JSON values

The compact form has no white space; the indented form puts each item on a line of its own, two
spaces deeper than its container, with empty containers kept together.
-/

namespace SearchIndex.Json

open Text (hexDigit)

/-! ## Strings -/

/-- One character of a string. Quotes, backslashes and controls are escaped, and nothing else. -/
def escapeChar (c : Char) : List Char :=
  if c = '"' then ['\\', '"']
  else if c = '\\' then ['\\', '\\']
  else if c = '\x08' then ['\\', 'b']
  else if c = '\x0c' then ['\\', 'f']
  else if c = '\n' then ['\\', 'n']
  else if c = '\r' then ['\\', 'r']
  else if c = '\t' then ['\\', 't']
  else if c.toNat < 0x20 then ['\\', 'u', '0', '0', hexDigit (c.toNat / 16), hexDigit c.toNat]
  else [c]

/-- A string between its quotes. -/
def renderString (s : String) : List Char :=
  '"' :: s.toList.flatMap escapeChar ++ ['"']

/-! ## The compact form -/

mutual

/-- The compact form of a value. -/
def Value.render : Value → List Char
  | .null => ['n', 'u', 'l', 'l']
  | .bool true => ['t', 'r', 'u', 'e']
  | .bool false => ['f', 'a', 'l', 's', 'e']
  | .number n => n.render
  | .string s => renderString s
  | .array [] => ['[', ']']
  | .array (v :: rest) => '[' :: v.render ++ renderItems rest ++ [']']
  | .object [] => ['\x7b', '\x7d']
  | .object ((name, v) :: rest) =>
    '\x7b' :: renderString name ++ ':' :: v.render ++ renderMembers rest ++ ['\x7d']

/-- The items after the first, each behind a comma. -/
def renderItems : List Value → List Char
  | [] => []
  | v :: rest => ',' :: v.render ++ renderItems rest

/-- The members after the first, each behind a comma. -/
def renderMembers : List (String × Value) → List Char
  | [] => []
  | (name, v) :: rest => ',' :: renderString name ++ ':' :: v.render ++ renderMembers rest

end

/-- The compact form of a value. -/
def Value.text (v : Value) : String :=
  String.ofList v.render

/-! ## The indented form -/

/-- A line break and the indentation of a level. -/
def newline (level : Nat) : List Char :=
  '\n' :: List.replicate (2 * level) ' '

mutual

/-- The indented form of a value that stands at a level. -/
def Value.indented (level : Nat) : Value → List Char
  | .array [] => ['[', ']']
  | .array (v :: rest) =>
    '[' :: newline (level + 1) ++ v.indented (level + 1) ++ indentedItems (level + 1) rest ++
      newline level ++ [']']
  | .object [] => ['\x7b', '\x7d']
  | .object ((name, v) :: rest) =>
    '\x7b' :: newline (level + 1) ++ renderString name ++ [':', ' '] ++ v.indented (level + 1) ++
      indentedMembers (level + 1) rest ++ newline level ++ ['\x7d']
  | .null => Value.render .null
  | .bool b => Value.render (.bool b)
  | .number n => Value.render (.number n)
  | .string s => Value.render (.string s)

/-- The items after the first, each behind a comma and on its own line. -/
def indentedItems (level : Nat) : List Value → List Char
  | [] => []
  | v :: rest => ',' :: newline level ++ v.indented level ++ indentedItems level rest

/-- The members after the first, each behind a comma and on its own line. -/
def indentedMembers (level : Nat) : List (String × Value) → List Char
  | [] => []
  | (name, v) :: rest =>
    ',' :: newline level ++ renderString name ++ [':', ' '] ++ v.indented level ++
      indentedMembers level rest

end

/-- The indented form of a value. -/
def Value.indentedText (v : Value) : String :=
  String.ofList (v.indented 0)

end SearchIndex.Json
