/-!
# Counts

A count is written in decimal digits, perhaps behind a plus sign, and stays below a bound.
-/

namespace SearchIndex.CommandLine

/-- Why a text is no count. -/
inductive CountFault where
  | empty
  | badDigit
  | tooLarge
deriving DecidableEq, Repr

/-- The fault in words. -/
def CountFault.message : CountFault → String
  | .empty => "cannot parse integer from empty string"
  | .badDigit => "invalid digit found in string"
  | .tooLarge => "number too large to fit in target type"

/-- Counts stay below this number. -/
def countBound : Nat := 0x10000000000000000

/-- Reads digits after the number so far. The first fault from the left counts. -/
def readDigits (number : Nat) : List Char → Except CountFault Nat
  | [] => .ok number
  | c :: rest =>
    if c.isDigit then
      let next := 10 * number + (c.toNat - '0'.toNat)
      if next < countBound then readDigits next rest else .error .tooLarge
    else .error .badDigit

/-- Reads a count: at least one digit, after an optional plus sign. -/
def readCount (text : String) : Except CountFault Nat :=
  match text.toList with
  | [] => .error .empty
  | ['+'] => .error .badDigit
  | '+' :: digits => readDigits 0 digits
  | digits => readDigits 0 digits

end SearchIndex.CommandLine
