import SearchIndex.Filter.Compile

/-!
# Search queries

A query asks one index for the records that match a text and a filter, in an order and up to a
limit. Options are further members of the request; what the query sets itself wins over them.
-/

namespace SearchIndex.Engine

open Json (Value Members)
open SearchIndex.Filter (Predicate Scalar)

/-! ## Order -/

/-- The direction of an order. -/
inductive SortDirection where
  | asc
  | desc
deriving DecidableEq, Repr

namespace SortDirection

/-- The word for a direction. -/
def word : SortDirection → String
  | .asc => "asc"
  | .desc => "desc"

/-- The direction of a word, whose case and surrounding white space do not count. -/
def parse? (s : String) : Option SortDirection :=
  let key := Text.lowercase (Text.trim s)
  if key = "asc" then some .asc else if key = "desc" then some .desc else none

/-- What is said of a word that names no direction. -/
def unknownMessage (s : String) : String :=
  "Invalid sort direction '" ++ s ++ "'. Valid options: asc, desc"

end SortDirection

/-- A column to order by. -/
structure OrderClause where
  column : String
  direction : SortDirection
deriving DecidableEq, Repr

/-- The clause as it is sent. -/
def OrderClause.text (c : OrderClause) : String :=
  c.column ++ " " ++ c.direction.word

/-! ## Queries -/

/-- A search of one index. -/
structure Query where
  index : String
  /-- The text to search for; a star finds every record. -/
  text : String
  predicates : List Predicate := []
  orders : List OrderClause := []
  limit : Option Nat := none
  options : Members := []

namespace Query

/-- Asks for one more predicate to hold. -/
def filtered (q : Query) (p : Predicate) : Query :=
  { q with predicates := q.predicates ++ [p] }

/-- Asks for a column to equal a value. -/
def equal (q : Query) (column : String) (value : Scalar) : Query :=
  q.filtered (.basic column (.comparison .eq) value)

/-- Asks for a column to compare with a value. -/
def compare (q : Query) (column : String) (operator : Filter.Operator) (value : Scalar) : Query :=
  q.filtered (.basic column operator value)

/-- Asks for a column to equal one of the members. -/
def isIn (q : Query) (column : String) (members : List Scalar) : Query :=
  q.filtered (.isIn column members)

/-- Asks for a column to equal none of the members. -/
def isNotIn (q : Query) (column : String) (members : List Scalar) : Query :=
  q.filtered (.isNotIn column members)

/-- Orders by one more column. -/
def orderBy (q : Query) (column : String) (direction : SortDirection) : Query :=
  { q with orders := q.orders ++ [⟨column, direction⟩] }

/-- Asks for so many records at most. -/
def take (q : Query) (limit : Nat) : Query :=
  { q with limit := some limit }

/-- Sets an option. -/
def option (q : Query) (name : String) (value : Value) : Query :=
  { q with options := q.options.set name value }

/-- The order as it is sent, if there is one. -/
def orderText? (q : Query) : Option String :=
  match q.orders with
  | [] => none
  | orders => some (Text.joinWith ", " (orders.map OrderClause.text))

end Query

end SearchIndex.Engine
