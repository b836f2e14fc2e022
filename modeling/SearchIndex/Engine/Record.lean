import SearchIndex.Engine.Query

/-!
# Records

A record is kept in an index as a document under a key. A batch for the index names an action in
each of its documents: to merge or upload the document, or to delete it.
-/

namespace SearchIndex.Engine

open Json (Value Members)

/-- A record as the index holds it. -/
structure Record where
  index : String
  /-- The member of the document that holds the key. -/
  keyName : String
  key : Value
  /-- The members of the document; a record without any is not indexed. -/
  fields : Members

/-- The key's member when none is named. -/
def defaultKeyName : String := "id"

/-- The member of a document that names its action. -/
def actionName : String := "@search.action"

namespace Record

/-- The document that brings the record into the index, if it has any fields. -/
def upload? (r : Record) : Option Value :=
  if r.fields.isEmpty then none
  else some (.object ((r.fields.set actionName (.string "mergeOrUpload")).set r.keyName r.key))

/-- The document that takes the record out of the index. -/
def removal (r : Record) : Value :=
  .object (Members.set r.keyName r.key [(actionName, .string "delete")])

end Record

/-- A query of the index that holds a record. -/
def Query.ofRecord (r : Record) (text : String) : Query :=
  { index := r.index, text }

/-! ## Records from a JSON array -/

/-- Why a value is no list of records. -/
inductive RecordFault where
  | notArray
  | notObject (position : Nat)
  | noKey (position : Nat) (keyName : String)
deriving DecidableEq, Repr

/-- The fault in words. -/
def RecordFault.message : RecordFault → String
  | .notArray => "Expected a JSON array of documents"
  | .notObject position =>
    "Document " ++ String.ofList (Decimal.naturalDigits position) ++ " is not a JSON object"
  | .noKey position keyName =>
    "Document " ++ String.ofList (Decimal.naturalDigits position) ++ " has no '" ++ keyName ++
      "' key field"

/-- The record of one document, which must be an object with a key that is not null. -/
def Record.ofValue (index keyName : String) (position : Nat) : Value → Except RecordFault Record
  | .object fields =>
    match Members.get? fields keyName with
    | none => .error (.noKey position keyName)
    | some .null => .error (.noKey position keyName)
    | some key => .ok ⟨index, keyName, key, fields⟩
  | _ => .error (.notObject position)

/-- The records of documents, the first of which has this position. -/
def Record.ofItems (index keyName : String) : (position : Nat) → List Value →
    Except RecordFault (List Record)
  | _, [] => .ok []
  | position, item :: rest =>
    match Record.ofValue index keyName position item with
    | .error fault => .error fault
    | .ok r => (Record.ofItems index keyName (position + 1) rest).map (r :: ·)

/-- The records of an array of documents. -/
def Record.ofArray (index keyName : String) : Value → Except RecordFault (List Record)
  | .array items => Record.ofItems index keyName 0 items
  | _ => .error .notArray

end SearchIndex.Engine
