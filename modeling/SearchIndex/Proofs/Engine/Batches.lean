import SearchIndex.Engine.Operations
import SearchIndex.Proofs.Json.Objects

/-!
# Batches

What the engine sends to bring records into an index and to take them out. Each document of a batch
is made by setting two members: the action, and then the key under its name, which is the record's
own. So the key is in the document in any case, and the action is in it unless the key has just that
name. Then what the service finds for the action is the key (`calls_update_and_delete`).
-/

namespace SearchIndex.Engine

open Json (Value Members)

/-! ## Documents -/

/-- The document of a record in a batch for the action, with these fields of the record. The key has
the last word on what stands under its name. -/
structure IsBatchDocument (action : String) (fields : Members) (r : Record) (document : Value) :
    Prop where
  key : document.member? r.keyName = some r.key
  action : r.keyName ≠ actionName → document.member? actionName = some (.string action)
  others : ∀ name, name ≠ r.keyName → name ≠ actionName →
    document.member? name = fields.get? name

/-- The record's key does not displace the action by something else. -/
def Record.LeavesAction (action : String) (r : Record) : Prop :=
  r.keyName = actionName → r.key = .string action

/-- Fields in which first the action is set and then the key are a document of a batch. -/
theorem isBatchDocument_set (action : String) (fields : Members) (r : Record) :
    IsBatchDocument action fields r
      (.object ((fields.set actionName (.string action)).set r.keyName r.key)) where
  key := Members.get?_set_self _ _ _
  action := fun hname =>
    (Members.get?_set_ne _ _ (Ne.symm hname)).trans (Members.get?_set_self _ _ _)
  others := fun _ hkey haction =>
    (Members.get?_set_ne _ _ hkey).trans (Members.get?_set_ne _ _ haction)

section Batches

variable {action : String} {fields : Members} {r : Record} {document : Value}

/-- A document has the action of its batch unless the key of its record displaces it. -/
theorem IsBatchDocument.action_iff (h : IsBatchDocument action fields r document) :
    document.member? actionName = some (.string action) ↔ r.LeavesAction action := by
  by_cases hname : r.keyName = actionName
  · have hkey := h.key
    rw [hname] at hkey
    rw [hkey, Option.some.injEq, Record.LeavesAction]
    exact ⟨fun heq _ => heq, fun heq => heq hname⟩
  · exact iff_of_true (h.action hname) fun heq => absurd heq hname

/-- All documents of a batch have its action if no key displaces it. -/
theorem forall_action_iff {kept : Record → Members} {records : List Record}
    {documents : List Value}
    (h : List.Forall₂ (fun r => IsBatchDocument action (kept r) r) records documents) :
    (∀ document ∈ documents, document.member? actionName = some (.string action)) ↔
      ∀ r ∈ records, r.LeavesAction action := by
  induction h with
  | nil => exact iff_of_true nofun nofun
  | cons hfirst _ ih => rw [List.forall_mem_cons, List.forall_mem_cons, hfirst.action_iff, ih]

/-! ## Batches of records -/

/-- To bring records into an index, those with fields have a document each. -/
theorem forall₂_filterMap_upload? (records : List Record) :
    List.Forall₂ (fun r => IsBatchDocument "mergeOrUpload" r.fields r)
      (records.filter fun r => !r.fields.isEmpty) (records.filterMap Record.upload?) := by
  induction records with
  | nil => exact .nil
  | cons r rest ih =>
    cases hempty : r.fields.isEmpty with
    | true =>
      have hnone : r.upload? = none := by rw [Record.upload?, hempty]; rfl
      rwa [List.filterMap_cons_none hnone, List.filter_cons_of_neg (by simp [hempty])]
    | false =>
      have hsome : r.upload? = some (.object ((r.fields.set actionName
          (.string "mergeOrUpload")).set r.keyName r.key)) := by rw [Record.upload?, hempty]; rfl
      rw [List.filterMap_cons_some hsome, List.filter_cons_of_pos (by simp [hempty])]
      exact .cons (isBatchDocument_set _ _ r) ih

/-- To take records out of an index, each has a document. -/
theorem forall₂_map_removal (records : List Record) :
    List.Forall₂ (fun r => IsBatchDocument "delete" [] r) records
      (records.map Record.removal) :=
  List.forall₂_map_right_iff.2 (List.forall₂_same.2 fun r _ => isBatchDocument_set "delete" [] r)

variable {σ : Type} (answer : σ → Call → Reply × σ) (s : σ) (first : Record) (rest : List Record)

/-- One batch goes to the index of the first record, for all records that have fields, if there are
any. -/
theorem calls_update : Plan.calls answer s (update (first :: rest)) =
    if ((first :: rest).filterMap Record.upload?).isEmpty then []
    else [.upload first.index ((first :: rest).filterMap Record.upload?)] := by
  rw [update]
  split
  · next hnone =>
    rw [hnone]
    rfl
  · next documents hsome =>
    rw [if_neg (mt List.isEmpty_iff.1 hsome)]
    rfl

/-- A batch has a document for each of the records in turn, without those that have no fields when
records are brought into the index. All documents of it have the action that it is made for if and
only if no record has another key under the name of the action. -/
theorem calls_update_and_delete :
    (∃ documents,
      Plan.calls answer s (update (first :: rest)) =
        (if documents.isEmpty then [] else [.upload first.index documents]) ∧
      List.Forall₂ (fun r => IsBatchDocument "mergeOrUpload" r.fields r)
        ((first :: rest).filter fun r => !r.fields.isEmpty) documents ∧
      ((∀ document ∈ documents,
          document.member? actionName = some (.string "mergeOrUpload")) ↔
        ∀ r ∈ first :: rest, r.fields ≠ [] → r.LeavesAction "mergeOrUpload")) ∧
    ∃ documents,
      Plan.calls answer s (delete (first :: rest)) = [.upload first.index documents] ∧
      List.Forall₂ (fun r => IsBatchDocument "delete" [] r) (first :: rest) documents ∧
      ((∀ document ∈ documents, document.member? actionName = some (.string "delete")) ↔
        ∀ r ∈ first :: rest, r.LeavesAction "delete") := by
  constructor
  · have hall := forall₂_filterMap_upload? (first :: rest)
    refine ⟨_, calls_update answer s first rest, hall, ?_⟩
    rw [forall_action_iff hall]
    refine forall_congr' fun r => ?_
    rw [List.mem_filter, and_imp, Bool.not_eq_true', ← Bool.not_eq_true, List.isEmpty_iff]
  · have hall := forall₂_map_removal (first :: rest)
    exact ⟨_, rfl, hall, forall_action_iff hall⟩

/-- A key under the name of the action makes an update delete, and a deletion upload. -/
theorem exists_displaced_action :
    Plan.calls (fun _ _ => (.ok .null, ())) ()
        (update [⟨"products", actionName, .string "delete", [("id", .string "1")]⟩]) =
      [.upload "products" [.object [("id", .string "1"), (actionName, .string "delete")]]] ∧
    Plan.calls (fun _ _ => (.ok .null, ())) ()
        (delete [⟨"products", actionName, .string "upload", [("id", .string "1")]⟩]) =
      [.upload "products" [.object [(actionName, .string "upload")]]] :=
  ⟨rfl, rfl⟩

end Batches

end SearchIndex.Engine
