import SearchIndex.Proofs.CommandLine.Requests
import SearchIndex.Proofs.Json.Objects

/-!
# What an upload sends

An upload sends all the documents of its file or none. A value that is no array of documents is
refused before anything is sent, and the first item that is no document is named. Otherwise there is
one request for all the documents, or none if there are no documents. Each document stands in it as
it stands in the file, in the same place, its action aside (`upload_sends`). To take the documents
out of the index, their keys alone are sent.
-/

namespace SearchIndex.Engine

open Json (Members Value)

/-! ## Records -/

/-- The value is an object with a key that is not null. -/
def IsDocument (keyName : String) : Value → Prop
  | .object members => ∃ key, Members.get? members keyName = some key ∧ key ≠ .null
  | _ => False

/-- What is wrong with an item that is no document. -/
def RecordFault.ofItem (position : Nat) (keyName : String) : Value → RecordFault
  | .object _ => .noKey position keyName
  | _ => .notObject position

/-- The record of a document. -/
inductive Record.Of (index keyName : String) : Value → Record → Prop
  | mk {members : Members} {key : Value} (hkey : members.get? keyName = some key) :
      Record.Of index keyName (.object members) ⟨index, keyName, key, members⟩

section Records

variable {index keyName : String} {item : Value} {items : List Value} {position : Nat}

/-- A document has a record. -/
theorem exists_ofValue (h : IsDocument keyName item) (position : Nat) :
    ∃ r, Record.ofValue index keyName position item = .ok r ∧ Record.Of index keyName item r := by
  cases item with
  | object members =>
    obtain ⟨key, hkey, hnull⟩ := h
    refine ⟨_, ?_, .mk hkey⟩
    cases key with
    | null => exact absurd rfl hnull
    | _ => simp only [Record.ofValue, hkey]
  | _ => exact h.elim

/-- Any other value is refused. -/
theorem ofValue_of_not_isDocument (h : ¬ IsDocument keyName item) (position : Nat) :
    Record.ofValue index keyName position item = .error (.ofItem position keyName item) := by
  cases item with
  | object members =>
    cases hkey : Members.get? members keyName with
    | none => simp only [Record.ofValue, hkey, RecordFault.ofItem]
    | some key =>
      cases key with
      | null => simp only [Record.ofValue, hkey, RecordFault.ofItem]
      | _ =>
        refine absurd ⟨_, hkey, ?_⟩ h
        intro hnull
        cases hnull
  | _ => rfl

/-- Documents have records, one for one. -/
theorem exists_ofItems (h : ∀ item ∈ items, IsDocument keyName item) (position : Nat) :
    ∃ records, Record.ofItems index keyName position items = .ok records ∧
      List.Forall₂ (Record.Of index keyName) items records := by
  induction items generalizing position with
  | nil => exact ⟨[], rfl, .nil⟩
  | cons item rest ih =>
    obtain ⟨hitem, hrest⟩ := List.forall_mem_cons.1 h
    obtain ⟨r, hr, hof⟩ := exists_ofValue hitem position
    obtain ⟨records, hrecords, hall⟩ := ih hrest (position + 1)
    refine ⟨r :: records, ?_, .cons hof hall⟩
    rw [Record.ofItems, hr]
    simp only [hrecords, Except.map]

/-- The first item that is no document is the one that is named. -/
theorem ofItems_of_not_isDocument {before after : List Value}
    (hbefore : ∀ item ∈ before, IsDocument keyName item) (hitem : ¬ IsDocument keyName item)
    (position : Nat) : Record.ofItems index keyName position (before ++ item :: after) =
      .error (.ofItem (position + before.length) keyName item) := by
  induction before generalizing position with
  | nil =>
    rw [List.nil_append, Record.ofItems, ofValue_of_not_isDocument hitem]
    rfl
  | cons first before ih =>
    obtain ⟨hfirst, hbefore⟩ := List.forall_mem_cons.1 hbefore
    obtain ⟨r, hr, -⟩ := @exists_ofValue index _ _ hfirst position
    rw [List.cons_append, Record.ofItems, hr]
    simp only [ih hbefore, Except.map, List.length_cons, Nat.add_assoc, Nat.add_comm 1]

/-- Items that are not all documents have a first one that is none. -/
theorem exists_first_not_isDocument (h : ∃ item ∈ items, ¬ IsDocument keyName item) :
    ∃ before item after, items = before ++ item :: after ∧
      (∀ d ∈ before, IsDocument keyName d) ∧ ¬ IsDocument keyName item := by
  induction items with
  | nil =>
    obtain ⟨item, hitem, -⟩ := h
    cases hitem
  | cons first rest ih =>
    by_cases hfirst : IsDocument keyName first
    · obtain ⟨item, hitem, hnot⟩ := h
      have hrest : item ∈ rest :=
        (List.mem_cons.1 hitem).resolve_left fun heq => hnot (heq ▸ hfirst)
      obtain ⟨before, item, after, rfl, hbefore, hnot⟩ := ih ⟨item, hrest, hnot⟩
      exact ⟨first :: before, item, after, rfl, List.forall_mem_cons.2 ⟨hfirst, hbefore⟩, hnot⟩
    · exact ⟨[], first, rest, rfl, nofun, hfirst⟩

end Records

/-! ## What is sent of a document -/

/-- What is sent of a document, its action aside: the members that it has, in their order, or its
key alone to take it out of the index. -/
inductive SentAs (keyName : String) : (delete : Bool) → Value → Value → Prop
  | update {members sent : Members} (h : sent.without actionName = members.without actionName) :
      SentAs keyName false (.object members) (.object sent)
  | removal {members sent : Members} {key : Value} (hkey : members.get? keyName = some key)
      (h : sent.without actionName = [(keyName, key)]) :
      SentAs keyName true (.object members) (.object sent)

section Sent

variable {index keyName : String} {item : Value} {r : Record}

/-- The record of a document is brought into the index as the document. -/
theorem exists_upload (h : Record.Of index keyName item r) :
    ∃ document, r.upload? = some document ∧ SentAs keyName false item document := by
  obtain ⟨hkey⟩ := h
  rename_i members key
  have hfields : members.isEmpty = false := by
    cases members with
    | nil => cases hkey
    | cons m rest => rfl
  refine ⟨_, by rw [Record.upload?, hfields]; rfl, .update ?_⟩
  -- The key is in its place already, unless the action has just been put there.
  by_cases hname : keyName = actionName
  · rw [hname, Members.without_set, Members.without_set]
  · rw [Members.set_of_get? ((Members.get?_set_ne members _ hname).trans hkey),
      Members.without_set]

/-- To take the record of a document out of the index, the key of the document is sent. -/
theorem sentAs_removal (h : Record.Of index keyName item r) (hname : keyName ≠ actionName) :
    SentAs keyName true item r.removal := by
  obtain ⟨hkey⟩ := h
  refine .removal hkey ?_
  simp [Members.set, Members.without, hname, Ne.symm hname]

/-- Documents whose records are brought into the index are sent, one for one. -/
theorem exists_filterMap_upload {items : List Value} {records : List Record}
    (h : List.Forall₂ (Record.Of index keyName) items records) :
    ∃ documents, records.filterMap Record.upload? = documents ∧
      List.Forall₂ (SentAs keyName false) items documents := by
  induction h with
  | nil => exact ⟨[], rfl, .nil⟩
  | cons hr _ ih =>
    obtain ⟨document, hdocument, hsent⟩ := exists_upload hr
    obtain ⟨documents, hdocuments, hall⟩ := ih
    exact ⟨document :: documents, by rw [List.filterMap_cons_some hdocument, hdocuments],
      .cons hsent hall⟩

variable {items : List Value} {records : List Record}

/-- Records of documents are brought into the index by one call with all the documents. -/
theorem exists_update_eq (h : List.Forall₂ (Record.Of index keyName) items records)
    (hne : items ≠ []) : ∃ documents,
      update records = (Plan.ask (.upload index documents)).mapResult some ∧
        List.Forall₂ (SentAs keyName false) items documents := by
  obtain ⟨documents, hdocuments, hsent⟩ := exists_filterMap_upload h
  refine ⟨documents, ?_, hsent⟩
  cases h with
  | nil => exact absurd rfl hne
  | cons hfirst _ =>
    cases hsent with
    | cons _ _ =>
      cases hfirst
      simp only [update, hdocuments]

/-- Records of documents are taken out of the index by one call with all the keys. -/
theorem exists_delete_eq (h : List.Forall₂ (Record.Of index keyName) items records)
    (hne : items ≠ []) : ∃ documents,
      delete records = (Plan.ask (.upload index documents)).mapResult some ∧
        documents.length = items.length ∧
        (keyName ≠ actionName → List.Forall₂ (SentAs keyName true) items documents) := by
  refine ⟨records.map Record.removal, ?_, by rw [List.length_map, h.length_eq], fun hname => ?_⟩
  · cases h with
    | nil => exact absurd rfl hne
    | cons hfirst _ =>
      cases hfirst
      rfl
  · exact List.forall₂_map_right_iff.2 (h.imp fun _ _ hr => sentAs_removal hr hname)

end Sent

end SearchIndex.Engine

namespace SearchIndex.CommandLine

open Engine (IsDocument Outcome Plan Record RecordFault SentAs actionName defaultKeyName)
open Json (Value)
open Service (Client Exchange Request recorded)

/-! ## Uploads -/

/-- The name of the member that holds the keys. -/
def UploadArguments.keyName (arguments : UploadArguments) : String :=
  arguments.key.getD defaultKeyName

section Plans

variable {arguments : UploadArguments} {items : List Value}

/-- An upload of documents is one call with all of them, and ends with its reply. -/
theorem exists_upload_eq (hitems : ∀ item ∈ items, IsDocument arguments.keyName item)
    (hne : items ≠ []) : ∃ (documents : List Value) (ending : Engine.Reply → Ending),
      upload arguments (.array items) =
          .call (.upload arguments.index documents) (fun reply => .done (ending reply)) ∧
        documents.length = items.length ∧
        ((arguments.delete = true → arguments.keyName ≠ actionName) →
          List.Forall₂ (SentAs arguments.keyName arguments.delete) items documents) := by
  obtain ⟨records, hrecords, hall⟩ := @Engine.exists_ofItems arguments.index _ _ hitems 0
  have hplan : upload arguments (.array items) =
      (if arguments.delete then Engine.delete records else Engine.update records).andThen fun o =>
        .done (Ending.ofOutcome (fun reply => .ok (uploadText reply)) o) := by
    rw [upload, Record.ofArray, ← UploadArguments.keyName, hrecords]
  let ending (reply : Engine.Reply) : Ending :=
    Ending.ofOutcome (fun reply => .ok (uploadText reply)) ((Outcome.ofReply reply).map some)
  cases hdelete : arguments.delete with
  | true =>
    obtain ⟨documents, hcall, hlength, hsent⟩ := Engine.exists_delete_eq hall hne
    refine ⟨documents, ending, ?_, hlength, fun hname => hsent (hname rfl)⟩
    rw [hplan, hdelete, if_pos rfl, hcall]
    rfl
  | false =>
    obtain ⟨documents, hcall, hsent⟩ := Engine.exists_update_eq hall hne
    refine ⟨documents, ending, ?_, hsent.length_eq.symm, fun _ => hsent⟩
    rw [hplan, hdelete, if_neg Bool.false_ne_true, hcall]
    rfl

/-- An upload of items that are not all documents is refused. -/
theorem exists_upload_eq_fail (h : ∃ item ∈ items, ¬ IsDocument arguments.keyName item) :
    ∃ before item after, items = before ++ item :: after ∧
      (∀ d ∈ before, IsDocument arguments.keyName d) ∧ ¬ IsDocument arguments.keyName item ∧
      upload arguments (.array items) = .done (.fail (.records arguments.file
        (.ofItem before.length arguments.keyName item))) := by
  obtain ⟨before, item, after, rfl, hbefore, hitem⟩ := Engine.exists_first_not_isDocument h
  refine ⟨before, item, after, rfl, hbefore, hitem, ?_⟩
  have hfault := @Engine.ofItems_of_not_isDocument arguments.index _ _ before after hbefore hitem 0
  rw [Nat.zero_add] at hfault
  rw [upload, Record.ofArray, ← UploadArguments.keyName, hfault]

/-- An upload sends nothing unless there are documents, and nothing else. -/
theorem exists_upload_eq_done {documents : Value}
    (h : ¬ ∃ items, documents = .array items ∧ items ≠ [] ∧
      ∀ item ∈ items, IsDocument arguments.keyName item) :
    ∃ ending, upload arguments documents = .done ending := by
  cases documents with
  | array items =>
    by_cases hall : ∀ item ∈ items, IsDocument arguments.keyName item
    · have hnil : items = [] := by_contra fun hne => h ⟨items, rfl, hne, hall⟩
      subst hnil
      cases hdelete : arguments.delete with
      | _ => exact ⟨_, by rw [upload, Record.ofArray, hdelete]; rfl⟩
    · push Not at hall
      obtain ⟨_, _, _, -, -, -, hfail⟩ := exists_upload_eq_fail hall
      exact ⟨_, hfail⟩
  | _ => exact ⟨_, rfl⟩

end Plans

/-! ## What goes out -/

/-- The configuration has a client whose uploads to the index go out to the service. -/
def ReachesUpload (config : Config.AppConfig) (index : String) : Prop :=
  ∃ client url, clientOf config = .ok client ∧ Service.isIndexName index = true ∧
    Client.target (client.address (.upload index [])) = .ok url

variable {σ : Type}

section Commands

variable {config : Config.AppConfig} {arguments : UploadArguments} {around : Surroundings}
  {documents : Value}

/-- An upload with a client and a readable file is the plan for the documents of the file. -/
theorem carryOut_upload {client : Client} (hclient : clientOf config = .ok client)
    (hfile : Files.readJson around.disk around.places arguments.file = .ok documents)
    (network : σ → Request → Exchange × σ) (s : σ) :
    carryOut network s around config (.service (.upload arguments)) =
      (upload arguments documents).run (Client.answer network client) s := by
  simp only [carryOut, hclient, ServiceCommand.plan, hfile]

/-- An upload sends one request if its file has documents and nothing else, and no request if not.
The request has one document for each of the file's, in the same order, and each is sent as it is,
or as its key if it is to be deleted. An item that is no document is named, the first one if there
are several. -/
theorem upload_sends
    (hfile : Files.readJson around.disk around.places arguments.file = .ok documents)
    (network : σ → Request → Exchange × σ) (s : σ) :
    let sent := requestsOf network s around config (.service (.upload arguments))
    let result := (carryOut network s around config (.service (.upload arguments))).1.result
    ((¬ ∃ items, documents = .array items ∧ items ≠ [] ∧
        ∀ item ∈ items, IsDocument arguments.keyName item) → sent = []) ∧
      (∀ items, documents = .array items → items ≠ [] →
        (∀ item ∈ items, IsDocument arguments.keyName item) →
          ReachesUpload config arguments.index → ∃ client uploaded r,
            clientOf config = .ok client ∧
            client.request (.upload arguments.index uploaded) = .ok r ∧ sent = [r] ∧
            r.body = some (Value.object [("value", .array uploaded)]).text ∧
            uploaded.length = items.length ∧
            ((arguments.delete = true → arguments.keyName ≠ actionName) →
              List.Forall₂ (SentAs arguments.keyName arguments.delete) items uploaded)) ∧
      ∀ items, documents = .array items → (∃ item ∈ items, ¬ IsDocument arguments.keyName item) →
        (∃ client, clientOf config = .ok client) → ∃ before item after,
          items = before ++ item :: after ∧ (∀ d ∈ before, IsDocument arguments.keyName d) ∧
          ¬ IsDocument arguments.keyName item ∧
          result = .error (.records arguments.file
            (.ofItem before.length arguments.keyName item)) := by
  intro sent result
  refine ⟨fun hnone => ?_, ?_, ?_⟩
  · obtain ⟨ending, hplan⟩ := exists_upload_eq_done hnone
    cases hclient : clientOf config with
    | error e => simp only [sent, requestsOf, carryOut, hclient]
    | ok client => simp only [sent, requestsOf, carryOut_upload hclient hfile, hplan, Plan.run]
  · rintro items rfl hne hitems ⟨client, url, hclient, hname, hurl⟩
    obtain ⟨uploaded, ending, hplan, hlength, hsent⟩ := exists_upload_eq hitems hne
    have hrequest :=
      @Client.request_of_target client (.upload arguments.index uploaded) url hname hurl
    refine ⟨client, uploaded, _, hclient, hrequest, ?_, ?_, hlength, hsent⟩
    · simp only [sent, requestsOf, carryOut_upload hclient hfile, hplan, Plan.run, Client.answer,
        hrequest, recorded, List.nil_append]
    · rw [Client.body?, Option.map_some]
  · -- Documents are checked in their order, so the first one with a fault is named.
    rintro items rfl hfault ⟨client, hclient⟩
    obtain ⟨before, item, after, hsplit, hbefore, hitem, hplan⟩ := exists_upload_eq_fail hfault
    refine ⟨before, item, after, hsplit, hbefore, hitem, ?_⟩
    simp only [result, carryOut_upload hclient hfile, hplan, Plan.run, Ending.fail]

end Commands

/-! ### One upload -/

/-- An upload of a file that has its documents under another key than `id`. -/
def plainUpload : UploadArguments :=
  { index := "products", file := "/products.json", key := some "sku" }

/-- The documents of an upload: their keys stand at different places in them, and one of them has an
action of its own. -/
def products : List Value :=
  [.object [("name", .string "b"), ("sku", .string "2")],
    .object [("sku", .string "1"), (actionName, .string "delete"), ("name", .string "a")]]

/-- The one file there is has the documents. -/
def productSurroundings : Surroundings :=
  { bareSurroundings with
    disk := ⟨fun _ => .ok (Value.array products).text.toUTF8⟩ }

/-- The documents go out in their order, each with its members in their order. -/
theorem upload_sends_products : ∃ uploaded r,
    requestsOf Service.offline () productSurroundings plainConfig
        (.service (.upload plainUpload)) = [r] ∧
      r.body = some (Value.object [("value", .array uploaded)]).text ∧
      List.Forall₂ (SentAs "sku" false) products uploaded := by
  have htext : Files.readInput productSurroundings.disk productSurroundings.places
      plainUpload.file = .ok (Value.array products).text := rfl
  have hparse : Json.parse (Value.array products).text = .ok (.array products) := by
    cbv
  have hfile : Files.readJson productSurroundings.disk productSurroundings.places
      plainUpload.file = .ok (.array products) := by
    simp only [Files.readJson, htext, hparse]
  have hitems : ∀ item ∈ products, IsDocument plainUpload.keyName item := by
    have hkey (key : String) : Value.string key ≠ .null := by
      intro hnull
      cases hnull
    refine List.forall_mem_cons.2 ⟨⟨.string "2", rfl, hkey _⟩, ?_⟩
    exact List.forall_mem_singleton.2 ⟨.string "1", rfl, hkey _⟩
  have hreaches : ReachesUpload plainConfig "products" :=
    ⟨⟨"http://localhost", "key", "2024-07-01"⟩,
      "http://localhost/indexes/products/docs/index?api-version=2024-07-01", rfl, by decide, rfl⟩
  obtain ⟨-, hsends, -⟩ := @upload_sends Unit plainConfig _ _ _ hfile Service.offline ()
  obtain ⟨_, uploaded, r, -, -, hsent, hbody, -, hall⟩ :=
    hsends _ rfl (List.cons_ne_nil _ _) hitems hreaches
  have hkept : plainUpload.delete = true → plainUpload.keyName ≠ actionName := by
    intro hdelete
    cases hdelete
  exact ⟨uploaded, r, hsent, hbody, hall hkept⟩

end SearchIndex.CommandLine
