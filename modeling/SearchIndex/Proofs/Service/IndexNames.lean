import SearchIndex.Proofs.Address.Beginning
import SearchIndex.Proofs.CommandLine.Requests

/-!
# Index names in addresses

No index name leads a request away from the index. A name has no character that parts an address or
stands for another one, so in the address of a request it stays as it is, between a beginning that is
the client's and what the call puts behind it (`Client.aims_of_request`). For any other text as a name
nothing is sent (`calls_aim`).
-/

namespace SearchIndex.Service

open Engine (Call)

/-! ## Names -/

/-- The text is the name of an index. -/
structure IsName (name : String) : Prop where
  ne_nil : name.toList ≠ []
  length_le : name.toList.length ≤ 128
  mem : ∀ c ∈ name.toList, 'a' ≤ c ∧ c ≤ 'z' ∨ '0' ≤ c ∧ c ≤ '9' ∨ c = '-'
  head?_ne : name.toList.head? ≠ some '-'
  getLast?_ne : name.toList.getLast? ≠ some '-'

/-- A character of index names is a lower-case letter, a digit or a dash. -/
theorem inIndexName_iff {c : Char} :
    inIndexName c = true ↔ 'a' ≤ c ∧ c ≤ 'z' ∨ '0' ≤ c ∧ c ≤ '9' ∨ c = '-' := by
  simp [inIndexName, or_assoc]

/-- The check of index names accepts all of them and nothing else. -/
theorem isIndexName_iff {name : String} : isIndexName name = true ↔ IsName name := by
  simp only [isIndexName, Bool.and_eq_true, Bool.not_eq_true', List.isEmpty_eq_false_iff,
    decide_eq_true_eq, bne_iff_ne, List.all_eq_true, inIndexName_iff]
  exact ⟨fun ⟨⟨⟨⟨hne, hlength⟩, hhead⟩, hlast⟩, hmem⟩ => ⟨hne, hlength, hmem, hhead, hlast⟩,
    fun h => ⟨⟨⟨⟨h.ne_nil, h.length_le⟩, h.head?_ne⟩, h.getLast?_ne⟩, h.mem⟩⟩

/-- The characters that part an address, stand for a directory, or start a code. -/
def addressMarks : List Char :=
  "/\\?#&=:;@%+.".toList

/-- Characters of index names are in ASCII. -/
theorem ascii_of_inIndexName {c : Char} (h : inIndexName c = true) : c.toNat < 0x80 := by
  rcases inIndexName_iff.1 h with ⟨-, hhigh⟩ | ⟨-, hhigh⟩ | rfl
  · exact Nat.lt_of_le_of_lt (UInt32.le_iff_toNat_le.1 hhigh) (by decide)
  · exact Nat.lt_of_le_of_lt (UInt32.le_iff_toNat_le.1 hhigh) (by decide)
  · decide

theorem laws_of_inIndexName {c : Char} (h : inIndexName c = true) :
    Address.isKept c = true ∧ c ∉ addressMarks := by
  have hall : ((List.range 0x80).all fun n => !inIndexName (Char.ofNat n) ||
      Address.isKept (Char.ofNat n) && !addressMarks.contains (Char.ofNat n)) = true := by
    decide +kernel
  have hc := List.all_eq_true.1 hall c.toNat (List.mem_range.2 (ascii_of_inIndexName h))
  rw [Char.ofNat_toNat, h, Bool.not_true, Bool.false_or, Bool.and_eq_true, Bool.not_eq_true'] at hc
  refine ⟨hc.1, fun hmem => ?_⟩
  rw [List.contains_iff_mem.2 hmem] at hc
  cases hc.2

/-- Index names are made of these characters. -/
theorem IsName.inIndexName {name : String} (h : IsName name) :
    ∀ c ∈ name.toList, inIndexName c = true := fun c hc => inIndexName_iff.2 (h.mem c hc)

/-- A name in front of something else can be told from it. -/
theorem IsName.eq_of_append {name other : String} {behind behind' : List Char} (h : IsName name)
    (h' : IsName other) (hbehind : ∀ c ∈ behind.head?, Service.inIndexName c = false)
    (hbehind' : ∀ c ∈ behind'.head?, Service.inIndexName c = false)
    (heq : name.toList ++ behind = other.toList ++ behind') : name = other := by
  have htaken := congrArg (List.takeWhile Service.inIndexName) heq
  rw [Text.takeWhile_run h.inIndexName hbehind, Text.takeWhile_run h'.inIndexName hbehind'] at htaken
  exact String.toList_inj.1 htaken

/-! ## Addresses of calls -/

namespace Client

/-- There are three texts that may follow the name. -/
theorem suffix_mem (c : Call) : suffix c ∈ ["/docs/index", "/docs/search", ""] := by
  cases c <;> simp [suffix]

theorem isKept_suffix (c : Call) : ∀ d ∈ (suffix c).toList, Address.isKept d = true := by
  have hall : ∀ s ∈ ["/docs/index", "/docs/search", ""], s.toList.all Address.isKept = true := by
    decide
  exact List.all_eq_true.1 (hall _ (suffix_mem c))

/-- A name ends where the suffix or the query starts. -/
theorem head?_suffix (c : Call) (behind : List Char) :
    ∀ d ∈ ((suffix c).toList ++ '?' :: behind).head?, inIndexName d = false := by
  have hall : ∀ s ∈ ["/docs/index", "/docs/search", ""],
      s.toList.head? = some '/' ∨ s.toList = [] := by
    decide
  intro d hd
  rcases hall _ (suffix_mem c) with hhead | hnil
  · rw [List.head?_append, hhead] at hd
    cases hd
    decide
  · rw [hnil] at hd
    cases hd
    decide

/-- The request goes to the index of the call, with what the call puts behind the name. The beginning
of the address in standard form is `front`. -/
structure Aims (client : Client) (front : String) (c : Call) (r : Request) : Prop where
  address : r.address = client.baseUrl ++ "/indexes/" ++ c.index ++ suffix c ++ "?" ++ client.query c
  url : ∃ back, r.url = front ++ "/" ++ c.index ++ suffix c ++ "?" ++ back

/-- A request is made for an index name only, and goes to the standard form of the address. -/
theorem exists_of_request {client : Client} {c : Call} {r : Request}
    (h : client.request c = .ok r) : IsName c.index ∧ r.address = client.address c ∧
      ∃ a, Address.ofText (client.address c) = .ok a ∧ a.withoutLogin.refusal? = none ∧
        r.url = a.withoutLogin.text := by
  unfold request at h
  split at h
  · next hname =>
    dsimp only at h
    cases htarget : target (client.address c) with
    | error e =>
      rw [htarget] at h
      cases h
    | ok url =>
      rw [htarget] at h
      obtain rfl := Except.ok.inj h
      refine ⟨isIndexName_iff.1 hname, rfl, ?_⟩
      unfold target at htarget
      split at htarget
      · cases htarget
      · next a ha =>
        dsimp only at htarget
        split at htarget
        · cases htarget
        · next hsent => exact ⟨a, ha, hsent, (Except.ok.inj htarget).symm⟩
  · cases h

/-- All requests of a client begin in the same way, whatever the index is. -/
theorem exists_front (client : Client) : ∃ front, ∀ c r, client.request c = .ok r →
    client.Aims front c r := by
  have hdirectory : ("indexes".toList.all fun c => Address.isKept c && c != '/') = true := by decide
  obtain ⟨front, hfront⟩ := Address.exists_beginning client.baseUrl.toList
    (by decide : "indexes".toList ≠ []) fun c hc => by
      simpa using List.all_eq_true.1 hdirectory c hc
  refine ⟨.ofList front, fun c r h => ?_⟩
  obtain ⟨hname, haddress, a, ha, hsent, hurl⟩ := exists_of_request h
  have hplace : ∀ d ∈ c.index.toList ++ (suffix c).toList, Address.isKept d = true :=
    List.forall_mem_append.2
      ⟨fun d hd => (laws_of_inIndexName (hname.inIndexName d hd)).1, isKept_suffix c⟩
  have htext : client.address c = .ofList (client.baseUrl.toList ++ '/' :: ("indexes".toList ++
      '/' :: (c.index.toList ++ (suffix c).toList ++ '?' :: (client.query c).toList))) := by
    rw [← String.toList_inj]
    simp [address]
  rw [htext] at ha
  obtain ⟨back, hback⟩ := hfront _ _ hplace a ha hsent
  refine ⟨haddress, .ofList back, ?_⟩
  rw [hurl, ← String.toList_inj, hback]
  simp

end Client

/-! ## Requests of calls -/

/-- The requests that are sent for a call. -/
def sentFor {σ : Type} (client : Client) (network : σ → Request → Exchange × σ) (s : σ) (c : Call) :
    List Request :=
  (client.answer (recorded network) (s, []) c).2.2

section Calls

variable {σ : Type} {client : Client} {c : Call}

/-- A call with a request sends it. -/
theorem sentFor_of_request {r : Request} (h : client.request c = .ok r)
    (network : σ → Request → Exchange × σ) (s : σ) : sentFor client network s c = [r] := by
  rw [sentFor, Client.answer, h]
  rfl

/-- A call without a request sends nothing. -/
theorem sentFor_of_error {e : Engine.GatewayError} (h : client.request c = .error e)
    (network : σ → Request → Exchange × σ) (s : σ) : sentFor client network s c = [] := by
  rw [sentFor, Client.answer, h]

/-- A call with another name fails at once, and the network stays as it was. -/
theorem answer_of_not_isName (h : ¬ IsName c.index) (network : σ → Request → Exchange × σ) (s : σ) :
    client.answer network s c = (.error (.invalidIndexName c.index), s) := by
  have hrequest : client.request c = .error (.invalidIndexName c.index) := by
    rw [Client.request, if_neg fun hname => h (isIndexName_iff.1 hname)]
  rw [Client.answer, hrequest]

/-- Requests to different indexes have different addresses, also in standard form. -/
theorem Client.Aims.ne {front : String} {d : Call} {r r' : Request} (h : client.Aims front c r)
    (h' : client.Aims front d r') (hc : IsName c.index) (hd : IsName d.index)
    (hne : c.index ≠ d.index) : r.address ≠ r'.address ∧ r.url ≠ r'.url := by
  -- What stands in front of the names is the same.
  have hsame (before back back' : String) (heq : before ++ "/" ++ c.index ++ Client.suffix c ++ "?" ++
      back = before ++ "/" ++ d.index ++ Client.suffix d ++ "?" ++ back') : c.index = d.index := by
    have hlists := congrArg String.toList heq
    simp only [String.toList_append, List.append_assoc, List.append_cancel_left_eq] at hlists
    exact hc.eq_of_append hd (Client.head?_suffix c _) (Client.head?_suffix d _) hlists
  obtain ⟨back, hback⟩ := h.url
  obtain ⟨back', hback'⟩ := h'.url
  refine ⟨fun heq => hne (hsame (client.baseUrl ++ "/indexes") (client.query c) (client.query d) ?_),
    fun heq => hne (hsame front back back' (by rw [← hback, ← hback', heq]))⟩
  have hdirectory : client.baseUrl ++ "/indexes" ++ "/" = client.baseUrl ++ "/indexes/" := by
    rw [String.append_assoc]
    rfl
  rw [h.address, h'.address] at heq
  rw [hdirectory, heq]

end Calls

/-- No index name leads a request away. Whatever a client calls, and whatever the network answers: a
call with a name sends at most one request, which aims at that index; names have no marks of addresses,
and different names are at different addresses. A call with any other text as a name fails with that
text, and sends nothing. -/
theorem calls_aim (client : Client) : ∃ front,
    (∀ (σ : Type) (network : σ → Request → Exchange × σ) (s : σ) (c : Call), IsName c.index →
      sentFor client network s c = [] ∨
        ∃ r, sentFor client network s c = [r] ∧ client.Aims front c r) ∧
      (∀ (σ : Type) (network : σ → Request → Exchange × σ) (s : σ) (c : Call), ¬ IsName c.index →
        client.answer (recorded network) (s, []) c =
          (.error (.invalidIndexName c.index), s, [])) ∧
      (∀ c d r r', IsName c.index → IsName d.index → c.index ≠ d.index →
        client.Aims front c r → client.Aims front d r' →
          r.address ≠ r'.address ∧ r.url ≠ r'.url) ∧
      ∀ name, IsName name → ∀ ch ∈ name.toList, ch ∉ addressMarks := by
  obtain ⟨front, hfront⟩ := client.exists_front
  refine ⟨front, fun σ network s c _ => ?_, fun σ network s c h => answer_of_not_isName h _ _,
    fun c d r r' hc hd hne haims haims' => haims.ne haims' hc hd hne,
    fun name h ch hch => (laws_of_inIndexName (h.inIndexName ch hch)).2⟩
  cases hrequest : client.request c with
  | error e => exact .inl (sentFor_of_error hrequest network s)
  | ok r => exact .inr ⟨r, sentFor_of_request hrequest network s, hfront c r hrequest⟩

/-- A client of a service at an address without a path. -/
def plainClient : Client :=
  ⟨"http://localhost", "key", "2024-07-01"⟩

/-- Deletions of two indexes go to two addresses, and nothing is deleted in the directory above. -/
theorem calls_aim_products : ∃ r r',
    sentFor plainClient offline () (.deleteIndex "products") = [r] ∧
      sentFor plainClient offline () (.deleteIndex "orders") = [r'] ∧ r.url ≠ r'.url ∧
      plainClient.answer (recorded offline) ((), []) (.deleteIndex "../products") =
        (.error (.invalidIndexName "../products"), (), []) := by
  have hproducts : IsName "products" := isIndexName_iff.1 (by decide)
  have horders : IsName "orders" := isIndexName_iff.1 (by decide)
  have hparent : ¬ IsName "../products" := fun h => absurd (isIndexName_iff.2 h) (by decide)
  obtain ⟨front, haims, hinvalid, hdiffer, -⟩ := calls_aim plainClient
  have hsent (name url : String) (hname : IsName name)
      (hurl : Client.target (plainClient.address (.deleteIndex name)) = .ok url) :
      ∃ r, sentFor plainClient offline () (.deleteIndex name) = [r] ∧
        plainClient.Aims front (.deleteIndex name) r := by
    rcases haims Unit offline () (.deleteIndex name) hname with hnone | hone
    · have hrequest := Client.request_of_target (c := .deleteIndex name)
        (isIndexName_iff.2 hname) hurl
      rw [sentFor_of_request hrequest] at hnone
      cases hnone
    · exact hone
  obtain ⟨r, hr, hraims⟩ := hsent "products"
    "http://localhost/indexes/products?api-version=2024-07-01" hproducts rfl
  obtain ⟨r', hr', hraims'⟩ := hsent "orders"
    "http://localhost/indexes/orders?api-version=2024-07-01" horders rfl
  have hdiffers := hdiffer (.deleteIndex "products") (.deleteIndex "orders") r r' hproducts horders
    (by decide) hraims hraims'
  exact ⟨r, r', hr, hr', hdiffers.2, hinvalid Unit offline () _ hparent⟩

end SearchIndex.Service
