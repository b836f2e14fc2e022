import SearchIndex.Engine.Operations
import SearchIndex.Proofs.Json.Objects

/-!
# The body of a search

The body of a search is the object of the options, over which the query sets members of its own
(`buildQuery_eq`): the text, the paging, the filter unless it is empty, and the order if there is
one. What the query sets wins over an option of the same name. So the query settles the body, and no
option can take the place of the filter (`calls_search`).
-/

namespace SearchIndex.Engine

open Json (Members Value)

/-! ## What a query sets -/

/-- The member that holds a count, if there is one. -/
def countMembers (name : String) (count : Option Nat) : Members :=
  (count.map fun n => (name, countValue n)).toList

/-- The member that holds a filter. An empty filter has none. -/
def filterMembers (f : String) : Members :=
  if f = "" then [] else [("filter", .string f)]

/-- The member that holds the order of a query, if there is one. -/
def orderMembers (q : Query) : Members :=
  (q.orderText?.map fun order => ("orderby", .string order)).toList

/-- The members of the body that a query sets. -/
def ownMembers (q : Query) (paging : Members) (f : String) : Members :=
  ("search", .string q.text) :: paging ++ filterMembers f ++ orderMembers q

section Query

variable {settings : Settings} {q : Query} {paging : Members} {f : String}

/-- A query with order clauses has them in its body, with commas between them. -/
theorem orderText?_of_ne (h : q.orders ≠ []) :
    q.orderText? = some (Text.joinWith ", " (q.orders.map OrderClause.text)) := by
  unfold Query.orderText?
  split
  · next hnil => exact absurd hnil h
  · rfl

/-- A query without order clauses has no order in its body. -/
theorem orderText?_of_nil (h : q.orders = []) : q.orderText? = none := by
  simp only [Query.orderText?, h]

/-- The body is the object of the options, with the members of the query set. -/
theorem buildQuery_eq (hf : (Filter.compile settings.filter q.predicates).result = .ok f) :
    buildQuery settings q paging = ⟨(Filter.compile settings.filter q.predicates).dropped,
      .ok (q.options.setAll (ownMembers q paging f))⟩ := by
  have hown : q.options.setAll (ownMembers q paging f) =
      (((q.options.set "search" (.string q.text)).setAll paging).setAll
        (filterMembers f)).setAll (orderMembers q) := by
    rw [ownMembers, Members.setAll_append, Members.setAll_append]
    rfl
  have hfilter (body : Members) : body.setAll (filterMembers f) =
      if f = "" then body else body.set "filter" (.string f) := by
    rw [filterMembers]
    split <;> rfl
  rw [hown, hfilter, orderMembers]
  unfold buildQuery
  cases hp : q.predicates with
  | nil =>
    rw [hp] at hf
    obtain rfl : "" = f := Except.ok.inj hf
    cases q.orderText? <;> rfl
  | cons p rest =>
    rw [hp] at hf
    simp only [Filter.Report.map, hf, Except.map]
    cases q.orderText? <;> rfl

/-- Executing a query makes one call, with the body of the query. -/
theorem calls_execute {σ : Type} (hf : (Filter.compile settings.filter q.predicates).result = .ok f)
    (answer : σ → Call → Reply × σ) (s : σ) :
    (execute settings q paging).calls answer s =
      [.search q.index (q.options.setAll (ownMembers q paging f))] := by
  rw [execute, buildQuery_eq hf]
  rfl

end Query

/-! ## Bodies -/

/-- The names of the members that a query sets, with the counts that its paging has. -/
def ownNames (q : Query) (f : String) (top skip : Option Nat) : List String :=
  ["search"] ++ (if top = none then [] else ["top"]) ++ (if skip = none then [] else ["skip"]) ++
    (if f = "" then [] else ["filter"]) ++ (if q.orders = [] then [] else ["orderby"])

/-- The object has a count under a name, as a number that is exactly that count. -/
def HasCount (body : Members) (name : String) (count : Nat) : Prop :=
  ∃ n, body.get? name = some (.number n) ∧ n.toNat? = some count

/-- The body of a search for a query with the filter `f` and the given paging. -/
structure IsBody (q : Query) (f : String) (top skip : Option Nat) (body : Members) : Prop where
  nodup_names : body.names.Nodup
  text : body.get? "search" = some (.string q.text)
  count : ∀ n ∈ top, HasCount body "top" n
  skipped : ∀ n ∈ skip, HasCount body "skip" n
  filter : f ≠ "" → body.get? "filter" = some (.string f)
  order : q.orders ≠ [] →
    body.get? "orderby" = some (.string (Text.joinWith ", " (q.orders.map OrderClause.text)))
  /-- Under all other names stand the options, and nothing else. -/
  options : ∀ name ∉ ownNames q f top skip, body.get? name = q.options.get? name
  /-- The options come first, each in its place. -/
  places : q.options.names <+: body.names

section Bodies

variable {settings : Settings} {q : Query} {f : String} {top skip : Option Nat}

/-- The paging of a search. -/
def pagingMembers (top skip : Option Nat) : Members :=
  countMembers "top" top ++ countMembers "skip" skip

/-- The engine's own members have these names, in this order. -/
theorem names_ownMembers (q : Query) (f : String) (top skip : Option Nat) :
    (ownMembers q (pagingMembers top skip) f).names = ownNames q f top skip := by
  have horder : (orderMembers q).names = if q.orders = [] then [] else ["orderby"] := by
    rw [orderMembers]
    split
    · next h => rw [orderText?_of_nil h]; rfl
    · next h => rw [orderText?_of_ne h]; rfl
  have hfilter : (filterMembers f).names = if f = "" then [] else ["filter"] := by
    rw [filterMembers]
    split <;> rfl
  simp only [Members.names] at horder hfilter
  simp only [ownMembers, ownNames, Members.names, List.map_append, horder, hfilter, pagingMembers,
    List.map_cons]
  cases top <;> cases skip <;> rfl

/-- No two of the engine's own members have the same name. -/
theorem nodup_ownNames (q : Query) (f : String) (top skip : Option Nat) :
    (ownNames q f top skip).Nodup := by
  -- Each name is set or not: these are sublists of one list without repetition.
  have hall : ["search", "top", "skip", "filter", "orderby"].Nodup := by decide
  refine List.Nodup.sublist ?_ hall
  have hpart (p : Prop) [Decidable p] (name : String) : (if p then [] else [name]).Sublist [name] := by
    split
    · exact List.nil_sublist _
    · exact List.Sublist.refl _
  exact ((((List.Sublist.refl ["search"]).append (hpart _ "top")).append (hpart _ "skip")).append
    (hpart _ "filter")).append (hpart _ "orderby")

/-- What a query sets over its options is the body of its search. -/
theorem isBody_setAll (hoptions : q.options.names.Nodup) (f : String)
    (htop : ∀ n ∈ top, n ≤ maxSkip) (hskip : ∀ n ∈ skip, n ≤ maxSkip) :
    IsBody q f top skip (q.options.setAll (ownMembers q (pagingMembers top skip) f)) := by
  have hnames := names_ownMembers q f top skip
  have hnodup : (ownMembers q (pagingMembers top skip) f).names.Nodup :=
    hnames ▸ nodup_ownNames q f top skip
  -- The query's own members are set last, so they are found whatever the options are.
  have hown {name : String} {value : Value}
      (hm : (name, value) ∈ ownMembers q (pagingMembers top skip) f) :
      (q.options.setAll (ownMembers q (pagingMembers top skip) f)).get? name = some value := by
    rw [Members.get?_setAll hnodup, Members.get?_of_mem hnodup hm, Option.some_or]
  refine ⟨Members.nodup_names_setAll hoptions, ?_, ?_, ?_, ?_, ?_, ?_, ?_⟩
  · exact hown (by simp [ownMembers])
  · intro n hn
    obtain rfl := Option.mem_def.1 hn
    refine ⟨_, hown ?_, Json.Number.toNat?_ofNat (htop n hn)⟩
    simp [ownMembers, pagingMembers, countMembers, countValue]
  · intro n hn
    obtain rfl := Option.mem_def.1 hn
    refine ⟨_, hown ?_, Json.Number.toNat?_ofNat (hskip n hn)⟩
    simp [ownMembers, pagingMembers, countMembers, countValue]
  · intro hf
    exact hown (by simp [ownMembers, filterMembers, hf])
  · intro horders
    exact hown (by simp [ownMembers, orderMembers, orderText?_of_ne horders])
  · intro name hname
    exact Members.get?_setAll_of_not_mem (hnames ▸ hname) q.options
  · exact Members.names_prefix_setAll _ _

/-- The query and its filter settle the body of its searches, whatever the options are. A search has
the limit of the query as its count, and a search for a page skips the pages before, as far as a
count of the service goes. -/
theorem calls_search {σ : Type} (hoptions : q.options.names.Nodup)
    (hlimit : ∀ n ∈ q.limit, n ≤ 0xFFFFFFFFFFFFFFFF)
    (hf : (Filter.compile settings.filter q.predicates).result = .ok f)
    (answer : σ → Call → Reply × σ) (s : σ) :
    (∃ body, (search settings q).calls answer s = [.search q.index body] ∧
        IsBody q f q.limit none body) ∧
      ∀ perPage ≤ 0xFFFFFFFFFFFFFFFF, ∀ page, ∃ body,
        (paginate settings q perPage page).calls answer s = [.search q.index body] ∧
        IsBody q f (some perPage)
          (some (min (perPage * (max page 1 - 1)) 0xFFFFFFFFFFFFFFFF)) body := by
  constructor
  · have hsearch : search settings q = execute settings q (pagingMembers q.limit none) := by
      unfold search
      cases q.limit <;> rfl
    rw [hsearch]
    exact ⟨_, calls_execute hf answer s, isBody_setAll hoptions f hlimit nofun⟩
  · intro perPage hperPage page
    have hpage : max page 1 - 1 = page - 1 := by omega
    rw [hpage]
    refine ⟨_, calls_execute hf answer s, isBody_setAll hoptions f ?_ ?_⟩
    · rintro n ⟨⟩
      exact hperPage
    · rintro n ⟨⟩
      exact Nat.min_le_right _ _

end Bodies

/-! ### A query whose options collide with what it sets -/

/-- A query with options under names of its own. -/
def crowdedQuery : Query :=
  { index := "products", text := "*", limit := some 20
    predicates := [.basic "tenant" (.comparison .eq) (.string "a")]
    orders := [⟨"price", .desc⟩, ⟨"name", .asc⟩]
    options := [("filter", .string "tenant eq 'b'"), ("count", .bool true), ("orderby", .null)] }

/-- The options give way, and stand in the places that they had. -/
theorem calls_search_crowdedQuery :
    (∃ body : Members, (search {} crowdedQuery).calls (fun s _ => (.ok .null, s)) () =
        [.search "products" body] ∧
      body.get? "filter" = some (.string "tenant eq 'a'") ∧
      body.get? "orderby" = some (.string "price desc, name asc") ∧
      body.get? "count" = some (.bool true) ∧ ["filter", "count", "orderby"] <+: body.names) ∧
    ∃ body : Members, (paginate {} crowdedQuery 0xFFFFFFFFFFFFFFFF 3).calls
        (fun s _ => (.ok .null, s)) () = [.search "products" body] ∧
      HasCount body "skip" 0xFFFFFFFFFFFFFFFF := by
  have hlimit : ∀ n ∈ crowdedQuery.limit, n ≤ 0xFFFFFFFFFFFFFFFF := by
    rintro n ⟨⟩
    decide
  have hf : (Filter.compile ({} : Settings).filter crowdedQuery.predicates).result =
      .ok "tenant eq 'a'" := rfl
  have h := calls_search (by decide) hlimit hf (fun s _ => (.ok .null, s)) ()
  obtain ⟨⟨body, hcalls, hbody⟩, hpages⟩ := h
  obtain ⟨page, hpage, hpageBody⟩ := hpages 0xFFFFFFFFFFFFFFFF (by decide) 3
  refine ⟨⟨body, hcalls, hbody.filter (by decide), hbody.order (by decide), ?_, hbody.places⟩,
    page, hpage, hpageBody.skipped _ (by decide)⟩
  rw [hbody.options "count" (by decide)]
  rfl

end SearchIndex.Engine
