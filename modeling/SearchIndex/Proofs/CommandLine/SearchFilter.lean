import SearchIndex.Proofs.CommandLine.Requests
import SearchIndex.Proofs.Engine.SearchBody

/-!
# The filter of a search

The filter command shows the filter that a search with the same text sends
(`search_sends_filter`). The two commands come to it in different ways: one compiles the text as a
whole, the other reads the predicates first and has the engine compile them when it builds the
query.
-/

/-! ## Queries -/

namespace SearchIndex.Engine

open Json (Members)

/-- The member of a query that holds its filter: there is none if the filter is empty. -/
def filterMember? (f : String) : Option Json.Value :=
  if f = "" then none else some (.string f)

section Query

variable {settings : Settings} {q : Query} {paging : Members}

/-- There is no query if the filter does not compile. -/
theorem buildQuery_of_error {e : Filter.Error}
    (he : (Filter.compile settings.filter q.predicates).result = .error e) :
    buildQuery settings q paging =
      ⟨(Filter.compile settings.filter q.predicates).dropped, .error e⟩ := by
  unfold buildQuery
  cases hp : q.predicates with
  | nil =>
    rw [hp] at he
    cases he
  | cons p rest =>
    rw [hp] at he
    simp only [Filter.Report.map, he, Except.map]

/-- The query has the filter as a member, unless the filter is empty. -/
theorem buildQuery_of_ok (hoptions : q.options = []) (hpaging : "filter" ∉ paging.names)
    {f : String} (hf : (Filter.compile settings.filter q.predicates).result = .ok f) :
    ∃ body : Members, body.get? "filter" = filterMember? f ∧ buildQuery settings q paging =
      ⟨(Filter.compile settings.filter q.predicates).dropped, .ok body⟩ := by
  refine ⟨_, ?_, buildQuery_eq hf⟩
  have horder : "filter" ∉ (orderMembers q).names := by
    rw [orderMembers]
    cases q.orderText? <;> simp [Members.names]
  rw [ownMembers, Members.setAll_append, Members.get?_setAll_of_not_mem horder,
    Members.setAll_append, filterMembers, filterMember?]
  split
  · have hfirst : "filter" ∉ Members.names (("search", .string q.text) :: paging) := by
      simpa [Members.names] using hpaging
    show (q.options.setAll (("search", .string q.text) :: paging)).get? "filter" = none
    rw [Members.get?_setAll_of_not_mem hfirst, hoptions]
    rfl
  · exact Members.get?_set_self _ _ _

end Query

end SearchIndex.Engine

namespace SearchIndex.CommandLine

open Engine (EngineError Outcome Plan Query Settings filterMember?)
open Json (Members Value)
open Service (Client Exchange Request recorded)

variable {σ : Type}

/-! ## Searches -/

/-- The configuration has a client whose searches of the index go out to the service. -/
def Reaches (config : Config.AppConfig) (index : String) : Prop :=
  ∃ client url, clientOf config = .ok client ∧ Service.isIndexName index = true ∧
    Client.target (client.address (.search index [])) = .ok url

/-- The error of the filter behind the error of a command. -/
def CommandError.filterError? : CommandError → Option Filter.Error
  | .filter e | .searchFilter e | .engine (.filter e) => some e
  | _ => none

section Search

variable {settings : Settings} {arguments : SearchArguments} {q : Query}

/-- A search executes its query, with paging that has no filter. -/
theorem exists_runQuery_eq (settings : Settings) (arguments : SearchArguments) (q : Query) :
    ∃ limit paging, "filter" ∉ Members.names paging ∧
      runQuery settings arguments q = Engine.execute settings { q with limit } paging := by
  unfold runQuery
  cases arguments.page with
  | some page => exact ⟨q.limit, _, by simp [Members.names], rfl⟩
  | none =>
    refine ⟨arguments.top, _, ?_, rfl⟩
    cases arguments.top <;> simp [Members.names]

/-- A query whose predicates do not compile is not sent. -/
theorem runQuery_of_error {e : Filter.Error}
    (he : (Filter.compile settings.filter q.predicates).result = .error e) :
    runQuery settings arguments q =
      .done ⟨(Filter.compile settings.filter q.predicates).dropped, .error (.filter e)⟩ := by
  obtain ⟨limit, paging, -, hrun⟩ := exists_runQuery_eq settings arguments q
  rw [hrun, Engine.execute, Engine.buildQuery_of_error (q := { q with limit }) he]

/-- A query whose predicates compile is sent once, with the filter in its body. -/
theorem runQuery_of_ok (hoptions : q.options = []) {f : String}
    (hf : (Filter.compile settings.filter q.predicates).result = .ok f) :
    ∃ body : Members, body.get? "filter" = filterMember? f ∧
      runQuery settings arguments q = .call (.search q.index body) fun reply =>
        .done ⟨(Filter.compile settings.filter q.predicates).dropped,
          (Outcome.ofReply reply).result⟩ := by
  obtain ⟨limit, paging, hpaging, hrun⟩ := exists_runQuery_eq settings arguments q
  obtain ⟨body, hbody, hquery⟩ :=
    Engine.buildQuery_of_ok (q := { q with limit }) hoptions hpaging hf
  refine ⟨body, hbody, ?_⟩
  rw [hrun, Engine.execute, hquery]

/-- What a search does with the text of a filter: it ends with the error of the filter, or makes one
call, which has the filter in its query. -/
inductive SearchesWith (index : String) (shown : Filter.Report String) : Plan Ending → Prop
  | refused {e : Filter.Error} (he : shown.result = .error e) {error : CommandError}
      (herror : error.filterError? = some e) :
      SearchesWith index shown (.done ⟨shown.dropped, .error error⟩)
  | sent {f : String} (hf : shown.result = .ok f) {query : Members}
      (hquery : query.get? "filter" = filterMember? f) (next : Engine.Reply → Plan Ending)
      (hnext : ∀ reply, ∃ result, next reply = .done ⟨shown.dropped, result⟩) :
      SearchesWith index shown (.call (.search index query) next)

/-- A search with a filter sends what the text of the filter compiles to. -/
theorem searchesWith_search {text : String} (h : arguments.filter = some text) :
    SearchesWith arguments.index (Filter.compileText settings.filter text)
      (search settings arguments) := by
  unfold search
  simp only [h, searchPredicates]
  cases hread : (Filter.parsePredicates settings.filter text).result with
  | error e =>
    have hshown : Filter.compileText settings.filter text =
        ⟨(Filter.parsePredicates settings.filter text).dropped, .error e⟩ := by
      simp only [Filter.compileText, Filter.Report.andThen, hread]
    rw [hshown]
    exact .refused rfl rfl
  | ok predicates =>
    have hshown : Filter.compileText settings.filter text =
        ⟨(Filter.parsePredicates settings.filter text).dropped ++
            (Filter.compile settings.filter predicates).dropped,
          (Filter.compile settings.filter predicates).result⟩ := by
      simp only [Filter.compileText, Filter.Report.andThen, hread]
    rw [hshown]
    dsimp only
    let q : Query := ⟨arguments.index, arguments.query, predicates, arguments.orders, none, []⟩
    cases hcompile : (Filter.compile settings.filter predicates).result with
    | error e =>
      rw [runQuery_of_error (q := q) hcompile]
      exact .refused rfl rfl
    | ok f =>
      obtain ⟨body, hbody, hrun⟩ :=
        @runQuery_of_ok settings arguments q rfl f hcompile
      rw [hrun]
      refine .sent rfl hbody _ fun reply => ?_
      cases reply with
      | ok v => exact ⟨_, rfl⟩
      | error e => exact ⟨_, rfl⟩

end Search

/-! ## The two commands -/

section Commands

variable {config : Config.AppConfig} {arguments : SearchArguments} {around : Surroundings}
  {json file : Option String} {text : String}

/-- Carrying out a search, its client apart. -/
theorem carryOut_search {client : Client} (hclient : clientOf config = .ok client)
    (network : σ → Request → Exchange × σ) (s : σ) :
    carryOut network s around config (.service (.search arguments)) =
      (search config.engine arguments).run (Client.answer network client) s := by
  simp only [carryOut, hclient]
  rfl

/-- The command that compiles a filter gives what the text compiles to, and sends nothing. -/
theorem carryOut_filter (htext : filterText around.disk around.places json file = .ok text)
    (network : σ → Request → Exchange × σ) (s : σ) :
    (carryOut network s around config (.filter json file)).1 =
      compileFilter config.engine text := by
  simp only [carryOut, filter, htext]

/-- The request of a search that goes out. -/
theorem exists_request {client : Client} {index url : String}
    (hname : Service.isIndexName index = true)
    (hurl : Client.target (client.address (.search index [])) = .ok url) (query : Members) :
    ∃ r, client.request (.search index query) = .ok r ∧
      r.body = some (Value.object query).text := by
  have haddress : client.address (.search index query) = client.address (.search index []) := rfl
  rw [← haddress] at hurl
  exact ⟨_, Client.request_of_target hname hurl, rfl⟩

/-- The filter command shows what a search with the same text sends. It gives a filter if and only
if the search sends a request; then it is one request, whose query has that filter as a member,
unless the filter is empty. Otherwise both fail with the same error of the filter, and the search
sends nothing. Both leave out the same predicates. -/
theorem search_sends_filter (hreaches : Reaches config arguments.index)
    (hfilter : arguments.filter = some text)
    (htext : filterText around.disk around.places json file = .ok text)
    (network : σ → Request → Exchange × σ) (s : σ) :
    let shown := (carryOut network s around config (.filter json file)).1
    let searched := (carryOut network s around config (.service (.search arguments))).1
    let sent := requestsOf network s around config (.service (.search arguments))
    ((∃ f, shown.result = .ok f) ↔ sent ≠ []) ∧
      (∀ f, shown.result = .ok f → ∃ client query r, clientOf config = .ok client ∧
        client.request (.search arguments.index query) = .ok r ∧ sent = [r] ∧
        r.body = some (Value.object query).text ∧
        Members.get? query "filter" = filterMember? f) ∧
      (∀ error, shown.result = .error error → ∃ e error', error = .filter e ∧
        searched.result = .error error' ∧ error'.filterError? = some e ∧ sent = []) ∧
      searched.dropped = shown.dropped := by
  obtain ⟨client, url, hclient, hname, hurl⟩ := hreaches
  have hsearch := @searchesWith_search config.engine arguments text hfilter
  rw [requestsOf, ← carryOut_recorded network s [], carryOut_filter htext, compileFilter,
    carryOut_search hclient, carryOut_search hclient]
  -- What the two runs have in common is the filter, so the rest of them does not matter.
  generalize Filter.compileText config.engine.filter text = shown at hsearch ⊢
  generalize search config.engine arguments = plan at hsearch ⊢
  cases hsearch with
  | @refused e he error herror =>
    simp only [he, Plan.run]
    refine ⟨⟨?_, fun h => absurd rfl h⟩, ?_, ?_, trivial⟩
    · rintro ⟨f, hf⟩
      cases hf
    · intro f hf
      cases hf
    · intro shownError hshown
      cases hshown
      exact ⟨e, error, rfl, rfl, herror, trivial⟩
  | @sent f hf query hquery next hnext =>
    obtain ⟨r, hr, hbody⟩ := exists_request hname hurl query
    simp only [hf, Plan.run, Client.answer, hr, recorded, List.nil_append]
    obtain ⟨result, hresult⟩ :=
      hnext (Client.read (.search arguments.index query) r (network s r).1)
    simp only [hresult, Plan.run]
    refine ⟨⟨fun _ => List.cons_ne_nil r [], fun _ => ⟨f, rfl⟩⟩, ?_, ?_, trivial⟩
    · intro f' hf'
      cases hf'
      exact ⟨client, query, r, hclient, hr, rfl, hbody, hquery⟩
    · intro error herror
      cases herror

end Commands

/-! ### One search -/

/-- The filter command shows the filter that compiling its text gives. -/
theorem result_compileFilter {settings : Settings} {text f : String}
    (h : (Filter.compileText settings.filter text).result.toOption = some f) :
    (compileFilter settings text).result = .ok f := by
  rw [compileFilter]
  cases hresult : (Filter.compileText settings.filter text).result with
  | error e =>
    rw [hresult] at h
    cases h
  | ok shown =>
    rw [hresult] at h
    exact congrArg Except.ok (Option.some.inj h)

/-- A search of an index for what a filter says of one column. -/
def plainSearch : SearchArguments :=
  { index := "products", filter := some "\x7b\"a\":1\x7d" }

/-- Searches of the plain setting go out. -/
theorem reaches_plainConfig : Reaches plainConfig "products" :=
  ⟨⟨"http://localhost", "key", "2024-07-01"⟩,
    "http://localhost/indexes/products/docs/search?api-version=2024-07-01", rfl, by decide, rfl⟩

/-- The one request has the filter, though nothing answers it. -/
theorem search_sends_filter_products :
    ∃ (query : Members) (r : Request),
      requestsOf Service.offline () bareSurroundings plainConfig (.service (.search plainSearch)) =
          [r] ∧
        r.body = some (Value.object query).text ∧
        query.get? "filter" = some (.string "a eq 1") := by
  have hcompile : (Filter.compileText plainConfig.engine.filter
      "\x7b\"a\":1\x7d").result.toOption = some "a eq 1" := by
    decide +kernel
  have htext : filterText bareSurroundings.disk bareSurroundings.places
      (some "\x7b\"a\":1\x7d") none = .ok "\x7b\"a\":1\x7d" := rfl
  have hfilter : plainSearch.filter = some "\x7b\"a\":1\x7d" := rfl
  have hshown := result_compileFilter hcompile
  rw [← carryOut_filter htext Service.offline ()] at hshown
  have h := search_sends_filter reaches_plainConfig hfilter htext Service.offline ()
  obtain ⟨-, query, r, -, -, hone, hbody, hmember⟩ := h.2.1 "a eq 1" hshown
  exact ⟨query, r, hone, hbody, hmember⟩

end SearchIndex.CommandLine
