import IssueFilter.Proofs.Effect.Basic
import IssueFilter.Proofs.Search.Paging
import IssueFilter.Proofs.Service.Agreement

/-! Pages of filters and of requests. All that is done for a filter before the search itself is done without
knowing the page, sub-queries included, which are always searched as a whole. So the pages of a
filter fit together as those of a search do, and the replies to a request for them as well. -/
namespace IssueFilter

namespace SubQuery

variable {m : Type → Type} [Monad m] {host : Host m} {config : FunctionConfig}

/-- Only the answers to unlimited searches are looked at. -/
theorem tryValues_of_unlimited {service : SearchService m} (same : ∀ viewer query,
      service viewer query .unlimited = host.search viewer query .unlimited)
    (viewer : Viewer) (call : Call) : tryValues { host with search := service } config viewer call =
      tryValues host config viewer call := by
  have identity : runtimeIdentity { host with search := service } config viewer =
      runtimeIdentity host config viewer := rfl
  have compiled : compile { host with search := service } call = compile host call := rfl
  unfold tryValues
  simp only [identity, compiled, same]

end SubQuery

namespace Runner

variable {m : Type → Type} [Monad m] [LawfulMonad m] {runner : Runner m} {index : Index}

/-- The outcomes for all pages come from one computation, which does not know the page. -/
theorem run_pages (h : index.Consistent) (searches : ∀ viewer query page,
      runner.search viewer query page = pure (index.search viewer query page))
    (viewer : Viewer) (text : String) : ∃ outcomes : m (Page → Except Failure SearchResults),
      Ensures outcomes PagesTile ∧
      ∀ page, runner.run viewer text page = (fun outcome => outcome page) <$> outcomes := by
  unfold run
  cases runner.parse text with
  | error e => exact ⟨pure fun _ => .error (.parse e), .pure (.ofError _), fun page => by rw [map_pure]⟩
  | ok query =>
      let outcomes : m (Page → Except Failure SearchResults) := do
        let messages ← runner.validate viewer query
        if messages.hasErrors then return fun _ => .error (.validation messages)
        let resolved ← runner.resolve viewer query
        return fun page => (index.search viewer resolved page).mapError .search
      refine ⟨outcomes, ?_, fun page => ?_⟩
      · refine (Ensures.trivial _).bind fun messages _ => ?_
        cases messages.hasErrors with
        | true => exact .pure (.ofError _)
        | false =>
            refine (Ensures.trivial _).bind fun resolved _ => .pure ?_
            exact (h.pagesTile_search viewer resolved).mapError Failure.search
      · simp only [outcomes, map_bind]
        congr 1
        funext messages
        cases messages.hasErrors with
        | true => simp
        | false =>
            simp only [Bool.false_eq_true, if_false, map_bind, map_pure, searches, pure_bind]
            congr 1
            funext resolved
            cases index.search viewer resolved page <;> rfl

end Runner

/-- For an index that can come about, the searches for the pages of a query fit together: all fail alike,
or they succeed and tile the unlimited result. A runner that searches the index does the same, however it
reads texts and whatever its functions do, and what it does before the search is the same for all pages; so
do the replies to requests for the pages of a filter. A sub-query is only ever searched without paging: what
a service would answer for a page makes no difference to it. -/
theorem pages_tile {index : Index} (reachable : index.Reachable) :
    (∀ viewer query, PagesTile (index.search viewer query)) ∧
    (∀ {m : Type → Type} [Monad m] [LawfulMonad m] (runner : Runner m),
      (∀ viewer query page, runner.search viewer query page = pure (index.search viewer query page)) →
      ∀ viewer text, ∃ outcomes : m (Page → Except Failure SearchResults),
        Ensures outcomes PagesTile ∧
        ∀ page, runner.run viewer text page = (fun outcome => outcome page) <$> outcomes) ∧
    (∀ runner : Runner OnThread,
      (∀ viewer query page, runner.search viewer query page = pure (index.search viewer query page)) →
      ∀ (request : Request) (thread : Viewer), ∃ outcome : Page → Except Failure SearchResults,
        PagesTile outcome ∧
        ∀ page, (Endpoint.search.handle runner { request with page }).run thread =
          (.ofOutcome (outcome page), thread)) ∧
    ∀ {m : Type → Type} [Monad m] (host : Host m) (service : SearchService m),
      (∀ viewer query, service viewer query .unlimited = host.search viewer query .unlimited) →
      ∀ config viewer call condition,
        (SubQuery.function { host with search := service } config).values viewer call condition =
          (SubQuery.function host config).values viewer call condition := by
  have consistent := reachable.consistent
  refine ⟨consistent.pagesTile_search, fun _ searches => Runner.run_pages consistent searches, ?_, ?_⟩
  · intro runner searches request thread
    obtain ⟨outcomes, tile, pages⟩ :=
      Runner.run_pages consistent searches request.viewer request.filter
    refine ⟨(outcomes.run request.viewer).1, tile.run request.viewer, fun page => ?_⟩
    have searched : ((Endpoint.searched runner { request with page }).run request.viewer).1 =
        .ofOutcome ((runner.run request.viewer request.filter page).run request.viewer).1 :=
      Endpoint.run_searched
    rw [pages page] at searched
    rw [Endpoint.handle, Session.run_within]
    exact congrArg (fun reply => (reply, thread)) searched
  · intro m _ host service same config viewer call condition
    simp only [SubQuery.function, SubQuery.values, SubQuery.tryValues_of_unlimited same]

/-- Three issues have a priority. The second page of two has the last of them, a page from the second one on
may ask for as many as can be, and behind the last one there is nothing. -/
theorem pages_tile_prioritised :
    let index := Index.empty.run Index.prioritisedChanges
    let runner := Runner.ofIndex {} index
    let request (page : Page) : Request :=
      ⟨"key in issuesInQuery('priority is not empty')", .anonymous, page⟩
    let reply (page : Page) := (Endpoint.search.handle runner (request page)).run (.user "bob")
    let ids (page : Page) := (reply page).1.body.issues.map fun issues => issues.map IssueSummary.id
    PagesTile (index.search .anonymous ⟨none, []⟩) ∧
      (∃ outcome, PagesTile outcome ∧
        ∀ page, reply page = (.ofOutcome (outcome page), .user "bob")) ∧
      [⟨0, some 2⟩, ⟨2, some 2⟩, ⟨1, some (UInt64.size - 1)⟩, ⟨UInt64.size - 1, none⟩].map ids =
        [some [10, 12], some [14], some [12, 14], some []] := by
  intro index runner request reply ids
  have reachable : index.Reachable := ⟨Index.prioritisedChanges, rfl⟩
  have tile := pages_tile reachable
  refine ⟨tile.1 .anonymous ⟨none, []⟩, ?_, ?_⟩
  · exact tile.2.2.1 runner (fun _ _ _ => rfl) (request .unlimited) (.user "bob")
  · decide +kernel

end IssueFilter
