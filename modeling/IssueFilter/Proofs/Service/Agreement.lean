import IssueFilter.Proofs.Message.Channels
import IssueFilter.Proofs.Query.Filling
import IssueFilter.Proofs.Search.Failing
import IssueFilter.Proofs.Service.Confidentiality

/-! Validating a filter and searching for it. Both endpoints read the text and validate the query on the
same thread, so that what is wrong with a filter is told in the same words by either. After that only the
search itself can fail, and never for a call, since the query that is searched has none left. -/
namespace IssueFilter

namespace Runner

variable {runner : Runner OnThread} {index : Index} {viewer thread : Viewer} {text : String}
  {page : Page} {query : Query}

theorem calls_resolve (runner : Runner OnThread) (viewer thread : Viewer) (query : Query) :
    ((runner.resolve viewer query).run thread).1.calls = [] := by
  rw [resolve_eq_fill]
  exact query.calls_fill _

theorem run_of_unreadable {e : ParseError} (unreadable : runner.parse text = .error e) :
    (runner.run viewer text page).run thread = (.error (.parse e), thread) := by
  unfold Runner.run
  rw [unreadable]
  rfl

section

variable (read : runner.parse text = .ok query)
include read

theorem run_of_errors {messages : MessageSet} {after : Viewer}
    (validated : (runner.validate viewer query).run thread = pure (messages, after))
    (errors : messages.errors ≠ []) :
    (runner.run viewer text page).run thread = (.error (.validation messages), after) := by
  have has : messages.hasErrors = true := by
    rw [← Bool.not_eq_false, ← MessageSet.errors_eq_nil_iff]
    exact errors
  unfold Runner.run
  simp only [read, StateT.run_bind, validated, pure_bind, has, if_true]
  rfl

theorem run_of_no_errors (searches : ∀ viewer query page,
      runner.search viewer query page = pure (index.search viewer query page))
    {messages : MessageSet} {after : Viewer}
    (validated : (runner.validate viewer query).run thread = pure (messages, after))
    (clear : messages.errors = []) : ∃ resolved : Query, resolved.calls = [] ∧
      ((runner.run viewer text page).run thread).1 =
        (index.search viewer resolved page).mapError .search := by
  have none := (MessageSet.errors_eq_nil_iff messages).mp clear
  have noCalls := runner.calls_resolve viewer after query
  obtain ⟨resolved, later, resolution⟩ : ∃ resolved later,
      (runner.resolve viewer query).run after = pure (resolved, later) := ⟨_, _, rfl⟩
  rw [resolution] at noCalls
  refine ⟨resolved, noCalls, ?_⟩
  unfold Runner.run
  simp only [read, StateT.run_bind, validated, pure_bind, none, Bool.false_eq_true, if_false,
    resolution, searches]
  cases index.search viewer resolved page with
  | error e => rfl
  | ok results => rfl

end

end Runner

/-- How a reply to a search agrees with the reply to a validation of the same request: what is wrong
with the filter is told by both, and otherwise only the search itself can fail, but not for a call. -/
structure Reply.Agree (validated searched : Reply) : Prop where
  rejected : validated.body.errors ≠ [] →
    searched.status = .badRequest ∧ searched.body.word = "error" ∧
      searched.body.errors = validated.body.errors ∧
      searched.body.issues = none ∧ searched.body.total = none
  accepted : validated.body.errors = [] →
    (searched.status = .ok ∧ searched.body.issues.isSome = true ∧
      searched.body.total.isSome = true) ∨
    (searched.status = .badRequest ∧ ∃ e : SearchError,
      searched.body.errors = ["Search error: " ++ e.message] ∧
        ∀ name, e.message ≠ (SearchError.unresolvedFunction name).message)

/-- The reply to a search that came out so. -/
def Reply.ofOutcome : Except Failure SearchResults → Reply
  | .error failure => ofFailure failure
  | .ok results => ofResults results

/-- The ways in which the replies to a validation and to a search can go together. -/
inductive Request.Replied (parse : QueryParser) (index : Index) (request : Request) :
    Reply → Reply → Prop
  | unreadable {e : ParseError} : parse request.filter = .error e →
      Replied parse index request (.ofFailure (.parse e)) (.ofFailure (.parse e))
  | rejected {query : Query} {messages : MessageSet} :
      parse request.filter = .ok query → messages.errors ≠ [] →
      Replied parse index request (.ofMessages messages) (.ofFailure (.validation messages))
  | searched {query resolved : Query} {messages : MessageSet} :
      parse request.filter = .ok query → messages.errors = [] → resolved.calls = [] →
      Replied parse index request (.ofMessages messages)
        (.ofOutcome ((index.search request.viewer resolved request.page).mapError .search))

section

variable {runner : Runner OnThread} {index : Index} {request : Request} {thread : Viewer}

theorem Endpoint.run_searched : ((searched runner request).run thread).1 =
    .ofOutcome ((runner.run request.viewer request.filter request.page).run thread).1 := by
  unfold searched
  rw [StateT.run_bind]
  cases (runner.run request.viewer request.filter request.page).run thread with
  | mk outcome after =>
      cases outcome with
      | error failure => rfl
      | ok results => rfl

theorem Endpoint.replied (searches : ∀ viewer query page,
      runner.search viewer query page = pure (index.search viewer query page)) :
    request.Replied runner.parse index ((validated runner request).run thread).1
      ((searched runner request).run thread).1 := by
  rw [run_searched]
  unfold validated
  cases read : runner.parse request.filter with
  | error e =>
      rw [Runner.run_of_unreadable read]
      exact .unreadable read
  | ok query =>
      obtain ⟨messages, after, validation⟩ : ∃ messages after,
          (runner.validate request.viewer query).run thread = pure (messages, after) :=
        ⟨_, _, rfl⟩
      simp only [StateT.run_bind, validation, pure_bind]
      by_cases clear : messages.errors = []
      · obtain ⟨resolved, noCalls, outcome⟩ := Runner.run_of_no_errors read searches validation clear
        rw [outcome]
        exact .searched read clear noCalls
      · rw [Runner.run_of_errors read validation clear]
        exact .rejected read clear

end

namespace Request.Replied

variable {parse : QueryParser} {index : Index} {request : Request} {validated searched : Reply}
  (replied : request.Replied parse index validated searched)
include replied

theorem agree : Reply.Agree validated searched := by
  cases replied with
  | unreadable read =>
      refine ⟨fun _ => ⟨rfl, rfl, rfl, rfl, rfl⟩, fun clear => ?_⟩
      cases clear
  | rejected read errors =>
      exact ⟨fun _ => ⟨rfl, rfl, rfl, rfl, rfl⟩, fun clear => absurd clear errors⟩
  | @searched _ resolved _ read clear noCalls =>
      refine ⟨fun errors => absurd clear errors, fun _ => ?_⟩
      cases outcome : index.search request.viewer resolved request.page with
      | ok results => exact .inl ⟨rfl, rfl, rfl⟩
      | error e =>
          have notUnresolved := Index.search_ne_unresolved noCalls outcome
          exact .inr ⟨rfl, e, rfl, e.message_ne_unresolvedFunction notUnresolved⟩

theorem badRequest_iff :
    validated.status = .badRequest ↔ ∃ e, parse request.filter = .error e := by
  cases replied with
  | unreadable read => exact iff_of_true rfl ⟨_, read⟩
  | rejected read _ | searched read _ _ =>
      rw [read]
      constructor
      · intro bad
        cases bad
      · rintro ⟨e, same⟩
        cases same

theorem status_ne_internalServerError : validated.status ≠ .internalServerError ∧
    searched.status ≠ .internalServerError := by
  have ok : Status.ok ≠ .internalServerError := by decide
  have bad : Status.badRequest ≠ .internalServerError := by decide
  cases replied with
  | unreadable _ => exact ⟨bad, bad⟩
  | rejected _ _ => exact ⟨ok, bad⟩
  | @searched _ resolved _ _ _ _ =>
      cases index.search request.viewer resolved request.page with
      | ok results => exact ⟨ok, ok⟩
      | error e => exact ⟨ok, bad⟩

end Request.Replied

/-- For every request the endpoints that validate and that search agree, whoever is entered on the
thread before. Validation is refused exactly for texts that cannot be read, and neither endpoint breaks
down. -/
theorem endpoints_agree (config : Config) (index : Index) (request : Request) (thread : Viewer) :
    let runner := Runner.ofIndex config index
    let validated := ((Endpoint.validate.handle runner request).run thread).1
    let searched := ((Endpoint.search.handle runner request).run thread).1
    Reply.Agree validated searched ∧
      (validated.status = .badRequest ↔ ∃ e, Query.parse request.filter = .error e) ∧
      validated.status ≠ .internalServerError ∧ searched.status ≠ .internalServerError := by
  intro runner validated searched
  have replied : request.Replied runner.parse index validated searched :=
    Endpoint.replied fun _ _ _ => rfl
  exact ⟨replied.agree, replied.badRequest_iff, replied.status_ne_internalServerError⟩

/-- A call of an unknown function in a list is rejected by both endpoints, and a condition that cannot be
evaluated beside a sub-query only by the search. -/
theorem endpoints_agree_unknownFunction :
    let runner := Runner.ofIndex {} (Index.empty.run publicChanges)
    let reply (endpoint : Endpoint) (filter : String) :=
      ((endpoint.handle runner ⟨filter, .anonymous, .unlimited⟩).run (.user "bob")).1
    let unknown := "id in (10, nope(x))"
    let unordered := "key in issuesInQuery('id = 10') and status < 3"
    (reply .search unknown).body.errors = (reply .validate unknown).body.errors ∧
      (reply .validate unknown).body.errors ≠ [] ∧
      (reply .validate unordered).body.errors = [] ∧
      (reply .search unordered).status = .badRequest := by
  intro runner reply unknown unordered
  have rejected : (reply .validate unknown).body.errors ≠ [] := by decide +kernel
  have clear : (reply .validate unordered).body.errors = [] := by decide +kernel
  have agreeUnknown :=
    endpoints_agree {} (Index.empty.run publicChanges) ⟨unknown, .anonymous, .unlimited⟩ (.user "bob")
  have agreeUnordered :=
    endpoints_agree {} (Index.empty.run publicChanges) ⟨unordered, .anonymous, .unlimited⟩ (.user "bob")
  refine ⟨(agreeUnknown.1.rejected rejected).2.2.1, rejected, clear, ?_⟩
  rcases agreeUnordered.1.accepted clear with ⟨-, issues, -⟩ | ⟨refused, -⟩
  · exact absurd issues (by decide +kernel)
  · exact refused

end IssueFilter
