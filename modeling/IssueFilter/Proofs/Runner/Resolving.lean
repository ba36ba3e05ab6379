import IssueFilter.Proofs.Effect.Basic
import IssueFilter.Proofs.Query.Answering
import IssueFilter.Proofs.Search.Failing
import IssueFilter.Query.Equality
import IssueFilter.Service.Endpoint

/-! Resolving a query. It removes every call, known or not, and leaves alone what is no call; a query without
calls is not touched at all. So a runner that searches an index is never told that a call was left, and a
text without calls is searched for as it stands. -/
namespace IssueFilter.Runner

variable {m : Type → Type} [Monad m] [LawfulMonad m] (runner : Runner m) (viewer : Viewer)

theorem resolve_ensures (query : Query) : Ensures (runner.resolve viewer query) fun resolved =>
    resolved.calls = [] ∧ query.Exchanged Clause.CallsAnswered resolved := by
  rw [resolve_eq_fill]
  exact .map fun found => ⟨query.calls_fill found, query.exchanged_fill found⟩

theorem resolve_of_noCalls {query : Query} (noCalls : query.calls = []) :
    runner.resolve viewer query = pure query :=
  Query.mapCallsM_of_noCalls _ noCalls

theorem sanitise_of_noCalls {query : Query} (noCalls : query.calls = []) :
    runner.sanitise viewer query = pure query :=
  Query.mapCallsM_of_noCalls _ noCalls

section Searching

variable {runner} {index : Index} (searches : ∀ viewer query page,
  runner.search viewer query page = pure (index.search viewer query page))
include searches

/-- What is searched for has no calls left that a search could fail for. -/
theorem run_ensures (text : String) (page : Page) : Ensures (runner.run viewer text page) fun outcome =>
    ∀ name, outcome ≠ .error (.search (.unresolvedFunction name)) := by
  unfold run
  cases runner.parse text with
  | error e => exact .pure fun name same => by cases same
  | ok query =>
      refine (Ensures.trivial _).bind fun messages _ => ?_
      cases messages.hasErrors with
      | true => exact .pure fun name same => by cases same
      | false =>
          refine (runner.resolve_ensures viewer query).bind fun resolved ⟨noCalls, _⟩ => ?_
          rw [searches, pure_bind]
          cases outcome : index.search viewer resolved page with
          | ok results => exact .pure fun name same => by cases same
          | error e =>
              refine .pure fun name same => ?_
              cases same
              exact Index.search_ne_unresolved noCalls outcome name rfl

theorem run_of_noCalls {text : String} {query : Query} (read : runner.parse text = .ok query)
    (noCalls : query.calls = []) (page : Page) :
    runner.run viewer text page = pure ((index.search viewer query page).mapError .search) := by
  have silent : runner.validate viewer query = pure .empty := by
    rw [validate, noCalls, List.foldlM_nil]
  unfold run
  simp only [read, silent, pure_bind, runner.resolve_of_noCalls viewer noCalls, searches]
  cases index.search viewer query page with
  | error e => rfl
  | ok results => rfl

end Searching

/-- However a runner reads texts and whatever functions it has, resolving a query leaves no call in it, at
any depth, and changes nothing but its calls; a query without calls is neither changed by resolving nor by
sanitising, and nothing else is done for it. If the runner searches an index then no text makes it fail for a
call that was not resolved, and for a text that it reads as a query without calls it does what the index does
for this query. -/
theorem resolve_removes_calls (runner : Runner m) (viewer : Viewer) :
    (∀ query : Query,
      Ensures (runner.resolve viewer query) (fun resolved =>
        resolved.calls = [] ∧ query.Exchanged Clause.CallsAnswered resolved) ∧
      (query.calls = [] →
        runner.resolve viewer query = pure query ∧ runner.sanitise viewer query = pure query)) ∧
    ∀ index : Index, (∀ viewer query page,
        runner.search viewer query page = pure (index.search viewer query page)) →
      ∀ text page,
        Ensures (runner.run viewer text page) (fun outcome =>
          ∀ name, outcome ≠ .error (.search (.unresolvedFunction name))) ∧
        ∀ query, runner.parse text = .ok query → query.calls = [] →
          runner.run viewer text page =
            pure ((index.search viewer query page).mapError .search) := by
  refine ⟨fun query => ⟨runner.resolve_ensures viewer query, fun noCalls => ?_⟩, ?_⟩
  · exact ⟨runner.resolve_of_noCalls viewer noCalls, runner.sanitise_of_noCalls viewer noCalls⟩
  · intro index searches text page
    exact ⟨run_ensures viewer searches text page,
      fun query read noCalls => run_of_noCalls viewer searches read noCalls page⟩

/-- A call of no function and a call of the function in a list in a list. The one gives way to no value and
the other to the id that it finds for alice, who is on the thread; and a text without calls is searched for
on the second page. -/
theorem resolve_removes_calls_mixed :
    let index := Index.empty.run Index.mixedChanges
    let runner := ofIndex {} index
    let asking (nope found : Operand) : Query := ⟨some (.not (.condition ⟨"id", .isIn,
      .list [.single (.number 11), .list [nope, .empty, found]]⟩)), [⟨"key", .descending⟩]⟩
    let query := asking (.call ⟨"nope", ["x"]⟩) (.call ⟨"issuesInQuery", ["id = 10"]⟩)
    let resolved := asking (.list []) (.list [.single (.number 10)])
    ((runner.resolve .anonymous query).run (.user "alice")).1 = resolved ∧
      (resolved.calls = [] ∧ query.Exchanged Clause.CallsAnswered resolved) ∧
      (∀ text thread name, ((runner.run .anonymous text .unlimited).run thread).1 ≠
        .error (.search (.unresolvedFunction name))) ∧
      runner.run .anonymous "id = 11 or not id in (11)" ⟨1, some 1⟩ =
        pure (.ok ⟨index.issues.drop 2, 2⟩) := by
  intro index runner asking query resolved
  have removes := resolve_removes_calls runner .anonymous
  have searches := removes.2 index fun _ _ _ => rfl
  have same : ((runner.resolve .anonymous query).run (.user "alice")).1 = resolved := by
    decide +kernel
  have ensured := (removes.1 query).1.run (.user "alice")
  rw [same] at ensured
  refine ⟨same, ensured, fun text thread => (searches text _).1.run thread, ?_⟩
  have read : runner.parse "id = 11 or not id in (11)" =
      .ok ⟨some (.or [.condition ⟨"id", .equals, .single (.number 11)⟩,
        .not (.condition ⟨"id", .isIn, .list [.single (.number 11)]⟩)]), []⟩ := rfl
  have found : index.search .anonymous ⟨some (.or [.condition ⟨"id", .equals, .single (.number 11)⟩,
      .not (.condition ⟨"id", .isIn, .list [.single (.number 11)]⟩)]), []⟩ ⟨1, some 1⟩ =
        .ok ⟨index.issues.drop 2, 2⟩ := by decide +kernel
  rw [(searches _ _).2 _ read rfl, found]
  rfl

end IssueFilter.Runner
