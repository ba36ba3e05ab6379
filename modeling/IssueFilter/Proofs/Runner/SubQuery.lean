import IssueFilter.Proofs.Function.Evaluation
import IssueFilter.Proofs.Query.RoundTrip
import IssueFilter.Proofs.Search.Ids
import IssueFilter.Service.Endpoint

/-! A filter that asks for the issues of a sub-query. It passes validation, the call in it is replaced
by the ids that the sub-query finds, and the search for these cannot fail. What it finds is more than
the issues of these ids if the key of another issue is the numeral of one of them. -/
namespace IssueFilter

/-- The call with the sub-query as its only argument. -/
def subQueryCall (text : String) : Call := ⟨"issuesInQuery", [text]⟩

def subQueryCondition (text : String) : Condition := ⟨"issue", .isIn, .call (subQueryCall text)⟩

/-- The filter for the issues of a sub-query, the text of which is put in quotes. -/
def subQueryFilter (text : String) : String :=
  String.ofList ("issue in issuesInQuery(".toList ++ (Quoted.chars text.toList ++ [')']))

/-- Whatever the text of the sub-query is, it is the argument of the call. -/
theorem parse_subQueryFilter (text : String) :
    Query.parse (subQueryFilter text) = .ok ⟨some (.condition (subQueryCondition text)), []⟩ := by
  have field : isFieldName "issue" = true := by decide
  have name : isCallName "issuesInQuery" = true := by decide
  have wellFormed : Query.isWellFormed ⟨some (.condition (subQueryCondition text)), []⟩ = true := by
    simp [Query.isWellFormed, Query.isShaped, Clause.isShaped, Condition.isShaped, Clause.isFlat,
      Query.conditions, Clause.conditions, subQueryCondition, subQueryCall, Operator.admits,
      Operand.isCall, field, name]
  have printed : Query.chars ⟨some (.condition (subQueryCondition text)), []⟩ =
      "issue in issuesInQuery(".toList ++ (Quoted.chars text.toList ++ [')']) := by
    simp [Query.chars, Clause.chars, subQueryCondition, Condition.chars, Operator.symbol,
      Operand.chars, subQueryCall, Call.chars]
  have read := Query.ofChars_chars wellFormed
  rw [printed] at read
  unfold Query.parse subQueryFilter
  rw [String.toList_ofList]
  exact read

/-- The ids that a call stands for; there are none if it has no answer. -/
def idsOf : Except FunctionError (List CallValue) → List UInt64
  | .ok values => values.filterMap CallValue.id?
  | .error _ => []

/-- The issues that the viewer is shown for the ids. -/
def Index.shownFor (index : Index) (viewer : Viewer) (ids : List UInt64) : SearchResults :=
  let found := index.issues.filter fun issue =>
    index.canBrowse viewer issue.projectId &&
      (ids.contains issue.id || (ids.map Numeral.text).contains issue.key)
  ⟨found, found.length⟩

/-- What is shown are the browsable issues of the ids, unless a key of another one is such a numeral. -/
theorem Index.shownFor_iff (index : Index) (viewer : Viewer) (ids : List UInt64) :
    (index.shownFor viewer ids).issues = index.issues.filter (fun issue =>
        index.canBrowse viewer issue.projectId && ids.contains issue.id) ↔
      ∀ issue ∈ index.issues, index.canBrowse viewer issue.projectId = true →
        issue.key ∈ ids.map Numeral.text → issue.id ∈ ids := by
  constructor
  · intro same issue stored may key
    have shown : issue ∈ (index.shownFor viewer ids).issues := by
      rw [Index.shownFor, List.mem_filter, may, List.contains_iff_mem.mpr key, Bool.or_true]
      exact ⟨stored, rfl⟩
    rw [same, List.mem_filter, may, Bool.true_and, List.contains_iff_mem] at shown
    exact shown.2
  · intro apart
    apply List.filter_congr
    intro issue stored
    cases may : index.canBrowse viewer issue.projectId with
    | false => rfl
    | true =>
        cases key : (ids.map Numeral.text).contains issue.key with
        | false => rw [Bool.or_false]
        | true =>
            have own := apart issue stored may (List.contains_iff_mem.mp key)
            rw [List.contains_iff_mem.mpr own]
            rfl

namespace SubQuery

variable {m : Type → Type} [Monad m] {index : Index} {loggedIn : m Viewer} {catalog : Catalog}
  {config : FunctionConfig} {text : String} {query : Query}

theorem compile_subQueryCall (accepted : Query.parse text = .ok query) :
    compile (index.host loggedIn catalog) (subQueryCall text) = .ok query := by
  unfold compile subQueryCall
  simp only [Index.host, accepted]

variable [LawfulMonad m]

theorem tryValues_eq (accepted : Query.parse text = .ok query) (viewer : Viewer) :
    tryValues (index.host loggedIn catalog) config viewer (subQueryCall text) =
      answerAs index query (subQueryCall text) <$>
        runtimeIdentity (index.host loggedIn catalog) config viewer :=
  tryValues_of_ok (compile_subQueryCall accepted) viewer

/-- The values are numbers, so the call is replaced by the list of its ids. -/
theorem literals_answerAs (index : Index) (query : Query) (call : Call) (user : Viewer) :
    (valuesIn (answerAs index query call user)).map
        (fun (value : CallValue) => Operand.single value.value) =
      (idsOf (answerAs index query call user)).map fun id => .single (.number id) := by
  unfold answerAs
  cases index.search user query .unlimited with
  | error e => rfl
  | ok results =>
      have ids : idsOf (.ok (results.issues.map fun issue => ⟨call, .number issue.id⟩)) =
          results.issues.map Issue.id := by
        rw [idsOf, List.filterMap_map]
        exact congrFun List.filterMap_eq_map' results.issues
      simp only [ids, valuesIn, List.map_map]
      rfl

end SubQuery

namespace Runner

variable {m : Type → Type} [Monad m] [LawfulMonad m] {runner : Runner m} {index : Index}
  {loggedIn : m Viewer} {catalog : Catalog} {config : FunctionConfig} {text : String} {query : Query}

section

variable (known : runner.registry.find? "issuesInQuery" =
  some (SubQuery.function (index.host loggedIn catalog) config))
  (accepted : Query.parse text = .ok query)
include known accepted

/-- The sub-query is a filter and there are no project arguments, so there is nothing to be said. -/
theorem validate_subQuery (viewer : Viewer) :
    runner.validate viewer ⟨some (.condition (subQueryCondition text)), []⟩ = pure .empty := by
  have calls : Query.calls ⟨some (.condition (subQueryCondition text)), []⟩ =
    [(subQueryCondition text, subQueryCall text)] := rfl
  have fits : DataType.issue.fits (subQueryCondition text).field = true :=
    show DataType.issue.fits "issue" = true by decide
  have checked : SubQuery.check (index.host loggedIn catalog) config viewer (subQueryCall text) =
      .empty := by
    unfold SubQuery.check
    rw [SubQuery.compile_subQueryCall accepted]
    rfl
  have validated : runner.validateCall viewer (subQueryCondition text) (subQueryCall text) =
      pure .empty := by
    unfold validateCall
    rw [show (subQueryCall text).name = "issuesInQuery" from rfl, known]
    simp only [SubQuery.function, fits, if_true, checked]
  unfold validate
  rw [calls, List.foldlM_cons]
  simp only [validated, pure_bind, List.foldlM_nil]
  rfl

theorem resolve_subQuery (viewer : Viewer) :
    runner.resolve viewer ⟨some (.condition (subQueryCondition text)), []⟩ =
      (fun user => Index.idsQuery
        (idsOf (SubQuery.answerAs index query (subQueryCall text) user))) <$>
          SubQuery.runtimeIdentity (index.host loggedIn catalog) config viewer := by
  have values : runner.valuesOf viewer (subQueryCondition text) (subQueryCall text) =
      SubQuery.values (index.host loggedIn catalog) config viewer (subQueryCall text) := by
    unfold valuesOf
    rw [show (subQueryCall text).name = "issuesInQuery" from rfl, known]
    rfl
  rw [SubQuery.values_eq_valuesIn, SubQuery.tryValues_eq accepted] at values
  simp only [resolve, Query.mapCallsM, Query.mapConditionsM, Clause.mapConditionsM,
    subQueryCondition, Operand.mapCallsM]
  rw [subQueryCondition] at values
  simp only [values, map_eq_pure_bind, bind_assoc, pure_bind]
  congr 1
  funext user
  rw [SubQuery.literals_answerAs]
  rfl

end

/-- For an index that can come about, the filter `issue in issuesInQuery("...")` with an accepted
sub-query is never rejected and never fails. It finds the browsable issues whose ids the call stands for
in its context, and those whose key is the numeral of such an id. These are issues of the ids just if no
other browsable issue has such a key. -/
theorem run_subQueryFilter (reachable : index.Reachable) (parses : runner.parse = Query.parse)
    (searches : runner.search = (index.host loggedIn catalog).search)
    (known : runner.registry.find? "issuesInQuery" =
      some (SubQuery.function (index.host loggedIn catalog) config))
    (accepted : Query.parse text = .ok query) (viewer : Viewer) :
    (runner.run viewer (subQueryFilter text) .unlimited = do
      let answer ← SubQuery.tryValues (index.host loggedIn catalog) config viewer
        (subQueryCall text)
      return .ok (index.shownFor viewer (idsOf answer))) ∧
    ∀ ids, (index.shownFor viewer ids).issues = index.issues.filter (fun issue =>
        index.canBrowse viewer issue.projectId && ids.contains issue.id) ↔
      ∀ issue ∈ index.issues, index.canBrowse viewer issue.projectId = true →
        issue.key ∈ ids.map Numeral.text → issue.id ∈ ids := by
  have found : ∀ ids, runner.search viewer (Index.idsQuery ids) .unlimited =
      pure (.ok (index.shownFor viewer ids)) := by
    intro ids
    rw [searches]
    exact congrArg pure (reachable.consistent.search_idsQuery ids viewer)
  refine ⟨?_, index.shownFor_iff viewer⟩
  unfold run
  rw [parses, parse_subQueryFilter]
  simp only [validate_subQuery known accepted, pure_bind]
  rw [resolve_subQuery known accepted, SubQuery.tryValues_eq accepted]
  simp only [map_eq_pure_bind, bind_assoc, pure_bind, found]
  rfl

/-- The answer of an action on a thread and what is made of it. -/
theorem answer_of_bind {α β : Type} (action : OnThread α) (f : α → β) (thread : Viewer) :
    ((do let a ← action; return f a) thread : β × Viewer).1 = f (action thread).1 := rfl

/-- The sub-query is searched on behalf of alice, who is on the thread and may browse both issues, and
the filter on behalf of an anonymous viewer, who may browse one. -/
theorem run_subQueryFilter_onThread :
    let index := Index.empty.run Index.mixedChanges
    let run := (ofIndex {} index).run .anonymous (subQueryFilter "id in (10, 12)") .unlimited
    ∃ results, (run (.user "alice")).1 = .ok results ∧ results.issues.map Issue.id = [12] ∧
      results.total = 1 := by
  intro index run
  have reachable : index.Reachable := ⟨Index.mixedChanges, rfl⟩
  have accepted : Query.parse "id in (10, 12)" = .ok
    ⟨some (.condition ⟨"id", .isIn, .list [.single (.number 10), .single (.number 12)]⟩), []⟩ := rfl
  have searches : (ofIndex {} index).search =
    (index.host Session.current (Config.catalog {})).search := rfl
  have known : (ofIndex {} index).registry.find? "issuesInQuery" =
      some (SubQuery.function (index.host Session.current (Config.catalog {})) {}) :=
    find?_ofIndex {} index "issuesInQuery"
  have exactly := (run_subQueryFilter reachable rfl searches known accepted .anonymous).1
  have ran : (run (.user "alice")).1 = _ :=
    congrArg (fun (action : OnThread (Except Failure SearchResults)) => (action (.user "alice")).1)
      exactly
  have answered : idsOf (SubQuery.tryValues (index.host Session.current (Config.catalog {})) {}
      .anonymous (subQueryCall "id in (10, 12)") (.user "alice")).1 = [10, 12] := by decide +kernel
  rw [answer_of_bind, answered] at ran
  exact ⟨_, ran, by decide +kernel, by decide +kernel⟩

/-- Two public issues; the key of the second is the id of the first. -/
def numeralKeyChanges : List Change :=
  [.addProject ⟨1, "P", "P"⟩, .grantBrowseToAnyone "P",
    .addIssue ⟨7, "P-7", 1, "alpha", "Open", "Task", none, none, none, [], Index.sampleDay⟩,
    .addIssue ⟨8, "7", 1, "beta", "Open", "Task", none, none, none, [], Index.sampleDay⟩]

/-- The call stands for the first issue only, and the filter finds both. -/
theorem run_subQueryFilter_numeralKey :
    let index := Index.empty.run numeralKeyChanges
    let call : Call := ⟨"issuesInQuery", ["summary = alpha"]⟩
    let ids := idsOf (SubQuery.tryValues (index.host Session.current (Config.catalog {})) {}
      .anonymous call .anonymous).1
    index.Reachable ∧ ids = [7] ∧
      ∃ results, ((ofIndex {} index).run .anonymous "issue in issuesInQuery(\"summary = alpha\")"
          .unlimited .anonymous).1 = .ok results ∧
        results.issues.map Issue.id = [7, 8] ∧
        results.issues ≠ index.issues.filter fun issue =>
          index.canBrowse .anonymous issue.projectId && ids.contains issue.id := by
  intro index call ids
  exact ⟨⟨numeralKeyChanges, rfl⟩, by decide +kernel, ⟨index.issues, 2⟩, by decide +kernel,
    by decide +kernel, by decide +kernel⟩

end Runner

end IssueFilter
