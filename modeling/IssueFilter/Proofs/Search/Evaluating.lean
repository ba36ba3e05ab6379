import IssueFilter.Proofs.Search.Hits

/-! From the outcome of a condition on an issue, and of a query on each issue, to the outcome of the search. A
condition without calls is what it says of the values of its field. Where the query can be evaluated
on every browsable issue, it filters them; where it fails on each of them in one way, it fails in this way
if there is one at all; and queries that have the same outcome on each are not told apart. -/
namespace IssueFilter.Index

/-- The issues of the projects that the viewer may browse, as they were added. -/
def browsableIssues (index : Index) (viewer : Viewer) : List Issue :=
  index.issues.filter fun issue => index.canBrowse viewer issue.projectId

/-- A page of the issues that were found. -/
def resultsOf (found : List Issue) (page : Page) : SearchResults := ⟨page.select found, found.length⟩

theorem select_nil (page : Page) : page.select ([] : List Issue) = [] := by
  unfold Page.select
  cases page.max with
  | none => exact List.drop_nil
  | some max => simp only [List.drop_nil, List.take_nil]

section Conditions

variable (index : Index) (issue : Issue) {field : String} {operator : Operator} {operand : Operand}

theorem satisfiesCondition_of_noCalls (noCalls : operand.calls = []) :
    index.satisfiesCondition issue ⟨field, operator, operand⟩ =
      (do Condition.holdsOf ⟨field, operator, operand⟩ (← index.valuesOf issue field)) := by
  rw [satisfiesCondition]
  simp only [noCalls]

theorem satisfiesCondition_of_values {values : List FieldValue}
    (known : index.valuesOf issue field = .ok values) (noCalls : operand.calls = []) :
    index.satisfiesCondition issue ⟨field, operator, operand⟩ =
      Condition.holdsOf ⟨field, operator, operand⟩ values := by
  rw [index.satisfiesCondition_of_noCalls issue noCalls, known]
  rfl

/-- A field that does not exist is complained about before anything is compared. -/
theorem satisfiesCondition_of_unknown {e : SearchError}
    (unknown : index.valuesOf issue field = .error e) (noCalls : operand.calls = []) :
    index.satisfiesCondition issue ⟨field, operator, operand⟩ = .error e := by
  rw [index.satisfiesCondition_of_noCalls issue noCalls, unknown]
  rfl

end Conditions

section Hits

variable {index : Index} {query : Query} {issues : List Issue}

theorem hits_of_selects {p : Issue → Bool}
    (each : ∀ issue ∈ issues, index.selects query issue = .ok (p issue)) :
    index.hits query issues = .ok (issues.filter p) := by
  induction issues with
  | nil => exact hits_nil
  | cons issue issues ih =>
      rw [List.forall_mem_cons] at each
      rw [hits_cons, each.1, ih each.2, List.filter_cons]
      rfl

theorem hits_of_fails {e : SearchError} (some : issues ≠ [])
    (each : ∀ issue ∈ issues, index.selects query issue = .error e) :
    index.hits query issues = .error e := by
  obtain ⟨issue, others, rfl⟩ := List.exists_cons_of_ne_nil some
  rw [hits_cons, each issue List.mem_cons_self]
  rfl

theorem hits_same {other : Query}
    (each : ∀ issue ∈ issues, index.selects query issue = index.selects other issue) :
    index.hits query issues = index.hits other issues := by
  induction issues with
  | nil => rw [hits_nil, hits_nil]
  | cons issue issues ih =>
      rw [List.forall_mem_cons] at each
      rw [hits_cons, hits_cons, each.1, ih each.2]

end Hits

section Searching

variable {index : Index} {viewer : Viewer} {query : Query}

theorem Consistent.visible_eq_browsable (h : index.Consistent) (viewer : Viewer) :
    index.visibleIssues viewer = index.browsableIssues viewer := h.visibleIssues_eq viewer

theorem search_of_hits {hits : List Issue} (unordered : query.orderBy = [])
    (found : index.hits query (index.visibleIssues viewer) = .ok hits) (page : Page) :
    index.search viewer query page = .ok (resultsOf hits page) := by
  rw [search, found, unordered]
  rfl

/-- The issues that a search finds if it cannot fail. -/
theorem Consistent.search_of_selects (h : index.Consistent) (unordered : query.orderBy = [])
    {p : Issue → Bool}
    (each : ∀ issue ∈ index.browsableIssues viewer, index.selects query issue = .ok (p issue))
    (page : Page) : index.search viewer query page =
      .ok (resultsOf ((index.browsableIssues viewer).filter p) page) := by
  apply search_of_hits unordered
  rw [h.visible_eq_browsable]
  exact hits_of_selects each

/-- What fails on every issue fails as soon as there is one. -/
theorem Consistent.search_of_fails (h : index.Consistent) (unordered : query.orderBy = [])
    {e : SearchError}
    (each : ∀ issue ∈ index.browsableIssues viewer, index.selects query issue = .error e)
    (page : Page) : index.search viewer query page =
      if (index.browsableIssues viewer).isEmpty then .ok ⟨[], 0⟩ else .error e := by
  cases issues : index.browsableIssues viewer with
  | nil =>
      have found : index.hits query (index.visibleIssues viewer) = .ok [] := by
        rw [h.visible_eq_browsable, issues, hits_nil]
      rw [search_of_hits unordered found, resultsOf, select_nil]
      rfl
  | cons issue others =>
      have failed : index.hits query (index.visibleIssues viewer) = .error e := by
        rw [h.visible_eq_browsable]
        exact hits_of_fails (by rw [issues]; exact List.cons_ne_nil issue others) each
      rw [search, failed]
      rfl

theorem search_same {other : Query} (ordering : query.orderBy = other.orderBy)
    (each : ∀ issue ∈ index.visibleIssues viewer,
      index.selects query issue = index.selects other issue) (page : Page) :
    index.search viewer query page = index.search viewer other page := by
  rw [search, search, hits_same each, ordering]

end Searching

end IssueFilter.Index
