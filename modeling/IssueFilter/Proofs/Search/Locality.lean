import IssueFilter.Proofs.Search.Hits

/-! A search depends on an index only through the visible issues and the values of their fields. So
a search cannot tell two indexes apart that give the viewer the same view. -/
namespace IssueFilter.Index

variable {a b : Index}

theorem fieldValues_congr {issue : Issue}
    (same : a.projects.get? issue.projectId = b.projects.get? issue.projectId) (field : Field) :
    a.fieldValues issue field = b.fieldValues issue field := by
  cases field with
  | project => simp only [fieldValues, same]
  | issue | summary | status | kind | priority | assignee | reporter | labels | created => rfl

theorem valuesOf_congr {issue : Issue}
    (same : a.projects.get? issue.projectId = b.projects.get? issue.projectId) (field : String) :
    a.valuesOf issue field = b.valuesOf issue field := by
  unfold valuesOf
  cases Field.ofName? field with
  | none => rfl
  | some known => exact congrArg Except.ok (fieldValues_congr same known)

section

variable {issue : Issue}

theorem satisfiesCondition_congr
    (same : ∀ field, a.valuesOf issue field = b.valuesOf issue field) (condition : Condition) :
    a.satisfiesCondition issue condition = b.satisfiesCondition issue condition := by
  simp only [satisfiesCondition, same]

mutual

theorem satisfies_congr (same : ∀ field, a.valuesOf issue field = b.valuesOf issue field) :
    ∀ clause : Clause, a.satisfies issue clause = b.satisfies issue clause
  | .and children => satisfiesAll_congr same children
  | .or children => satisfiesAny_congr same children
  | .not child => by simp only [satisfies, satisfies_congr same child]
  | .condition c => satisfiesCondition_congr same c

theorem satisfiesAll_congr (same : ∀ field, a.valuesOf issue field = b.valuesOf issue field) :
    ∀ children : List Clause, a.satisfiesAll issue children = b.satisfiesAll issue children
  | [] => rfl
  | child :: children => by
      simp only [satisfiesAll, satisfies_congr same child, satisfiesAll_congr same children]

theorem satisfiesAny_congr (same : ∀ field, a.valuesOf issue field = b.valuesOf issue field) :
    ∀ children : List Clause, a.satisfiesAny issue children = b.satisfiesAny issue children
  | [] => rfl
  | child :: children => by
      simp only [satisfiesAny, satisfies_congr same child, satisfiesAny_congr same children]

end

variable (same : ∀ field, a.valuesOf issue field = b.valuesOf issue field)
include same

theorem selects_congr (query : Query) : a.selects query issue = b.selects query issue := by
  unfold selects
  cases query.clause with
  | none => rfl
  | some clause => exact satisfies_congr same clause

theorem sortValues_congr (keys : List SortKey) :
    a.sortValues keys issue = b.sortValues keys issue := by
  simp only [sortValues, same]

end

section

variable {issues : List Issue}
  (same : ∀ issue ∈ issues, ∀ field, a.valuesOf issue field = b.valuesOf issue field)
include same

theorem hits_congr (query : Query) : a.hits query issues = b.hits query issues := by
  induction issues with
  | nil => rw [hits_nil, hits_nil]
  | cons issue issues ih =>
      have first := selects_congr (same issue List.mem_cons_self) query
      have others := ih fun other member => same other (List.mem_cons_of_mem _ member)
      rw [hits_cons, hits_cons, first, others]

theorem arranged_congr (keys : List SortKey) : a.arranged keys issues = b.arranged keys issues := by
  have keyed : (issues.mapM fun issue => do return (← a.sortValues keys issue, issue)) =
      issues.mapM fun issue => do return (← b.sortValues keys issue, issue) := by
    induction issues with
    | nil => rfl
    | cons issue issues ih =>
        have first := sortValues_congr (same issue List.mem_cons_self) keys
        have others := ih fun other member => same other (List.mem_cons_of_mem _ member)
        rw [List.mapM_cons, List.mapM_cons, first, others]
  unfold arranged
  rw [keyed]

end

theorem mem_of_hits {index : Index} {query : Query} {issues hits : List Issue}
    (found : index.hits query issues = .ok hits) {issue : Issue} (member : issue ∈ hits) :
    issue ∈ issues := by
  have outcome := hits_outcome index query issues
  rw [found] at outcome
  rw [outcome.1] at member
  exact List.mem_of_mem_filter member

theorem SameView.search_eq {viewer : Viewer} (same : SameView viewer a b) (ha : a.Consistent)
    (hb : b.Consistent) (query : Query) (page : Page) :
    a.search viewer query page = b.search viewer query page := by
  have values : ∀ issue ∈ a.visibleIssues viewer, ∀ field,
      a.valuesOf issue field = b.valuesOf issue field :=
    fun issue visible => valuesOf_congr (same.project_eq ha visible)
  unfold search
  rw [← same.visibleIssues_eq ha hb, ← hits_congr values query]
  cases found : a.hits query (a.visibleIssues viewer) with
  | error e => rfl
  | ok hits =>
      have onHits : ∀ issue ∈ hits, ∀ field, a.valuesOf issue field = b.valuesOf issue field :=
        fun issue member => values issue (mem_of_hits found member)
      have arranged := arranged_congr onHits query.orderBy
      simp only [bind, Except.bind, arranged]

end IssueFilter.Index
