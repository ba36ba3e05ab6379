import IssueFilter.Proofs.Index.Visibility
import IssueFilter.Search.Basic

/-! What a search without an ordering returns: the issues that the viewer may browse and that
satisfy the clause, or else the error of the first of them on which the clause cannot be
evaluated. -/
namespace IssueFilter.Index

/-- Whether a query selects an issue; a query without a clause selects every issue. -/
def selects (index : Index) (query : Query) (issue : Issue) : Except SearchError Bool :=
  match query.clause with
  | none => .ok true
  | some clause => index.satisfies issue clause

def isHit (index : Index) (query : Query) (issue : Issue) : Bool :=
  match index.selects query issue with
  | .ok hit => hit
  | .error _ => false

variable {index : Index} {query : Query}

theorem isHit_iff {issue : Issue} :
    index.isHit query issue = true ↔ index.selects query issue = .ok true := by
  unfold isHit
  cases index.selects query issue with
  | error e => simp
  | ok hit => simp

theorem hits_nil : index.hits query [] = .ok [] := by
  unfold hits
  cases query.clause <;> rfl

/-- One step of the search: the clause on the first issue comes before the other issues. -/
theorem hits_cons (issue : Issue) (issues : List Issue) :
    index.hits query (issue :: issues) = (do
      let hit ← index.selects query issue
      let others ← index.hits query issues
      return if hit then issue :: others else others) := by
  unfold hits selects
  cases query.clause <;> rfl

/-- What the outcome of a search through a list of issues says about each of them. -/
theorem hits_outcome (index : Index) (query : Query) (issues : List Issue) :
    match index.hits query issues with
    | .ok hits => hits = issues.filter (index.isHit query) ∧
        ∀ issue ∈ issues, ∃ hit, index.selects query issue = .ok hit
    | .error e => ∃ before issue after, issues = before ++ issue :: after ∧
        index.selects query issue = .error e ∧
        ∀ earlier ∈ before, ∃ hit, index.selects query earlier = .ok hit := by
  induction issues with
  | nil => simp [hits_nil]
  | cons issue issues ih =>
      rw [hits_cons]
      cases first : index.selects query issue with
      | error e => exact ⟨[], issue, issues, rfl, first, by simp⟩
      | ok hit =>
          cases others : index.hits query issues with
          | error e =>
              rw [others] at ih
              obtain ⟨before, failing, after, split, fails, evaluated⟩ := ih
              refine ⟨issue :: before, failing, after, by rw [split]; rfl, fails, ?_⟩
              intro earlier member
              rcases List.mem_cons.mp member with rfl | later
              · exact ⟨hit, first⟩
              · exact evaluated earlier later
          | ok found =>
              rw [others] at ih
              obtain ⟨rfl, evaluated⟩ := ih
              have isHit : index.isHit query issue = hit := by rw [Index.isHit, first]
              refine ⟨?_, ?_⟩
              · rw [List.filter_cons, isHit]
              · intro other member
                rcases List.mem_cons.mp member with rfl | later
                · exact ⟨hit, first⟩
                · exact evaluated other later

theorem search_unordered (viewer : Viewer) (unordered : query.orderBy = []) :
    index.search viewer query .unlimited =
      (index.hits query (index.visibleIssues viewer)).map fun hits => ⟨hits, hits.length⟩ := by
  unfold search
  rw [unordered]
  cases index.hits query (index.visibleIssues viewer) <;> rfl

/-- In an index that can come about, what a viewer is shown are exactly the stored issues of the
projects they may browse that satisfy the clause, each once and in the order in which they were
added, and on none of the others does the clause fail; a failure is that of the first browsable
issue on which the clause fails. -/
theorem search_exactly_browsable (h : index.Reachable) (viewer : Viewer)
    (unordered : query.orderBy = []) :
    (∀ results, index.search viewer query .unlimited = .ok results →
      results.issues = index.issues.filter (fun issue =>
        index.canBrowse viewer issue.projectId && index.isHit query issue) ∧
      (∀ issue, issue ∈ results.issues ↔ issue ∈ index.issues ∧
        index.canBrowse viewer issue.projectId = true ∧ index.selects query issue = .ok true) ∧
      results.issues.Nodup ∧ results.total = results.issues.length ∧
      ∀ issue ∈ index.issues, index.canBrowse viewer issue.projectId = true →
        ∃ hit, index.selects query issue = .ok hit) ∧
    (∀ e, index.search viewer query .unlimited = .error e →
      ∃ before issue after,
        index.issues.filter (fun issue => index.canBrowse viewer issue.projectId) =
          before ++ issue :: after ∧
        index.selects query issue = .error e ∧
        ∀ earlier ∈ before, ∃ hit, index.selects query earlier = .ok hit) ∧
    ∀ issue ∈ index.issues,
      (index.visibleIds viewer).contains issue.id = index.canBrowse viewer issue.projectId := by
  have consistent := h.consistent
  have outcome := hits_outcome index query (index.visibleIssues viewer)
  rw [search_unordered viewer unordered]
  refine ⟨?_, ?_, fun issue member => consistent.visible_iff member viewer⟩
  · intro results found
    cases searched : index.hits query (index.visibleIssues viewer) with
    | error e =>
        rw [searched] at found
        cases found
    | ok hits =>
        rw [searched] at found outcome
        cases found
        have same : hits = index.issues.filter (fun issue =>
            index.canBrowse viewer issue.projectId && index.isHit query issue) := by
          rw [outcome.1, consistent.visibleIssues_eq, List.filter_filter]
          exact List.filter_congr fun issue _ => Bool.and_comm _ _
        refine ⟨same, fun issue => ?_, ?_, rfl, fun issue stored may => ?_⟩
        · simp only [same, List.mem_filter, Bool.and_eq_true, isHit_iff]
        · rw [same]
          exact consistent.issues_nodup.filter _
        · apply outcome.2
          rw [consistent.visibleIssues_eq]
          exact List.mem_filter.mpr ⟨stored, may⟩
  · intro e failed
    cases searched : index.hits query (index.visibleIssues viewer) with
    | error reason =>
        rw [searched] at failed outcome
        cases failed
        rw [← consistent.visibleIssues_eq]
        exact outcome
    | ok hits =>
        rw [searched] at failed
        cases failed

/-- A public project and one that only alice may browse, with issues in turns. -/
def mixedChanges : List Change :=
  let issue (id projectId : UInt64) : Issue :=
    ⟨id, "K", projectId, "", "Open", "Task", none, none, none, [], sampleDay⟩
  [.addProject ⟨1, "pub", "Public"⟩, .addProject ⟨2, "sec", "Secret"⟩,
    .grantBrowseToAnyone "PUB", .grantBrowse "sec" "alice",
    .addIssue (issue 10 2), .addIssue (issue 11 1), .addIssue (issue 11 2), .addIssue (issue 12 1)]

/-- Anonymous viewers are shown the public issue only, and a condition that cannot be evaluated
fails on this issue, not on the hidden one before it. -/
theorem mixed_search_exactly_browsable :
    let index := empty.run mixedChanges
    let eleven : Query := ⟨some (.condition ⟨"id", .equals, .single (.number 11)⟩), []⟩
    let wrong : Query := ⟨some (.condition ⟨"status", .less, .single (.number 1)⟩), []⟩
    (∃ results, index.search .anonymous eleven .unlimited = .ok results ∧
      results.issues.map Issue.id = [11] ∧ results.total = 1) ∧
    ∃ before issue after,
      index.issues.filter (fun issue => index.canBrowse .anonymous issue.projectId) =
        before ++ issue :: after ∧
      index.selects wrong issue = .error (.unsupportedOperator "status" "<") := by
  intro index eleven wrong
  have reachable : index.Reachable := ⟨mixedChanges, rfl⟩
  have right := search_exactly_browsable reachable .anonymous (rfl : eleven.orderBy = [])
  have failing := search_exactly_browsable reachable .anonymous (rfl : wrong.orderBy = [])
  refine ⟨⟨_, rfl, ?_, ?_⟩, ?_⟩
  · rw [(right.1 _ rfl).1]
    rfl
  · rw [(right.1 _ rfl).2.2.2.1]
    rfl
  · obtain ⟨before, issue, after, split, fails, -⟩ := failing.2.1 _ rfl
    exact ⟨before, issue, after, split, fails⟩

end IssueFilter.Index
