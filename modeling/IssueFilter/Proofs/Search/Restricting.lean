import IssueFilter.Proofs.Search.Hits
import IssueFilter.Proofs.Search.Ordering

/-! Seeing less only removes results. A viewer who may browse no project that another viewer may not
finds what the other one finds, less the issues of the projects they may not browse, and in the same
order. -/
namespace IssueFilter.Index

variable {index : Index} {query : Query}

theorem hits_filter {issues hits : List Issue} (found : index.hits query issues = .ok hits)
    (shown : Issue → Bool) : index.hits query (issues.filter shown) = .ok (hits.filter shown) := by
  have all := hits_outcome index query issues
  have some := hits_outcome index query (issues.filter shown)
  rw [found] at all
  cases searched : index.hits query (issues.filter shown) with
  | error e =>
      rw [searched] at some
      obtain ⟨before, failing, after, split, fails, -⟩ := some
      have member : failing ∈ issues.filter shown := by
        rw [split]
        exact List.mem_append_right before List.mem_cons_self
      obtain ⟨hit, evaluated⟩ := all.2 failing (List.mem_of_mem_filter member)
      rw [fails] at evaluated
      cases evaluated
  | ok fewer =>
      rw [searched] at some
      rw [some.1, all.1, List.filter_comm]

theorem arranged_filter {keys : List SortKey} {hits sorted : List Issue}
    (arranged : index.arranged keys hits = .ok sorted) (shown : Issue → Bool) :
    index.arranged keys (hits.filter shown) = .ok (sorted.filter shown) := by
  have outcome := index.arranged_outcome keys hits
  rw [arranged] at outcome
  obtain ⟨rfl, rfl | known⟩ := outcome
  · rw [List.filter_nil, arranged_nil, sortedBy, List.mergeSort_nil, List.filter_nil]
  · rw [arranged_of_known known, filter_sortedBy]

theorem Consistent.visibleIssues_of_less (h : index.Consistent) {less more : Viewer}
    (sees : ∀ id, index.canBrowse less id = true → index.canBrowse more id = true) :
    index.visibleIssues less =
      (index.visibleIssues more).filter fun issue => index.canBrowse less issue.projectId := by
  rw [h.visibleIssues_eq, h.visibleIssues_eq, List.filter_filter]
  refine List.filter_congr fun issue _ => ?_
  rw [Bool.eq_iff_iff, Bool.and_eq_true]
  exact ⟨fun may => ⟨may, sees _ may⟩, fun both => both.1⟩

/-- If a search succeeds for a viewer, it succeeds for every viewer who may browse less, and shows them
the same issues without those of the projects they may not browse. -/
theorem search_of_sees_less (h : index.Reachable) {less more : Viewer}
    (sees : ∀ id, index.canBrowse less id = true → index.canBrowse more id = true)
    {results : SearchResults} (found : index.search more query .unlimited = .ok results) :
    let shown := results.issues.filter fun issue => index.canBrowse less issue.projectId
    index.search less query .unlimited = .ok ⟨shown, shown.length⟩ := by
  intro shown
  obtain ⟨hits, sorted, searched, arranged, rfl⟩ := search_eq_ok_iff.mp found
  refine search_eq_ok_iff.mpr ⟨_, shown, ?_, arranged_filter arranged _, rfl⟩
  rw [h.consistent.visibleIssues_of_less sees, hits_filter searched]

/-- What anyone may browse, everybody may. -/
theorem canBrowse_of_anonymous {viewer : Viewer} (id : UInt64)
    (may : index.canBrowse .anonymous id = true) : index.canBrowse viewer id = true := by
  unfold canBrowse at may ⊢
  cases found : index.grants.get? id with
  | none =>
      rw [found] at may
      cases may
  | some grant =>
      rw [found] at may
      have anyone : grant.anyone = true := may
      cases viewer with
      | anonymous => exact anyone
      | user key => simp only [Grant.allows, anyone, Bool.true_or]

/-- Issues of a public and of a secret project, the secret ones first and last. -/
def interleavedChanges : List Change :=
  mixedChanges ++
    [.addIssue ⟨13, "SEC-13", 2, "", "Open", "Bug", none, none, some "bob", [], sampleDay⟩]

/-- Anonymous viewers are shown what alice is shown, less the secret issues. -/
theorem interleaved_search_of_sees_less :
    let index := empty.run interleavedChanges
    let query : Query := ⟨none, [⟨"type", .descending⟩, ⟨"id", .descending⟩]⟩
    ∃ results fewer, index.search (.user "alice") query .unlimited = .ok results ∧
      results.issues.map Issue.id = [12, 11, 10, 13] ∧
      index.search .anonymous query .unlimited = .ok fewer ∧
      fewer.issues.map Issue.id = [12, 11] ∧ fewer.total = 2 := by
  intro index query
  let sorted := sortedBy (index.compareIssues query.orderBy) (index.visibleIssues (.user "alice"))
  have reachable : index.Reachable := ⟨interleavedChanges, rfl⟩
  have known : ∀ key ∈ query.orderBy, Field.ofName? key.field ≠ none := by decide
  have found : index.search (.user "alice") query .unlimited = .ok ⟨sorted, sorted.length⟩ :=
    search_eq_ok_iff.mpr ⟨_, sorted, rfl, arranged_of_known known _, rfl⟩
  refine ⟨_, _, found, ?_, search_of_sees_less reachable canBrowse_of_anonymous found, ?_, ?_⟩
  all_goals
    simp only [sorted, sortedBy_eq_foldr]
    decide

end IssueFilter.Index
