import IssueFilter.Proofs.Index.Consistency
import Mathlib.Data.List.Nodup

/-! Which issues a viewer sees. The index decides by the id of an issue, against the ids listed
under the projects that the viewer may browse; in a consistent index this is the same as asking for
the project of the issue. Two indexes give a viewer the same view when they agree on the projects that
the viewer may browse and on the issues of these projects. -/
namespace IssueFilter.Index

theorem mem_visibleIds (index : Index) (viewer : Viewer) (id : UInt64) :
    id ∈ index.visibleIds viewer ↔ ∃ projectId ids, index.byProject.get? projectId = some ids ∧
      index.canBrowse viewer projectId = true ∧ id ∈ ids := by
  simp only [visibleIds, List.mem_flatMap, Prod.exists, Table.mem_entries]
  refine exists_congr fun projectId => exists_congr fun ids => and_congr_right fun _ => ?_
  split
  · rename_i may
    simp [may]
  · rename_i mayNot
    simp [mayNot]

section

variable {index : Index} (h : index.Consistent)
include h

theorem Consistent.listed_of_mem {issue : Issue} (member : issue ∈ index.issues) :
    ∃ ids, index.byProject.get? issue.projectId = some ids ∧ issue.id ∈ ids := by
  have stored := h.listed_iff issue.projectId ▸ h.issue_project issue member
  obtain ⟨ids, listed⟩ := Option.isSome_iff_exists.mp stored
  exact ⟨ids, listed, (h.mem_listed _ ids listed _).mpr ⟨issue, member, rfl, rfl⟩⟩

/-- No two stored issues share an id, so an id listed under a project tells the project. -/
theorem Consistent.projectId_of_listed {issue : Issue} (member : issue ∈ index.issues)
    {projectId : UInt64} {ids : List UInt64} (listed : index.byProject.get? projectId = some ids)
    (mine : issue.id ∈ ids) : issue.projectId = projectId := by
  obtain ⟨other, stored, ofProject, sameId⟩ := (h.mem_listed projectId ids listed _).mp mine
  rw [← ofProject, List.inj_on_of_nodup_map h.ids_distinct stored member sameId]

theorem Consistent.visible_iff {issue : Issue} (member : issue ∈ index.issues) (viewer : Viewer) :
    (index.visibleIds viewer).contains issue.id = index.canBrowse viewer issue.projectId := by
  rw [Bool.eq_iff_iff, List.contains_iff_mem, mem_visibleIds]
  constructor
  · rintro ⟨projectId, ids, listed, may, mine⟩
    rw [h.projectId_of_listed member listed mine]
    exact may
  · intro may
    obtain ⟨ids, listed, mine⟩ := h.listed_of_mem member
    exact ⟨issue.projectId, ids, listed, may, mine⟩

theorem Consistent.visibleIssues_eq (viewer : Viewer) :
    index.visibleIssues viewer =
      index.issues.filter fun issue => index.canBrowse viewer issue.projectId :=
  List.filter_congr fun _ member => h.visible_iff member viewer

theorem Consistent.issues_nodup : index.issues.Nodup := h.ids_distinct.of_map Issue.id

theorem Consistent.project_of_visible {issue : Issue} {viewer : Viewer}
    (visible : issue ∈ index.visibleIssues viewer) :
    ∃ project, index.projects.get? issue.projectId = some project ∧
      index.canBrowse viewer issue.projectId = true := by
  rw [h.visibleIssues_eq, List.mem_filter] at visible
  obtain ⟨project, found⟩ := Option.isSome_iff_exists.mp (h.issue_project issue visible.1)
  exact ⟨project, found, visible.2⟩

end

/-- The project of that id, if the viewer may browse it. -/
def browsable? (index : Index) (viewer : Viewer) (id : UInt64) : Option Project :=
  if index.canBrowse viewer id then index.projectById? id else none

theorem browsable?_eq_some {index : Index} {viewer : Viewer} {id : UInt64} {project : Project} :
    index.browsable? viewer id = some project ↔
      index.projects.get? id = some project ∧ index.canBrowse viewer id = true := by
  rw [browsable?, projectById?]
  split
  · rename_i may
    simp [may]
  · rename_i mayNot
    simp [mayNot]

/-- The indexes differ at most in what is hidden from the viewer. -/
structure SameView (viewer : Viewer) (a b : Index) : Prop where
  projects : ∀ id, a.browsable? viewer id = b.browsable? viewer id
  issues : (a.issues.filter fun issue => a.canBrowse viewer issue.projectId) =
    b.issues.filter fun issue => b.canBrowse viewer issue.projectId

section

variable {viewer : Viewer} {a b : Index} (same : SameView viewer a b)
include same

theorem SameView.visibleIssues_eq (ha : a.Consistent) (hb : b.Consistent) :
    a.visibleIssues viewer = b.visibleIssues viewer := by
  rw [ha.visibleIssues_eq, hb.visibleIssues_eq, same.issues]

theorem SameView.project_eq (ha : a.Consistent) {issue : Issue}
    (visible : issue ∈ a.visibleIssues viewer) :
    a.projects.get? issue.projectId = b.projects.get? issue.projectId := by
  obtain ⟨project, found, may⟩ := ha.project_of_visible visible
  have shown := browsable?_eq_some.mpr ⟨found, may⟩
  rw [same.projects] at shown
  rw [found, (browsable?_eq_some.mp shown).1]

end

/-- Only ids of stored projects have to be compared. -/
theorem sameView_iff (viewer : Viewer) (a b : Index) : SameView viewer a b ↔
    ((a.projects.entries.map Prod.fst ++ b.projects.entries.map Prod.fst).all fun id =>
      a.browsable? viewer id = b.browsable? viewer id) = true ∧
    (a.issues.filter fun issue => a.canBrowse viewer issue.projectId) =
      b.issues.filter fun issue => b.canBrowse viewer issue.projectId := by
  simp only [List.all_eq_true, decide_eq_true_eq]
  constructor
  · exact fun same => ⟨fun id _ => same.projects id, same.issues⟩
  · rintro ⟨stored, issues⟩
    refine ⟨fun id => ?_, issues⟩
    have known : ∀ project, a.browsable? viewer id = some project ∨
        b.browsable? viewer id = some project →
        id ∈ a.projects.entries.map Prod.fst ++ b.projects.entries.map Prod.fst := by
      intro project found
      rw [List.mem_append]
      rcases found with inA | inB
      · exact .inl (Table.mem_keys_of_get? (browsable?_eq_some.mp inA).1)
      · exact .inr (Table.mem_keys_of_get? (browsable?_eq_some.mp inB).1)
    cases inA : a.browsable? viewer id with
    | some project => rw [← inA, stored id (known project (.inl inA))]
    | none =>
        cases inB : b.browsable? viewer id with
        | none => rfl
        | some project => rw [← inA, stored id (known project (.inr inB)), inB]

instance (viewer : Viewer) (a b : Index) : Decidable (SameView viewer a b) :=
  decidable_of_iff _ (sameView_iff viewer a b).symm

end IssueFilter.Index
