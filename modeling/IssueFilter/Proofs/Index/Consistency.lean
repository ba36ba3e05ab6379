import IssueFilter.Proofs.Index.Step

/-! How the six collections of an index fit together. `Consistent` says what each of them tells
about the others; the empty index is consistent, every accepted change keeps it so, and therefore
every index that can come about is. -/
namespace IssueFilter.Index

structure Consistent (index : Index) : Prop where
  /-- A key leads to an id exactly if a project of that id and that key is stored. -/
  key_iff : ∀ key id, index.keys.get? key = some id ↔
    ∃ project, index.projects.get? id = some project ∧ project.key = key
  key_upper : ∀ key id, index.keys.get? key = some id → Ascii.upper key = key
  project_id : ∀ id project, index.projects.get? id = some project → project.id = id
  granted_iff : ∀ id, index.grants.contains id = index.projects.contains id
  listed_iff : ∀ id, index.byProject.contains id = index.projects.contains id
  issue_project : ∀ issue ∈ index.issues, index.projects.contains issue.projectId = true
  ids_distinct : (index.issues.map Issue.id).Nodup
  mem_issueIds : ∀ id, id ∈ index.issueIds ↔ id ∈ index.issues.map Issue.id
  /-- What is listed under a project are the ids of the stored issues of that project. -/
  mem_listed : ∀ projectId ids, index.byProject.get? projectId = some ids →
    ∀ id, id ∈ ids ↔ ∃ issue ∈ index.issues, issue.projectId = projectId ∧ issue.id = id

theorem consistent_empty : Consistent empty where
  key_iff := by simp [empty]
  key_upper := by simp [empty]
  project_id := by simp [empty]
  granted_iff _ := rfl
  listed_iff _ := rfl
  issue_project := by simp [empty]
  ids_distinct := by simp [empty]
  mem_issueIds := by simp [empty]
  mem_listed := by simp [empty]

section Keeping

variable {index : Index}

theorem Consistent.withProject (h : index.Consistent) {project : Project}
    (freshId : index.projects.get? project.id = none)
    (freshKey : index.keys.get? project.key = none)
    (upper : Ascii.upper project.key = project.key) : (index.withProject project).Consistent where
  key_iff key id := by
    simp only [Index.withProject, Table.get?_insert]
    by_cases same : key = project.key
    · subst same
      simp only [if_true, Option.some.injEq]
      constructor
      · rintro rfl
        exact ⟨project, by simp⟩
      · rintro ⟨other, found, sameKey⟩
        split at found
        · rename_i sameId
          exact sameId.symm
        · have taken := (h.key_iff project.key id).mpr ⟨other, found, sameKey⟩
          rw [freshKey] at taken
          cases taken
    · rw [if_neg same, h.key_iff]
      constructor
      · rintro ⟨other, found, sameKey⟩
        have differ : id ≠ project.id := by
          rintro rfl
          rw [freshId] at found
          cases found
        exact ⟨other, by rw [if_neg differ]; exact found, sameKey⟩
      · rintro ⟨other, found, sameKey⟩
        split at found
        · cases found
          exact absurd sameKey.symm same
        · exact ⟨other, found, sameKey⟩
  key_upper key id found := by
    simp only [Index.withProject, Table.get?_insert] at found
    split at found
    · rename_i same
      rw [same, upper]
    · exact h.key_upper key id found
  project_id id other found := by
    simp only [Index.withProject, Table.get?_insert] at found
    split at found
    · rename_i same
      cases found
      exact same.symm
    · exact h.project_id id other found
  granted_iff id := by simp only [Index.withProject, Table.contains_insert, h.granted_iff]
  listed_iff id := by simp only [Index.withProject, Table.contains_insert, h.listed_iff]
  issue_project issue member := by
    simp only [Index.withProject, Table.contains_insert, h.issue_project issue member, Bool.or_true]
  ids_distinct := h.ids_distinct
  mem_issueIds := h.mem_issueIds
  mem_listed projectId ids found id := by
    simp only [Index.withProject, Table.get?_insert] at found
    split at found
    · rename_i same
      cases found
      simp only [List.not_mem_nil, false_iff]
      rintro ⟨issue, member, ofProject, -⟩
      have stored := h.issue_project issue member
      rw [ofProject, same, Table.contains, freshId] at stored
      cases stored
    · exact h.mem_listed projectId ids found id

theorem Consistent.withIssue (h : index.Consistent) {issue : Issue} {ids : List UInt64}
    (listed : index.byProject.get? issue.projectId = some ids)
    (fresh : issue.id ∉ index.issueIds) : (index.withIssue issue ids).Consistent where
  key_iff := h.key_iff
  key_upper := h.key_upper
  project_id := h.project_id
  granted_iff := h.granted_iff
  listed_iff id := by
    have known : index.projects.contains issue.projectId = true :=
      h.listed_iff _ ▸ Table.contains_of_get? listed
    simp only [Index.withIssue, Table.contains_insert, h.listed_iff]
    by_cases same : id = issue.projectId
    · simp [same, known]
    · simp [same]
  issue_project other member := by
    rcases List.mem_append.mp member with before | last
    · exact h.issue_project other before
    · obtain rfl := List.mem_singleton.mp last
      exact h.listed_iff _ ▸ Table.contains_of_get? listed
  ids_distinct := by
    have new : issue.id ∉ index.issues.map Issue.id := fun old => fresh ((h.mem_issueIds _).mpr old)
    simp only [Index.withIssue, List.map_append, List.map_cons, List.map_nil]
    exact List.nodup_append.mpr ⟨h.ids_distinct, by simp, by
      intro id old last known same
      simp only [List.mem_singleton] at known
      exact new (known ▸ same ▸ old)⟩
  mem_issueIds id := by
    simp only [Index.withIssue, List.mem_cons, h.mem_issueIds, List.map_append, List.map_cons,
      List.map_nil, List.mem_append, List.not_mem_nil, or_false]
    exact or_comm
  mem_listed projectId listed' found id := by
    simp only [Index.withIssue, Table.get?_insert] at found
    simp only [Index.withIssue, List.mem_append, List.mem_singleton, or_and_right, exists_or,
      exists_eq_left]
    split at found
    · rename_i same
      cases found
      subst same
      rw [List.mem_cons, h.mem_listed _ ids listed]
      simp only [true_and]
      rw [or_comm, eq_comm]
    · rename_i differ
      rw [h.mem_listed projectId listed' found]
      simp [Ne.symm differ]

theorem Consistent.withGrant (h : index.Consistent) {id : UInt64} {old : Grant}
    (known : index.grants.get? id = some old) (grant : Grant) :
    (index.withGrant id grant).Consistent where
  key_iff := h.key_iff
  key_upper := h.key_upper
  project_id := h.project_id
  granted_iff other := by
    have stored : index.projects.contains id = true :=
      h.granted_iff _ ▸ Table.contains_of_get? known
    simp only [Index.withGrant, Table.contains_insert, h.granted_iff]
    by_cases same : other = id
    · simp [same, stored]
    · simp [same]
  listed_iff := h.listed_iff
  issue_project := h.issue_project
  ids_distinct := h.ids_distinct
  mem_issueIds := h.mem_issueIds
  mem_listed := h.mem_listed

theorem Accepts.consistent {change : Change} {next : Index} (accepted : index.Accepts change next)
    (h : index.Consistent) : next.Consistent := by
  cases accepted with
  | addProject freshId freshKey => exact h.withProject freshId freshKey (Ascii.upper_upper _)
  | addIssue listed fresh => exact h.withIssue listed fresh
  | grantBrowse granted => exact h.withGrant granted.grant _
  | grantBrowseToAnyone granted => exact h.withGrant granted.grant _

/-- What holds of the empty index and is kept by every accepted change holds of every index that can
come about; refused changes leave nothing behind. -/
theorem Reachable.induct {P : Index → Prop} (h : index.Reachable) (start : P empty)
    (keeps : ∀ {before change next}, P before → Accepts before change next → P next) : P index := by
  obtain ⟨changes, rfl⟩ := h
  suffices ∀ first, P first → P (first.run changes) from this empty start
  induction changes with
  | nil => exact fun _ holds => holds
  | cons change changes ih =>
      intro first holds
      apply ih
      change P (first.step change).1
      rcases first.step_outcome change with ⟨e, -, same⟩ | ⟨next, accepted, same⟩
      · rw [same]
        exact holds
      · rw [same]
        exact keeps holds accepted

theorem Reachable.consistent (h : index.Reachable) : index.Consistent :=
  h.induct consistent_empty fun holds accepted => accepted.consistent holds

end Keeping

section Lookup

variable {index : Index} (h : index.Consistent)
include h

theorem Consistent.keys_injective {key₁ key₂ : String} {id : UInt64}
    (first : index.keys.get? key₁ = some id) (second : index.keys.get? key₂ = some id) :
    key₁ = key₂ := by
  obtain ⟨project, found, rfl⟩ := (h.key_iff key₁ id).mp first
  obtain ⟨other, again, rfl⟩ := (h.key_iff key₂ id).mp second
  rw [found] at again
  cases again
  rfl

theorem Consistent.projectByKey?_iff (key : String) (project : Project) :
    index.projectByKey? key = some project ↔
      index.projects.get? project.id = some project ∧ project.key = Ascii.upper key := by
  rw [projectByKey?, Option.bind_eq_some_iff]
  constructor
  · rintro ⟨id, known, found⟩
    obtain ⟨other, again, sameKey⟩ := (h.key_iff _ id).mp known
    rw [found] at again
    cases again
    rw [h.project_id id project found]
    exact ⟨found, sameKey⟩
  · rintro ⟨found, sameKey⟩
    exact ⟨project.id, (h.key_iff _ _).mpr ⟨project, found, sameKey⟩, found⟩

/-- A key leads only to projects, and every project has a grant. -/
theorem Consistent.not_refuses_noGrants {change : Change} {projectKey : String} :
    ¬ index.Refuses change (.noGrants projectKey) := by
  intro refused
  cases refused with
  | noGrants _ known missing =>
      obtain ⟨project, found, -⟩ := (h.key_iff _ _).mp known
      have granted := h.granted_iff _ ▸ Table.contains_of_get? found
      rw [Table.contains, missing] at granted
      cases granted

end Lookup

/-- In every index that can come about the six collections agree, keys and ids determine each other,
looking a project up by key is looking it up by id, and a change that fails, for whatever reason but
a missing grant, has changed nothing. -/
theorem reachable_collections_agree {index : Index} (h : index.Reachable) :
    index.Consistent ∧
      (∀ key₁ key₂ id, index.keys.get? key₁ = some id → index.keys.get? key₂ = some id →
        key₁ = key₂) ∧
      (∀ key project, index.projectByKey? key = some project ↔
        index.projects.get? project.id = some project ∧ project.key = Ascii.upper key) ∧
      (∀ key project, index.projectByKey? key = some project →
        index.projectById? project.id = some project) ∧
      ∀ change e, (index.step change).2 = .error e →
        (index.step change).1 = index ∧ ∀ projectKey, e ≠ .noGrants projectKey := by
  have consistent := h.consistent
  refine ⟨consistent, fun _ _ _ => consistent.keys_injective, consistent.projectByKey?_iff,
    fun key project found => ((consistent.projectByKey?_iff key project).mp found).1, ?_⟩
  intro change e failed
  obtain ⟨refused, same⟩ := refuses_of_step_error failed
  refine ⟨by rw [same], ?_⟩
  rintro projectKey rfl
  exact consistent.not_refuses_noGrants refused

/-- A day for sample issues. -/
def sampleDay : Date := ⟨2024, 1, 1, by decide⟩

/-- Two projects whose keys differ only in case, and an issue that is added twice. -/
def collidingChanges : List Change :=
  [.addProject ⟨1, "demo", "Demo"⟩, .addProject ⟨2, "DEMO", "Again"⟩,
    .addIssue ⟨7, "DEMO-7", 1, "", "Open", "Task", none, none, none, [], sampleDay⟩,
    .grantBrowse "Demo" "alice"]

theorem colliding_collections_agree :
    let index := empty.run collidingChanges
    index.Consistent ∧ index.projectByKey? "deMo" = some ⟨1, "DEMO", "Demo"⟩ ∧
      index.projectById? 1 = some ⟨1, "DEMO", "Demo"⟩ ∧
      (index.step (.addProject ⟨2, "DEMO", "Again"⟩)).1 = index := by
  have reachable : (empty.run collidingChanges).Reachable := ⟨collidingChanges, rfl⟩
  have agree := reachable_collections_agree reachable
  have found := (agree.2.2.1 "deMo" ⟨1, "DEMO", "Demo"⟩).mpr ⟨by decide, by decide⟩
  refine ⟨agree.1, found, agree.2.2.2.1 _ _ found, ?_⟩
  exact (agree.2.2.2.2 _ (.duplicateProject "DEMO" 2) rfl).1

end IssueFilter.Index
