import IssueFilter.Index.Basic

/-! What one change of an index can do. `Accepts` and `Refuses` list the outcomes with the
conditions under which they come about, and `step_outcome` says that there are no others; a refused
change leaves the index as it was. Facts about runs of changes are derived from these outcomes. -/
namespace IssueFilter

/-- The project key that a change of grants names. -/
def Change.grantKey? : Change → Option String
  | grantBrowse projectKey _ | grantBrowseToAnyone projectKey => some projectKey
  | addProject _ | addIssue _ => none

namespace Index

/-- The project as it is kept. -/
def kept (project : Project) : Project := { project with key := Ascii.upper project.key }

def withProject (index : Index) (project : Project) : Index :=
  { index with
    keys := index.keys.insert project.key project.id
    projects := index.projects.insert project.id project
    grants := index.grants.insert project.id ⟨false, []⟩
    byProject := index.byProject.insert project.id [] }

/-- `ids` are the ids of the issues that the project of the new one has already. -/
def withIssue (index : Index) (issue : Issue) (ids : List UInt64) : Index :=
  { index with
    issues := index.issues ++ [issue]
    issueIds := issue.id :: index.issueIds
    byProject := index.byProject.insert issue.projectId (issue.id :: ids) }

def withGrant (index : Index) (id : UInt64) (grant : Grant) : Index :=
  { index with grants := index.grants.insert id grant }

/-- The grant that a project key leads to. -/
structure Granted (index : Index) (projectKey : String) (id : UInt64) (grant : Grant) : Prop where
  key : index.keys.get? (Ascii.upper projectKey) = some id
  grant : index.grants.get? id = some grant

inductive Accepts (index : Index) : Change → Index → Prop
  | addProject {project : Project} : index.projects.get? project.id = none →
      index.keys.get? (Ascii.upper project.key) = none →
      Accepts index (.addProject project) (index.withProject (kept project))
  | addIssue {issue : Issue} {ids : List UInt64} :
      index.byProject.get? issue.projectId = some ids → issue.id ∉ index.issueIds →
      Accepts index (.addIssue issue) (index.withIssue issue ids)
  | grantBrowse {projectKey user : String} {id : UInt64} {grant : Grant} :
      Granted index projectKey id grant →
      Accepts index (.grantBrowse projectKey user)
        (index.withGrant id { grant with users := grant.users.insert user })
  | grantBrowseToAnyone {projectKey : String} {id : UInt64} {grant : Grant} :
      Granted index projectKey id grant →
      Accepts index (.grantBrowseToAnyone projectKey)
        (index.withGrant id { grant with anyone := true })

inductive Refuses (index : Index) : Change → SeedError → Prop
  | duplicateProject {project : Project} :
      index.projects.get? project.id ≠ none ∨ index.keys.get? (Ascii.upper project.key) ≠ none →
      Refuses index (.addProject project)
        (.duplicateProject (Ascii.upper project.key) project.id)
  | unknownProjectOfIssue {issue : Issue} : index.byProject.get? issue.projectId = none →
      Refuses index (.addIssue issue) (.unknownProjectOfIssue issue.key issue.projectId)
  | duplicateIssue {issue : Issue} {ids : List UInt64} :
      index.byProject.get? issue.projectId = some ids → issue.id ∈ index.issueIds →
      Refuses index (.addIssue issue) (.duplicateIssue issue.id)
  | unknownProject {change : Change} {projectKey : String} :
      change.grantKey? = some projectKey → index.keys.get? (Ascii.upper projectKey) = none →
      Refuses index change (.unknownProject projectKey)
  | noGrants {change : Change} {projectKey : String} {id : UInt64} :
      change.grantKey? = some projectKey → index.keys.get? (Ascii.upper projectKey) = some id →
      index.grants.get? id = none → Refuses index change (.noGrants projectKey)

theorem run_get {α : Type} (f : Index → Update α) (index : Index) :
    (get >>= f : Update α).run.run index = (f index).run.run index := rfl

theorem run_addProject (index : Index) (project : Project) :
    (addProject project).run.run index =
      if index.projects.contains project.id || index.keys.contains (Ascii.upper project.key) then
        (.error (.duplicateProject (Ascii.upper project.key) project.id), index)
      else (.ok (), index.withProject (kept project)) := by
  simp only [addProject, run_get]
  split <;> rfl

theorem run_noteIssueId {α : Type} (id : UInt64) (f : Bool → Update α) (index : Index) :
    (noteIssueId id >>= f : Update α).run.run index =
      if index.issueIds.contains id then (f false).run.run index
      else (f true).run.run { index with issueIds := id :: index.issueIds } := by
  change (f (ite _ _ _ : Bool × Index).1).run.run (ite _ _ _ : Bool × Index).2 = _
  split <;> rfl

/-- The test for a known id comes in the middle: nothing that precedes it changes the index. -/
theorem run_addIssue (index : Index) (issue : Issue) :
    (addIssue issue).run.run index =
      match index.byProject.get? issue.projectId with
      | none => (.error (.unknownProjectOfIssue issue.key issue.projectId), index)
      | some ids =>
        if index.issueIds.contains issue.id then (.error (.duplicateIssue issue.id), index)
        else (.ok (), index.withIssue issue ids) := by
  simp only [addIssue, run_get]
  cases index.byProject.get? issue.projectId with
  | none => rfl
  | some ids =>
      simp only [run_noteIssueId]
      split <;> rfl

theorem run_changeGrant (index : Index) (projectKey : String) (f : Grant → Grant) :
    (changeGrant projectKey f).run.run index =
      match index.keys.get? (Ascii.upper projectKey) with
      | none => (.error (.unknownProject projectKey), index)
      | some id =>
        match index.grants.get? id with
        | none => (.error (.noGrants projectKey), index)
        | some grant => (.ok (), index.withGrant id (f grant)) := by
  simp only [changeGrant, run_get]
  cases index.keys.get? (Ascii.upper projectKey) with
  | none => rfl
  | some id =>
      simp only
      cases index.grants.get? id <;> rfl

theorem step_eq (index : Index) (change : Change) :
    index.step change = (change.perform.run.run index).swap := rfl

/-- A change of grants does not depend on what becomes of the grant. -/
theorem changeGrant_outcome (index : Index) (change : Change) (projectKey : String)
    (f : Grant → Grant) (names : change.grantKey? = some projectKey)
    (performs : change.perform = changeGrant projectKey f) :
    (∃ e, index.Refuses change e ∧ index.step change = (index, .error e)) ∨
      ∃ id grant, index.Granted projectKey id grant ∧
        index.step change = (index.withGrant id (f grant), .ok ()) := by
  rw [step_eq, performs, run_changeGrant]
  cases key : index.keys.get? (Ascii.upper projectKey) with
  | none => exact .inl ⟨_, .unknownProject names key, rfl⟩
  | some id =>
      cases grant : index.grants.get? id with
      | none => exact .inl ⟨_, .noGrants names key grant, by simp [grant]⟩
      | some old => exact .inr ⟨id, old, ⟨key, grant⟩, by simp [grant]⟩

/-- Every change is accepted or refused, and a refused one leaves the index as it was. -/
theorem step_outcome (index : Index) (change : Change) :
    (∃ e, index.Refuses change e ∧ index.step change = (index, .error e)) ∨
      ∃ next, index.Accepts change next ∧ index.step change = (next, .ok ()) := by
  cases change with
  | addProject project =>
      rw [step_eq, Change.perform, run_addProject]
      split
      · rename_i taken
        refine .inl ⟨_, .duplicateProject ?_, rfl⟩
        simpa [Table.contains, Option.isSome_iff_ne_none] using taken
      · rename_i free
        simp only [Table.contains, Bool.or_eq_true, not_or, Bool.not_eq_true,
          Option.isSome_eq_false_iff, Option.isNone_iff_eq_none] at free
        exact .inr ⟨_, .addProject free.1 free.2, rfl⟩
  | addIssue issue =>
      rw [step_eq, Change.perform, run_addIssue]
      cases known : index.byProject.get? issue.projectId with
      | none => exact .inl ⟨_, .unknownProjectOfIssue known, rfl⟩
      | some ids =>
          by_cases old : issue.id ∈ index.issueIds
          · exact .inl ⟨_, .duplicateIssue known old, by simp [old]⟩
          · exact .inr ⟨_, .addIssue known old, by simp [old]⟩
  | grantBrowse projectKey user =>
      rcases index.changeGrant_outcome (.grantBrowse projectKey user) projectKey _ rfl rfl with
        refused | ⟨id, grant, granted, same⟩
      · exact .inl refused
      · exact .inr ⟨_, .grantBrowse granted, same⟩
  | grantBrowseToAnyone projectKey =>
      rcases index.changeGrant_outcome (.grantBrowseToAnyone projectKey) projectKey _ rfl rfl with
        refused | ⟨id, grant, granted, same⟩
      · exact .inl refused
      · exact .inr ⟨_, .grantBrowseToAnyone granted, same⟩

theorem refuses_of_step_error {index : Index} {change : Change} {e : SeedError}
    (h : (index.step change).2 = .error e) :
    index.Refuses change e ∧ index.step change = (index, .error e) := by
  rcases index.step_outcome change with ⟨reason, refused, same⟩ | ⟨next, accepted, same⟩
  · rw [same] at h
    cases h
    exact ⟨refused, same⟩
  · rw [same] at h
    cases h

end Index

end IssueFilter
