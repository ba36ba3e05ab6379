import IssueFilter.Proofs.Index.Consistency
import Mathlib.Data.List.Induction

/-! Permissions and the history of an index. A step changes who may browse a project only by a grant
that succeeds; and as no step takes anything back, a viewer may browse a project in the end exactly
if, at some point after the project was added, a grant for its key and for the viewer succeeded. -/
namespace IssueFilter

/-- Whether the change is a grant that lets the viewer browse the project of that key. The case of
ASCII letters in keys does not matter. -/
def Change.Grants (change : Change) (key : String) (viewer : Viewer) : Prop :=
  match change with
  | grantBrowse projectKey user => Ascii.upper projectKey = Ascii.upper key ∧ viewer = .user user
  | grantBrowseToAnyone projectKey => Ascii.upper projectKey = Ascii.upper key
  | addProject _ | addIssue _ => False

theorem Change.grants_kept (change : Change) (project : Project) (viewer : Viewer) :
    change.Grants (Index.kept project).key viewer ↔ change.Grants project.key viewer := by
  cases change with
  | grantBrowse projectKey user => simp only [Grants, Index.kept, Ascii.upper_upper]
  | grantBrowseToAnyone projectKey => simp only [Grants, Index.kept, Ascii.upper_upper]
  | addProject added => exact Iff.rfl
  | addIssue issue => exact Iff.rfl

section Allowing

variable (grant : Grant) (viewer : Viewer)

theorem Grant.allows_insert (user : String) :
    Grant.allows { grant with users := grant.users.insert user } viewer = true ↔
      grant.allows viewer = true ∨ viewer = .user user := by
  cases viewer with
  | anonymous => simp [allows]
  | user key =>
      simp only [allows, Bool.or_eq_true, List.contains_iff_mem, List.mem_insert_iff,
        Viewer.user.injEq]
      rw [or_comm (a := key = user), or_assoc]

theorem Grant.allows_anyone : Grant.allows { grant with anyone := true } viewer = true := by
  cases viewer <;> rfl

end Allowing

namespace Index

def Succeeds (index : Index) (change : Change) : Prop := (index.step change).2 = .ok ()

section Stepping

variable {index : Index}

/-- A change that succeeds is accepted, and one that does not leaves nothing behind. -/
theorem step_cases (index : Index) (change : Change) :
    (index.Accepts change (index.step change).1 ∧ index.Succeeds change) ∨
      ((index.step change).1 = index ∧ ¬ index.Succeeds change) := by
  rcases index.step_outcome change with ⟨e, -, same⟩ | ⟨next, accepted, same⟩
  · refine .inr ⟨by rw [same], ?_⟩
    rw [Succeeds, same]
    intro succeeded
    cases succeeded
  · refine .inl ⟨by rw [same]; exact accepted, ?_⟩
    rw [Succeeds, same]

/-- Putting in one grant matters to one project. -/
theorem canBrowse_of_insert {next : Index} {id : UInt64} {grant : Grant}
    (inserted : next.grants = index.grants.insert id grant) (viewer : Viewer) (other : UInt64) :
    next.canBrowse viewer other =
      if other = id then grant.allows viewer else index.canBrowse viewer other := by
  unfold canBrowse
  rw [inserted, Table.get?_insert]
  by_cases same : other = id
  · rw [if_pos same, if_pos same]
  · rw [if_neg same, if_neg same]

theorem canBrowse_of_get? {id : UInt64} {grant : Grant} (known : index.grants.get? id = some grant)
    (viewer : Viewer) : index.canBrowse viewer id = grant.allows viewer := by
  rw [canBrowse, known]

section

variable (h : index.Consistent)
include h

theorem Consistent.canBrowse_of_unknown {id : UInt64} (unknown : index.projects.get? id = none)
    (viewer : Viewer) : index.canBrowse viewer id = false := by
  have noGrant : index.grants.get? id = none := by
    have same := h.granted_iff id
    rw [Table.contains, Table.contains, unknown, Option.isSome_none] at same
    exact Option.isNone_iff_eq_none.mp (Option.isSome_eq_false_iff.mp same)
  rw [canBrowse, noGrant]

/-- The project key of a grant names one project only. -/
theorem Consistent.named_iff {projectKey : String} {named : UInt64} {grant : Grant}
    (granted : index.Granted projectKey named grant) (id : UInt64) :
    (∃ project, index.projects.get? id = some project ∧
      Ascii.upper projectKey = Ascii.upper project.key) ↔ id = named := by
  constructor
  · rintro ⟨project, stored, sameKey⟩
    have known := (h.key_iff project.key id).mpr ⟨project, stored, rfl⟩
    have leads := granted.key
    rw [sameKey, h.key_upper _ _ known, known] at leads
    exact Option.some.inj leads
  · rintro rfl
    obtain ⟨project, stored, key⟩ := (h.key_iff _ _).mp granted.key
    exact ⟨project, stored, by rw [key, Ascii.upper_upper]⟩

theorem Consistent.canBrowse_of_accepts {change : Change} {next : Index}
    (accepted : index.Accepts change next) (viewer : Viewer) (id : UInt64) :
    next.canBrowse viewer id = true ↔ index.canBrowse viewer id = true ∨
      ∃ project, index.projects.get? id = some project ∧ change.Grants project.key viewer := by
  cases accepted with
  | @addProject project freshId freshKey =>
      have before := h.canBrowse_of_unknown freshId viewer
      have nobody : Grant.allows ⟨false, []⟩ viewer = false := by cases viewer <;> rfl
      simp only [Change.Grants, and_false, exists_false, or_false]
      rw [canBrowse_of_insert rfl]
      split
      · rename_i same
        rw [same, nobody]
        change _ ↔ index.canBrowse viewer project.id = true
        rw [before]
      · rfl
  | addIssue listed fresh =>
      simp only [Change.Grants, and_false, exists_false, or_false]
      rfl
  | @grantBrowse projectKey user named grant granted =>
      have names := h.named_iff granted id
      simp only [Change.Grants, ← and_assoc, exists_and_right, names]
      rw [canBrowse_of_insert rfl]
      split
      · rename_i same
        rw [Grant.allows_insert, same, canBrowse_of_get? granted.grant]
        simp
      · rename_i other
        simp [other]
  | @grantBrowseToAnyone projectKey named grant granted =>
      have names := h.named_iff granted id
      simp only [Change.Grants, names]
      rw [canBrowse_of_insert rfl]
      split
      · rename_i same
        simp [Grant.allows_anyone, same]
      · rename_i other
        simp [other]

/-- One step lets a viewer browse a project exactly by a grant that succeeds, and withdraws nothing. -/
theorem Consistent.canBrowse_step (change : Change) (viewer : Viewer) (id : UInt64) :
    (index.step change).1.canBrowse viewer id = true ↔ index.canBrowse viewer id = true ∨
      index.Succeeds change ∧
        ∃ project, index.projects.get? id = some project ∧ change.Grants project.key viewer := by
  rcases index.step_cases change with ⟨accepted, succeeds⟩ | ⟨same, fails⟩
  · rw [h.canBrowse_of_accepts accepted, and_iff_right succeeds]
  · rw [same, or_iff_left fun granted => fails granted.1]

end

theorem projects_of_accepts {change : Change} {next : Index} (accepted : index.Accepts change next)
    (id : UInt64) (stored : Project) :
    next.projects.get? id = some stored ↔ index.projects.get? id = some stored ∨
      ∃ project, change = .addProject project ∧ project.id = id ∧ kept project = stored := by
  cases accepted with
  | @addProject project freshId freshKey =>
      simp only [withProject, Table.get?_insert, Change.addProject.injEq, exists_eq_left']
      split
      · rename_i same
        obtain rfl : id = project.id := same
        simp [freshId]
      · rename_i other
        have differ : project.id ≠ id := Ne.symm other
        simp [differ]
  | addIssue listed fresh => simp [withIssue]
  | grantBrowse granted => simp [withGrant]
  | grantBrowseToAnyone granted => simp [withGrant]

/-- A project is stored from the step on that adds it, and stays what it was then. -/
theorem projects_step (index : Index) (change : Change) (id : UInt64) (stored : Project) :
    (index.step change).1.projects.get? id = some stored ↔ index.projects.get? id = some stored ∨
      ∃ project, (change = .addProject project ∧ index.Succeeds change) ∧ project.id = id ∧
        kept project = stored := by
  rcases index.step_cases change with ⟨accepted, succeeds⟩ | ⟨same, fails⟩
  · simp only [projects_of_accepts accepted, succeeds, and_true]
  · simp only [same, fails, and_false, false_and, exists_false, or_false]

end Stepping

end Index

namespace History

/-- At some point of the history, what had come before and the change made there were so. -/
def Once (holds : List Change → Change → Prop) (changes : List Change) : Prop :=
  ∃ before change after, changes = before ++ change :: after ∧ holds before change

/-- A change that adds the project succeeded. -/
def Added (project : Project) : List Change → Prop :=
  Once fun before change => change = .addProject project ∧ (Index.empty.run before).Succeeds change

/-- After the project of that id had been added, a grant of its key to the viewer succeeded. -/
def Granted (id : UInt64) (viewer : Viewer) : List Change → Prop :=
  Once fun before change => (Index.empty.run before).Succeeds change ∧
    ∃ project, project.id = id ∧ Added project before ∧ change.Grants project.key viewer

section

variable {holds : List Change → Change → Prop}

theorem not_once_nil : ¬ Once holds [] := by
  rintro ⟨before, change, after, split, -⟩
  exact absurd split.symm (List.append_ne_nil_of_right_ne_nil before (List.cons_ne_nil change after))

theorem once_append_singleton (changes : List Change) (last : Change) :
    Once holds (changes ++ [last]) ↔ Once holds changes ∨ holds changes last := by
  constructor
  · rintro ⟨before, change, after, split, held⟩
    rcases List.eq_nil_or_concat after with rfl | ⟨between, final, rfl⟩
    · obtain ⟨rfl, same⟩ := List.append_inj' split rfl
      cases same
      exact .inr held
    · rw [List.concat_eq_append, ← List.cons_append, ← List.append_assoc] at split
      obtain ⟨rfl, -⟩ := List.append_inj' split rfl
      exact .inl ⟨before, change, between, rfl, held⟩
  · rintro (⟨before, change, after, rfl, held⟩ | held)
    · exact ⟨before, change, after ++ [last], by simp, held⟩
    · exact ⟨changes, last, [], rfl, held⟩

theorem Once.append {changes : List Change} (once : Once holds changes) (later : List Change) :
    Once holds (changes ++ later) := by
  obtain ⟨before, change, after, rfl, held⟩ := once
  exact ⟨before, change, after ++ later, by simp, held⟩

end

end History

namespace Index

theorem run_append_singleton (index : Index) (changes : List Change) (change : Change) :
    index.run (changes ++ [change]) = ((index.run changes).step change).1 := by
  rw [run, List.foldl_append]
  rfl

/-- The stored projects are those of the history that were added. -/
theorem projects_run (changes : List Change) (id : UInt64) (stored : Project) :
    (empty.run changes).projects.get? id = some stored ↔
      ∃ project, History.Added project changes ∧ project.id = id ∧ kept project = stored := by
  induction changes using List.reverseRecOn with
  | nil =>
      constructor
      · intro found
        cases found
      · rintro ⟨project, added, -⟩
        exact absurd added History.not_once_nil
  | append_singleton changes change ih =>
      simp only [run_append_singleton, projects_step, ih, History.Added,
        History.once_append_singleton, or_and_right, exists_or]

/-- A grant for a stored project is one for the project as it was added. -/
theorem grants_stored_iff (changes : List Change) (change : Change) (viewer : Viewer) (id : UInt64) :
    (∃ project, (empty.run changes).projects.get? id = some project ∧
        change.Grants project.key viewer) ↔
      ∃ project, project.id = id ∧ History.Added project changes ∧
        change.Grants project.key viewer := by
  simp only [projects_run]
  constructor
  · rintro ⟨_, ⟨project, added, sameId, rfl⟩, grants⟩
    exact ⟨project, sameId, added, (change.grants_kept project viewer).mp grants⟩
  · rintro ⟨project, sameId, added, grants⟩
    exact ⟨kept project, ⟨project, added, sameId, rfl⟩,
      (change.grants_kept project viewer).mpr grants⟩

theorem canBrowse_run (changes : List Change) (viewer : Viewer) (id : UInt64) :
    (empty.run changes).canBrowse viewer id = true ↔ History.Granted id viewer changes := by
  -- Whether a change succeeds depends on those before it, so the last one comes off first.
  induction changes using List.reverseRecOn with
  | nil =>
      constructor
      · intro may
        cases may
      · exact fun granted => absurd granted History.not_once_nil
  | append_singleton changes change ih =>
      have consistent : (empty.run changes).Consistent := Reachable.consistent ⟨changes, rfl⟩
      rw [run_append_singleton, consistent.canBrowse_step, ih, grants_stored_iff, History.Granted,
        History.once_append_singleton]

/-- After any run of changes, a viewer may browse a project exactly if it was added and, after that,
a grant for its key and for the viewer succeeded. No later change takes this back, and the one change
that brings it about is such a grant. -/
theorem canBrowse_exactly_granted (changes : List Change) (viewer : Viewer) (id : UInt64) :
    let index := empty.run changes
    (index.canBrowse viewer id = true ↔ History.Granted id viewer changes) ∧
      (∀ later, index.canBrowse viewer id = true →
        (empty.run (changes ++ later)).canBrowse viewer id = true) ∧
      ∀ change, (index.step change).1.canBrowse viewer id = true ↔
        index.canBrowse viewer id = true ∨ index.Succeeds change ∧
          ∃ project, index.projects.get? id = some project ∧ change.Grants project.key viewer := by
  intro index
  have consistent : index.Consistent := Reachable.consistent ⟨changes, rfl⟩
  refine ⟨canBrowse_run changes viewer id, ?_, fun change => consistent.canBrowse_step change viewer id⟩
  intro later may
  have granted := (canBrowse_run changes viewer id).mp may
  exact (canBrowse_run (changes ++ later) viewer id).mpr (granted.append later)

/-- A grant to alice among changes that fail: a grant for a key of no project before, and two projects
with a known id and a known key after. -/
def disputedChanges : List Change :=
  [.addProject ⟨1, "demo", "Demo"⟩, .grantBrowseToAnyone "nope", .grantBrowse "Demo" "alice",
    .addProject ⟨1, "other", "Other"⟩, .addProject ⟨2, "DEMO", "Again"⟩,
    .addProject ⟨3, "sec", "Secret"⟩]

theorem disputed_exactly_granted :
    let later : List Change := [.addProject ⟨1, "demo", "Demo"⟩, .grantBrowseToAnyone "Sec"]
    History.Granted 1 (.user "alice") disputedChanges ∧
      ¬ History.Granted 1 .anonymous disputedChanges ∧
      ¬ History.Granted 3 (.user "alice") disputedChanges ∧
      (empty.run (disputedChanges ++ later)).canBrowse (.user "alice") 1 = true := by
  intro later
  have alice := canBrowse_exactly_granted disputedChanges (.user "alice") 1
  have anyone := canBrowse_exactly_granted disputedChanges .anonymous 1
  have secret := canBrowse_exactly_granted disputedChanges (.user "alice") 3
  have may : (empty.run disputedChanges).canBrowse (.user "alice") 1 = true := by decide
  refine ⟨alice.1.mp may, ?_, ?_, alice.2.1 later may⟩
  · rw [← anyone.1]
    decide
  · rw [← secret.1]
    decide

end Index

end IssueFilter
