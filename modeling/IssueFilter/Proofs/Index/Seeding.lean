import IssueFilter.Index.Seed
import IssueFilter.Proofs.Index.Grants
import Mathlib.Data.List.Nodup

/-! Loading seeds. A seed is loaded in a loop over its projects and one over its issues; `run_forM` is
the rule for both, and for the loop over the grants of one project. What is kept by all of them is that
the part of the seed that has been loaded is consistent and represented by the index, so a seed that is
rejected has one first part for which this cannot be had. -/
namespace IssueFilter

theorem nodup_map_concat {α β : Type} {f : α → β} {xs : List α} {x : α} (distinct : (xs.map f).Nodup)
    (fresh : f x ∉ xs.map f) : ((xs ++ [x]).map f).Nodup := by
  rw [List.map_append, List.map_singleton, ← List.concat_eq_append]
  exact distinct.concat fresh

section Requirements

/-- The project as an index keeps it. -/
def SeedProject.stored (p : SeedProject) : Project := ⟨p.id, Ascii.upper p.key, p.name⟩

def SeedProject.Lets (p : SeedProject) (viewer : Viewer) : Prop :=
  p.isPublic = true ∨ ∃ user ∈ p.browsers, viewer = .user user

namespace Seed

structure IsConsistent (seed : Seed) : Prop where
  ids_distinct : (seed.projects.map SeedProject.id).Nodup
  /-- The case of ASCII letters does not tell keys apart. -/
  keys_distinct : (seed.projects.map fun p => Ascii.upper p.key).Nodup
  issues_distinct : (seed.issues.map Issue.id).Nodup
  issues_known : ∀ issue ∈ seed.issues, issue.projectId ∈ seed.projects.map SeedProject.id

structure RepresentedBy (seed : Seed) (index : Index) : Prop where
  issues : index.issues = seed.issues
  projectById? : ∀ id project, index.projectById? id = some project ↔
    ∃ p ∈ seed.projects, p.id = id ∧ p.stored = project
  projectByKey? : ∀ key project, index.projectByKey? key = some project ↔
    ∃ p ∈ seed.projects, Ascii.upper p.key = Ascii.upper key ∧ p.stored = project
  canBrowse : ∀ p ∈ seed.projects, ∀ viewer, index.canBrowse viewer p.id = true ↔ p.Lets viewer

/-- The error that is reported for the first project that does not go with those before it or, if there is
none, for the first issue that does not go with the projects and the issues before it. -/
inductive Offends (seed : Seed) : SeedError → Prop
  | duplicateProject {before : List SeedProject} {p : SeedProject} {after : List SeedProject} :
      seed.projects = before ++ p :: after → IsConsistent ⟨before, []⟩ →
      p.id ∈ before.map SeedProject.id ∨
        Ascii.upper p.key ∈ before.map (fun other => Ascii.upper other.key) →
      Offends seed (.duplicateProject (Ascii.upper p.key) p.id)
  | unknownProjectOfIssue {before : List Issue} {issue : Issue} {after : List Issue} :
      seed.issues = before ++ issue :: after → IsConsistent ⟨seed.projects, before⟩ →
      issue.projectId ∉ seed.projects.map SeedProject.id →
      Offends seed (.unknownProjectOfIssue issue.key issue.projectId)
  | duplicateIssue {before : List Issue} {issue : Issue} {after : List Issue} :
      seed.issues = before ++ issue :: after → IsConsistent ⟨seed.projects, before⟩ →
      issue.projectId ∈ seed.projects.map SeedProject.id → issue.id ∈ before.map Issue.id →
      Offends seed (.duplicateIssue issue.id)

theorem Offends.not_isConsistent {seed : Seed} {e : SeedError} (offends : seed.Offends e) :
    ¬ seed.IsConsistent := by
  intro consistent
  cases offends with
  | duplicateProject split _ clash =>
      have ids := consistent.ids_distinct
      have keys := consistent.keys_distinct
      simp only [split, List.map_append, List.map_cons, List.nodup_append] at ids keys
      rcases clash with sameId | sameKey
      · exact ids.2.2 _ sameId _ List.mem_cons_self rfl
      · exact keys.2.2 _ sameKey _ List.mem_cons_self rfl
  | unknownProjectOfIssue split _ unknown =>
      exact unknown (consistent.issues_known _ (by rw [split]; exact List.mem_append_cons_self))
  | duplicateIssue split _ _ repeated =>
      have ids := consistent.issues_distinct
      simp only [split, List.map_append, List.map_cons, List.nodup_append] at ids
      exact ids.2.2 _ repeated _ List.mem_cons_self rfl

end Seed

end Requirements

namespace Index

section Updating

variable {index : Index}

theorem Reachable.of_step {next : Index} {change : Change} {outcome : Except SeedError Unit}
    (h : index.Reachable) (stepped : index.step change = (next, outcome)) : next.Reachable := by
  obtain ⟨changes, rfl⟩ := h
  exact ⟨changes ++ [change], by rw [run_append_singleton, stepped]⟩

theorem run_of_step {next : Index} {change : Change} {outcome : Except SeedError Unit}
    (stepped : index.step change = (next, outcome)) :
    change.perform.run.run index = (outcome, next) := by
  rw [← Prod.swap_swap (change.perform.run.run index), ← step_eq, stepped]
  rfl

theorem run_bind_of_ok {first : Update Unit} {rest : Unit → Update Unit} {next : Index}
    (succeeds : first.run.run index = (.ok (), next)) :
    (first >>= rest).run.run index = (rest ()).run.run next := by
  rw [ExceptT.run_bind, StateT.run_bind, succeeds]
  rfl

theorem run_bind_of_error {first : Update Unit} {rest : Unit → Update Unit} {next : Index}
    {e : SeedError} (fails : first.run.run index = (.error e, next)) :
    (first >>= rest).run.run index = (.error e, next) := by
  rw [ExceptT.run_bind, StateT.run_bind, fails]
  rfl

/-- A loop goes through the whole list if each round keeps what has been `done` so far, and otherwise
stops at the first member whose round does not. -/
theorem run_forM {α : Type} {body : α → Update Unit} (done : List α → Index → Prop)
    {fails : List α → α → SeedError → Prop}
    (round : ∀ {before index} x, done before index →
      (∃ next, (body x).run.run index = (.ok (), next) ∧ done (before ++ [x]) next) ∨
      ∃ e next, (body x).run.run index = (.error e, next) ∧ fails before x e)
    (xs : List α) {before : List α} (start : done before index) :
    (∃ next, (xs.forM body).run.run index = (.ok (), next) ∧ done (before ++ xs) next) ∨
      ∃ e next first x after, (xs.forM body).run.run index = (.error e, next) ∧
        xs = first ++ x :: after ∧ fails (before ++ first) x e := by
  induction xs generalizing before index with
  | nil => exact .inl ⟨index, rfl, by rw [List.append_nil]; exact start⟩
  | cons x xs ih =>
      rcases round x start with ⟨mid, succeeds, kept⟩ | ⟨e, next, stops, failed⟩
      · have goesOn : ((x :: xs).forM body).run.run index = (xs.forM body).run.run mid :=
          run_bind_of_ok succeeds
        rw [goesOn]
        rcases ih kept with
          ⟨next, succeeded, through⟩ | ⟨e, next, first, y, after, stopped, rfl, failed⟩
        · rw [List.append_assoc] at through
          exact .inl ⟨next, succeeded, through⟩
        · rw [List.append_assoc] at failed
          exact .inr ⟨e, next, x :: first, y, after, stopped, rfl, failed⟩
      · refine .inr ⟨e, next, [], x, xs, run_bind_of_error stops, rfl, ?_⟩
        rw [List.append_nil]
        exact failed

end Updating

end Index

section Granting

/-- The changes that grant what the project of a seed lets viewers do. -/
def SeedProject.grants (p : SeedProject) : List Change :=
  (if p.isPublic then [.grantBrowseToAnyone p.key] else []) ++ p.browsers.map (.grantBrowse p.key)

variable {p : SeedProject}

theorem SeedProject.grantKey?_of_mem_grants {change : Change} (member : change ∈ p.grants) :
    change.grantKey? = some p.key := by
  rcases List.mem_append.mp member with anyone | named
  · split at anyone
    · rw [List.mem_singleton.mp anyone, Change.grantKey?]
    · cases anyone
  · obtain ⟨user, -, rfl⟩ := List.mem_map.mp named
    rfl

theorem SeedProject.grants_iff_lets (viewer : Viewer) :
    (∃ change ∈ p.grants, change.Grants p.key viewer) ↔ p.Lets viewer := by
  simp only [grants, List.mem_append, or_and_right, exists_or, List.mem_map, Lets]
  refine or_congr ?_ ?_
  · cases p.isPublic <;> simp [Change.Grants]
  · constructor
    · rintro ⟨_, ⟨user, member, rfl⟩, -, same⟩
      exact ⟨user, member, same⟩
    · rintro ⟨user, member, same⟩
      exact ⟨_, ⟨user, member, rfl⟩, rfl, same⟩

namespace Index

/-- Where the index stands after some grants for one project, and nothing else, were made. -/
structure AfterGrants (start : Index) (p : SeedProject) (changes : List Change) (index : Index) : Prop where
  reachable : index.Reachable
  issues : index.issues = start.issues
  projects : index.projects = start.projects
  canBrowse : ∀ viewer id, index.canBrowse viewer id = true ↔ start.canBrowse viewer id = true ∨
    id = p.id ∧ ∃ change ∈ changes, change.Grants p.key viewer

variable {start index : Index}

/-- A grant for the key of a stored project concerns this project only. -/
theorem Consistent.grants_stored_iff (h : index.Consistent)
    (stored : index.projects.get? p.id = some p.stored) {change : Change}
    (names : change.grantKey? = some p.key) (viewer : Viewer) (id : UInt64) :
    (∃ project, index.projects.get? id = some project ∧ change.Grants project.key viewer) ↔
      id = p.id ∧ change.Grants p.key viewer := by
  have folded : change.Grants p.stored.key viewer ↔ change.Grants p.key viewer :=
    change.grants_kept ⟨p.id, p.key, p.name⟩ viewer
  constructor
  · rintro ⟨project, found, grants⟩
    have known := (h.key_iff project.key id).mpr ⟨project, found, rfl⟩
    have sameKey : Ascii.upper p.key = Ascii.upper project.key := by
      cases change with
      | addProject _ => cases names
      | addIssue _ => cases names
      | grantBrowse _ _ => cases names; exact grants.1
      | grantBrowseToAnyone _ => cases names; exact grants
    rw [h.key_upper _ _ known] at sameKey
    have stands := (h.key_iff project.key p.id).mpr ⟨p.stored, stored, sameKey⟩
    obtain rfl : id = p.id := Option.some.inj (known.symm.trans stands)
    obtain rfl : p.stored = project := Option.some.inj (stored.symm.trans found)
    exact ⟨rfl, folded.mp grants⟩
  · rintro ⟨rfl, grants⟩
    exact ⟨p.stored, stored, folded.mpr grants⟩

/-- A grant for the key of a stored project is made. -/
theorem AfterGrants.grant {changes : List Change} (h : start.AfterGrants p changes index)
    (stored : start.projects.get? p.id = some p.stored) {change : Change}
    (names : change.grantKey? = some p.key) :
    ∃ next, change.perform.run.run index = (.ok (), next) ∧
      start.AfterGrants p (changes ++ [change]) next := by
  have consistent := h.reachable.consistent
  rw [← h.projects] at stored
  have known : index.keys.get? (Ascii.upper p.key) = some p.id :=
    (consistent.key_iff _ _).mpr ⟨p.stored, stored, rfl⟩
  rcases index.step_outcome change with ⟨e, refused, -⟩ | ⟨next, accepted, stepped⟩
  · cases refused with
    | duplicateProject _ => cases names
    | unknownProjectOfIssue _ => cases names
    | duplicateIssue _ _ => cases names
    | unknownProject named missing =>
        cases names.symm.trans named
        cases known.symm.trans missing
    | noGrants named leads missing =>
        exact absurd (.noGrants named leads missing) consistent.not_refuses_noGrants
  · refine ⟨next, run_of_step stepped, h.reachable.of_step stepped, ?_, ?_, ?_⟩
    · rw [← h.issues]
      cases accepted <;> first | rfl | cases names
    · rw [← h.projects]
      cases accepted <;> first | rfl | cases names
    · intro viewer id
      rw [consistent.canBrowse_of_accepts accepted, h.canBrowse,
        consistent.grants_stored_iff stored names]
      simp only [List.mem_append, List.mem_singleton, or_and_right, exists_or, exists_eq_left,
        and_or_left, or_assoc]

theorem AfterGrants.run_forM {changes : List Change} (h : start.AfterGrants p changes index)
    (stored : start.projects.get? p.id = some p.stored) (more : List Change)
    (names : ∀ change ∈ more, change.grantKey? = some p.key) :
    ∃ next, (more.forM Change.perform).run.run index = (.ok (), next) ∧
      start.AfterGrants p (changes ++ more) next := by
  induction more generalizing changes index with
  | nil => exact ⟨index, rfl, by rw [List.append_nil]; exact h⟩
  | cons change more ih =>
      obtain ⟨mid, succeeds, granted⟩ := h.grant stored (names change List.mem_cons_self)
      obtain ⟨next, through, after⟩ := ih granted fun other member =>
        names other (List.mem_cons_of_mem change member)
      rw [List.append_assoc] at after
      exact ⟨next, (run_bind_of_ok succeeds).trans through, after⟩

theorem run_grants (reachable : start.Reachable)
    (stored : start.projects.get? p.id = some p.stored) :
    ∃ next, (p.grants.forM Change.perform).run.run start = (.ok (), next) ∧
      start.AfterGrants p p.grants next := by
  have begins : start.AfterGrants p [] start := ⟨reachable, rfl, rfl, by simp⟩
  exact begins.run_forM stored p.grants fun _ => SeedProject.grantKey?_of_mem_grants

/-- A project of a seed is added, and then its grants are made. -/
theorem addSeedProject_eq (p : SeedProject) : addSeedProject p =
    (do Change.perform (.addProject ⟨p.id, p.key, p.name⟩); p.grants.forM Change.perform) := by
  unfold addSeedProject SeedProject.grants
  refine congrArg _ (funext fun _ => ?_)
  cases p.isPublic with
  | true => simp [Change.perform]
  | false => simp [Change.perform]

end Index

end Granting

namespace Seed

/-- What is kept while a seed is loaded, of the part that is in the index. -/
structure Loaded (seed : Seed) (index : Index) : Prop where
  consistent : seed.IsConsistent
  reachable : index.Reachable
  represented : seed.RepresentedBy index

section

variable {seed : Seed} {index : Index}

/-- The lookup by key follows from the one by id. -/
theorem RepresentedBy.of_consistent (h : index.Consistent) (issues : index.issues = seed.issues)
    (projects : ∀ id project, index.projects.get? id = some project ↔
      ∃ p ∈ seed.projects, p.id = id ∧ p.stored = project)
    (canBrowse : ∀ p ∈ seed.projects, ∀ viewer,
      index.canBrowse viewer p.id = true ↔ p.Lets viewer) : seed.RepresentedBy index where
  issues := issues
  projectById? := projects
  projectByKey? key project := by
    rw [h.projectByKey?_iff, projects]
    constructor
    · rintro ⟨⟨p, member, -, rfl⟩, sameKey⟩
      exact ⟨p, member, sameKey, rfl⟩
    · rintro ⟨p, member, sameKey, rfl⟩
      exact ⟨⟨p, member, rfl, rfl⟩, sameKey⟩
  canBrowse := canBrowse

namespace Loaded

variable (h : seed.Loaded index)
include h

theorem contains_iff (id : UInt64) :
    index.projects.contains id = true ↔ id ∈ seed.projects.map SeedProject.id := by
  rw [Table.contains, Option.isSome_iff_exists, List.mem_map]
  constructor
  · rintro ⟨project, found⟩
    obtain ⟨p, member, sameId, -⟩ := (h.represented.projectById? id project).mp found
    exact ⟨p, member, sameId⟩
  · rintro ⟨p, member, sameId⟩
    exact ⟨p.stored, (h.represented.projectById? id p.stored).mpr ⟨p, member, sameId, rfl⟩⟩

theorem contains_key_iff (key : String) : index.keys.contains (Ascii.upper key) = true ↔
    Ascii.upper key ∈ seed.projects.map fun p => Ascii.upper p.key := by
  have consistent := h.reachable.consistent
  rw [Table.contains, Option.isSome_iff_exists, List.mem_map]
  constructor
  · rintro ⟨id, known⟩
    obtain ⟨project, found, sameKey⟩ := (consistent.key_iff _ id).mp known
    obtain ⟨p, member, -, rfl⟩ := (h.represented.projectById? id project).mp found
    exact ⟨p, member, sameKey⟩
  · rintro ⟨p, member, sameKey⟩
    have found := (h.represented.projectById? p.id p.stored).mpr ⟨p, member, rfl, rfl⟩
    exact ⟨p.id, (consistent.key_iff _ _).mpr ⟨p.stored, found, sameKey⟩⟩

theorem mem_issueIds_iff (id : UInt64) : id ∈ index.issueIds ↔ id ∈ seed.issues.map Issue.id := by
  rw [h.reachable.consistent.mem_issueIds, h.represented.issues]

end Loaded

end

theorem loaded_empty : Loaded ⟨[], []⟩ Index.empty where
  consistent := ⟨List.nodup_nil, List.nodup_nil, List.nodup_nil, by simp⟩
  reachable := ⟨[], rfl⟩
  represented := .of_consistent Index.consistent_empty rfl (by simp [Index.empty]) (by simp)

section

variable {projects before : List SeedProject} {p : SeedProject} {issues : List Issue}

theorem IsConsistent.append_project (h : IsConsistent ⟨before, []⟩)
    (freshId : p.id ∉ before.map SeedProject.id)
    (freshKey : Ascii.upper p.key ∉ before.map fun other => Ascii.upper other.key) :
    IsConsistent ⟨before ++ [p], []⟩ where
  ids_distinct := nodup_map_concat h.ids_distinct freshId
  keys_distinct := nodup_map_concat h.keys_distinct freshKey
  issues_distinct := List.nodup_nil
  issues_known := by simp

theorem IsConsistent.append_issue {issue : Issue} (h : IsConsistent ⟨projects, issues⟩)
    (known : issue.projectId ∈ projects.map SeedProject.id) (fresh : issue.id ∉ issues.map Issue.id) :
    IsConsistent ⟨projects, issues ++ [issue]⟩ where
  ids_distinct := h.ids_distinct
  keys_distinct := h.keys_distinct
  issues_distinct := nodup_map_concat h.issues_distinct fresh
  issues_known := List.forall_mem_append.mpr ⟨h.issues_known, by simpa using known⟩

variable {index : Index}

section Adding

variable {mid : Index} (h : Loaded ⟨before, []⟩ index)
  (accepted : index.Accepts (.addProject ⟨p.id, p.key, p.name⟩) mid)
include h accepted

theorem Loaded.fresh_of_accepts : p.id ∉ before.map SeedProject.id ∧
    Ascii.upper p.key ∉ before.map fun other => Ascii.upper other.key := by
  cases accepted with
  | addProject freshId freshKey =>
      rw [← h.contains_iff p.id, ← h.contains_key_iff p.key, Table.contains, Table.contains]
      exact ⟨fun taken => Option.isSome_iff_ne_none.mp taken freshId,
        fun taken => Option.isSome_iff_ne_none.mp taken freshKey⟩

theorem Loaded.projects_of_accepts (id : UInt64) (project : Project) :
    mid.projects.get? id = some project ↔ ∃ q ∈ before ++ [p], q.id = id ∧ q.stored = project := by
  have loaded := h.represented.projectById? id project
  rw [Index.projectById?] at loaded
  rw [Index.projects_of_accepts accepted, loaded]
  simp only [Change.addProject.injEq, exists_eq_left', List.mem_append, List.mem_singleton,
    or_and_right, exists_or, exists_eq_left]
  rfl

theorem Loaded.canBrowse_of_accepts {next : Index} (after : mid.AfterGrants p p.grants next) :
    ∀ q ∈ before ++ [p], ∀ viewer, next.canBrowse viewer q.id = true ↔ q.Lets viewer := by
  intro q member viewer
  have consistent := h.reachable.consistent
  have fresh := (h.fresh_of_accepts accepted).1
  rw [after.canBrowse, SeedProject.grants_iff_lets, consistent.canBrowse_of_accepts accepted]
  simp only [Change.Grants, and_false, exists_false, or_false]
  rcases List.mem_append.mp member with earlier | last
  · have other : q.id ≠ p.id := fun same => fresh (same ▸ List.mem_map_of_mem earlier)
    rw [or_iff_left fun both => other both.1]
    exact h.represented.canBrowse q earlier viewer
  · obtain rfl := List.mem_singleton.mp last
    have unknown : index.projects.get? q.id = none := by
      rw [← h.contains_iff, Table.contains, Option.isSome_iff_ne_none, not_not] at fresh
      exact fresh
    rw [consistent.canBrowse_of_unknown unknown]
    simp

end Adding

/-- A project that does not clash with one before it is added with its grants. -/
theorem Loaded.project (h : Loaded ⟨before, []⟩ index) (p : SeedProject) :
    (∃ next, (Index.addSeedProject p).run.run index = (.ok (), next) ∧
      Loaded ⟨before ++ [p], []⟩ next) ∨
    ∃ e next, (Index.addSeedProject p).run.run index = (.error e, next) ∧
      ∀ (seed : Seed) after, seed.projects = before ++ p :: after → seed.Offends e := by
  rw [Index.addSeedProject_eq]
  rcases index.step_outcome (.addProject ⟨p.id, p.key, p.name⟩) with
    ⟨e, refused, stepped⟩ | ⟨mid, accepted, stepped⟩
  · refine .inr ⟨e, index, Index.run_bind_of_error (Index.run_of_step stepped), ?_⟩
    intro seed after split
    cases refused with
    | duplicateProject taken =>
        refine .duplicateProject split h.consistent (taken.imp (fun known => ?_) fun known => ?_)
        · exact (h.contains_iff p.id).mp (Option.isSome_iff_ne_none.mpr known)
        · exact (h.contains_key_iff p.key).mp (Option.isSome_iff_ne_none.mpr known)
    | unknownProject names _ => cases names
    | noGrants names _ _ => cases names
  · have fresh := h.fresh_of_accepts accepted
    have projects := h.projects_of_accepts accepted
    have stored : mid.projects.get? p.id = some p.stored :=
      (projects p.id p.stored).mpr ⟨p, List.mem_append_cons_self, rfl, rfl⟩
    have issues : mid.issues = [] := by
      cases accepted with
      | addProject _ _ => exact h.represented.issues
    obtain ⟨next, granted, after⟩ := Index.run_grants (h.reachable.of_step stepped) stored
    refine .inl ⟨next, (Index.run_bind_of_ok (Index.run_of_step stepped)).trans granted, ?_⟩
    exact ⟨h.consistent.append_project fresh.1 fresh.2, after.reachable,
      .of_consistent after.reachable.consistent (after.issues.trans issues) (after.projects ▸ projects)
        (h.canBrowse_of_accepts accepted after)⟩

/-- An issue of a known project is added unless there is one of its id already. -/
theorem Loaded.issue {seed : Seed} (h : Loaded ⟨seed.projects, issues⟩ index) (issue : Issue) :
    (∃ next, (Index.addIssue issue).run.run index = (.ok (), next) ∧
      Loaded ⟨seed.projects, issues ++ [issue]⟩ next) ∨
    ∃ e next, (Index.addIssue issue).run.run index = (.error e, next) ∧
      ∀ after, seed.issues = issues ++ issue :: after → seed.Offends e := by
  have consistent := h.reachable.consistent
  have known_iff : (index.byProject.get? issue.projectId).isSome = true ↔
      issue.projectId ∈ seed.projects.map SeedProject.id := by
    rw [← h.contains_iff, ← consistent.listed_iff, Table.contains]
  rcases index.step_outcome (.addIssue issue) with ⟨e, refused, stepped⟩ | ⟨next, accepted, stepped⟩
  · refine .inr ⟨e, index, Index.run_of_step stepped, ?_⟩
    intro after split
    cases refused with
    | unknownProjectOfIssue unknown =>
        refine .unknownProjectOfIssue split h.consistent fun known => ?_
        rw [← known_iff, unknown] at known
        cases known
    | duplicateIssue listed repeated =>
        refine .duplicateIssue split h.consistent (known_iff.mp ?_) ((h.mem_issueIds_iff _).mp repeated)
        rw [listed, Option.isSome_some]
    | unknownProject names _ => cases names
    | noGrants names _ _ => cases names
  · refine .inl ⟨next, Index.run_of_step stepped, ?_⟩
    have reachable := h.reachable.of_step stepped
    cases accepted with
    | addIssue listed fresh =>
        have known := known_iff.mp (by rw [listed, Option.isSome_some])
        have new : issue.id ∉ issues.map Issue.id := fun old => fresh ((h.mem_issueIds_iff _).mpr old)
        refine ⟨h.consistent.append_issue known new, reachable, .of_consistent reachable.consistent ?_
          h.represented.projectById? h.represented.canBrowse⟩
        rw [Index.withIssue, h.represented.issues]

/-- All of a seed is loaded, or up to its first part that does not go with what comes before. -/
theorem addSeed_cases (seed : Seed) :
    (∃ index, (Index.addSeed seed).run.run .empty = (.ok (), index) ∧ seed.Loaded index) ∨
    ∃ e index, (Index.addSeed seed).run.run .empty = (.error e, index) ∧ seed.Offends e := by
  unfold Index.addSeed
  have projects := Index.run_forM (fun before => Loaded ⟨before, []⟩)
    (fun p loaded => loaded.project p) seed.projects loaded_empty
  rcases projects with ⟨mid, added, loaded⟩ | ⟨e, index, _, _, after, stopped, split, offends⟩
  · have issues := Index.run_forM (fun before => Loaded ⟨seed.projects, before⟩)
      (fun issue loaded => loaded.issue issue) seed.issues loaded
    rw [Index.run_bind_of_ok added]
    rcases issues with ⟨index, through, loaded⟩ | ⟨e, index, _, _, after, stopped, split, offends⟩
    · exact .inl ⟨index, through, loaded⟩
    · exact .inr ⟨e, index, stopped, offends after split⟩
  · exact .inr ⟨e, index, Index.run_bind_of_error stopped, offends seed after split⟩

end

end Seed

namespace Index

/-- A seed is accepted exactly if it is consistent. The index then represents it, and is one that can come
about by changes; otherwise the error is that of the first part that does not fit. -/
theorem ofSeed_represents (seed : Seed) :
    ((∃ index, ofSeed seed = .ok index) ↔ seed.IsConsistent) ∧
    (∀ index, ofSeed seed = .ok index → seed.RepresentedBy index ∧ index.Reachable) ∧
    ∀ e, ofSeed seed = .error e → seed.Offends e := by
  unfold ofSeed
  rcases seed.addSeed_cases with ⟨index, added, loaded⟩ | ⟨e, index, stopped, offends⟩
  · rw [added]
    refine ⟨iff_of_true ⟨index, rfl⟩ loaded.consistent, ?_, ?_⟩
    · rintro _ ⟨⟩
      exact ⟨loaded.represented, loaded.reachable⟩
    · rintro _ ⟨⟩
  · rw [stopped]
    refine ⟨iff_of_false ?_ offends.not_isConsistent, ?_, ?_⟩
    · rintro ⟨_, ⟨⟩⟩
    · rintro _ ⟨⟩
    · rintro _ ⟨⟩
      exact offends

/-- A private and a public project, with an issue each. -/
def twoProjectSeed : Seed where
  projects := [⟨1, "demo", "Demo", false, ["alice"]⟩, ⟨2, "Pub", "Public", true, []⟩]
  issues :=
    [⟨7, "DEMO-7", 1, "", "Open", "Task", none, none, none, [], sampleDay⟩,
      ⟨8, "PUB-8", 2, "", "Open", "Task", none, none, none, [], sampleDay⟩]

/-- With one more project, the key of which differs from the first one in case only, it is rejected. -/
theorem twoProjectSeed_represents :
    let again : SeedProject := ⟨3, "DEMO", "Again", true, []⟩
    let clashing : Seed := { twoProjectSeed with projects := twoProjectSeed.projects ++ [again] }
    (∃ index, ofSeed twoProjectSeed = .ok index ∧ index.Reachable ∧
      index.issues = twoProjectSeed.issues ∧
      index.projectByKey? "deMo" = some ⟨1, "DEMO", "Demo"⟩ ∧
      index.canBrowse (.user "alice") 1 = true ∧ index.canBrowse .anonymous 1 = false) ∧
    ofSeed clashing = .error (.duplicateProject "DEMO" 3) ∧
    clashing.Offends (.duplicateProject "DEMO" 3) := by
  intro again clashing
  have accepted := ofSeed_represents twoProjectSeed
  have rejected := ofSeed_represents clashing
  have demo : ⟨1, "demo", "Demo", false, ["alice"]⟩ ∈ twoProjectSeed.projects := List.mem_cons_self
  have clashes : ofSeed clashing = .error (.duplicateProject "DEMO" 3) := by decide
  refine ⟨?_, clashes, rejected.2.2 _ clashes⟩
  obtain ⟨index, loaded⟩ := accepted.1.mpr ⟨by decide, by decide, by decide, by decide⟩
  obtain ⟨represented, reachable⟩ := accepted.2.1 index loaded
  refine ⟨index, loaded, reachable, represented.issues, ?_, ?_, ?_⟩
  · exact (represented.projectByKey? _ _).mpr ⟨_, demo, by decide, by decide⟩
  · exact (represented.canBrowse _ demo (.user "alice")).mpr (.inr ⟨"alice", by decide, rfl⟩)
  · rw [Bool.eq_false_iff, Ne, represented.canBrowse _ demo]
    simp [SeedProject.Lets]

end Index

end IssueFilter
