import IssueFilter.Function.SubQuery
import IssueFilter.Proofs.Search.Locality

/-! The project arguments of a sub-query. A hidden project and a missing one are the same to the
viewer: an argument passes exactly if it names a project that the viewer may browse, and whatever
else it names, the error is about the argument alone. -/
namespace IssueFilter.SubQuery

/-- The project an argument means, by its id if the argument is a numeral and else by its key. -/
def Names (argument : String) (project : Project) : Prop :=
  match Numeral.ofText? argument with
  | some id => project.id = id
  | none => project.key = Ascii.upper argument

theorem checkArgument_error {m : Type → Type} {host : Host m} {viewer : Viewer}
    {argument : String} {e : CompileError}
    (failed : checkArgument host viewer argument = .error e) :
    e = .unknownProject argument := by
  unfold checkArgument at failed
  cases found : resolveProject host argument with
  | none =>
      rw [found] at failed
      cases failed
      rfl
  | some project =>
      rw [found] at failed
      simp only at failed
      split at failed
      · cases failed
      · cases failed
        rfl

section

variable {m : Type → Type} [Monad m] (loggedIn : m Viewer) (catalog : Catalog)

theorem resolveProject_iff {index : Index} (h : index.Consistent) (argument : String)
    (project : Project) :
    resolveProject (index.host loggedIn catalog) argument = some project ↔
      index.projects.get? project.id = some project ∧ Names argument project := by
  unfold resolveProject Names
  cases Numeral.ofText? argument with
  | none => exact h.projectByKey?_iff argument project
  | some id =>
      constructor
      · intro found
        have sameId := h.project_id id project found
        exact ⟨by rw [sameId]; exact found, sameId⟩
      · rintro ⟨found, sameId⟩
        rw [← sameId]
        exact found

theorem checkArgument_iff {index : Index} (h : index.Consistent) (viewer : Viewer)
    (argument : String) (project : Project) :
    checkArgument (index.host loggedIn catalog) viewer argument = .ok project ↔
      index.browsable? viewer project.id = some project ∧ Names argument project := by
  rw [Index.browsable?_eq_some, and_right_comm, ← resolveProject_iff loggedIn catalog h]
  unfold checkArgument
  cases resolveProject (index.host loggedIn catalog) argument with
  | none => simp
  | some found =>
      have may : (index.host loggedIn catalog).canBrowse viewer found =
        index.canBrowse viewer found.id := rfl
      by_cases shown : index.canBrowse viewer found.id = true
      · simp only [may, shown, if_true, Except.ok.injEq, Option.some.injEq]
        constructor
        · rintro rfl
          exact ⟨rfl, shown⟩
        · exact fun same => same.1
      · simp only [may, shown, Option.some.injEq]
        constructor
        · intro impossible
          cases impossible
        · rintro ⟨rfl, contrary⟩
          exact absurd contrary shown

end

section

variable {m : Type → Type} [Monad m] (loggedIn : m Viewer) (catalog : Catalog)
  {viewer : Viewer} {a b : Index} (same : Index.SameView viewer a b)
  (ha : a.Consistent) (hb : b.Consistent)
include same ha hb

theorem checkArgument_eq (argument : String) :
    checkArgument (a.host loggedIn catalog) viewer argument =
      checkArgument (b.host loggedIn catalog) viewer argument := by
  have agree : ∀ project, checkArgument (a.host loggedIn catalog) viewer argument = .ok project ↔
      checkArgument (b.host loggedIn catalog) viewer argument = .ok project := by
    intro project
    rw [checkArgument_iff loggedIn catalog ha, checkArgument_iff loggedIn catalog hb, same.projects]
  cases inA : checkArgument (a.host loggedIn catalog) viewer argument with
  | ok project => exact ((agree project).mp inA).symm
  | error e =>
      cases inB : checkArgument (b.host loggedIn catalog) viewer argument with
      | ok project =>
          rw [(agree project).mpr inB] at inA
          cases inA
      | error e' => rw [checkArgument_error inA, checkArgument_error inB]

theorem check_eq (config : FunctionConfig) (call : Call) :
    check (a.host loggedIn catalog) config viewer call =
      check (b.host loggedIn catalog) config viewer call := by
  have note : noteArgument (a.host loggedIn catalog) config viewer =
      noteArgument (b.host loggedIn catalog) config viewer := by
    funext messages argument
    simp only [noteArgument, checkArgument_eq loggedIn catalog same ha hb]
    rfl
  unfold check
  rw [note]
  rfl

end

end IssueFilter.SubQuery
