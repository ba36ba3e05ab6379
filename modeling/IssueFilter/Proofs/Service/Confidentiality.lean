import IssueFilter.Proofs.Function.ProjectArgument
import IssueFilter.Proofs.Runner.Relation
import IssueFilter.Service.Endpoint

/-! What a viewer is told never depends on what is hidden from them. The services of two indexes
that give a viewer the same view are compared while the viewer is entered on the thread: there both
identities that a sub-query may be searched for are the viewer, so that every step of the one
service answers as the same step of the other. -/
namespace IssueFilter

/-- Both computations give the same answer on the thread of the viewer, whom they leave there. -/
def Alike (viewer : Viewer) {α : Type} (x y : OnThread α) : Prop :=
  ∃ answer, x.run viewer = (answer, viewer) ∧ y.run viewer = (answer, viewer)

namespace Alike

variable {viewer : Viewer} {α β : Type}

theorem refl (a : α) : Alike viewer (pure a) (pure a) := ⟨a, rfl, rfl⟩

/-- What comes next has to be alike only after the answer that the first step gives. -/
theorem after {x y : OnThread α} {f g : α → OnThread β} {a : α}
    (left : x.run viewer = (a, viewer)) (right : y.run viewer = (a, viewer))
    (rest : Alike viewer (f a) (g a)) : Alike viewer (x >>= f) (y >>= g) := by
  obtain ⟨answer, afterLeft, afterRight⟩ := rest
  exact ⟨answer, by rw [StateT.run_bind, left]; exact afterLeft,
    by rw [StateT.run_bind, right]; exact afterRight⟩

theorem bind {x y : OnThread α} {f g : α → OnThread β} (first : Alike viewer x y)
    (rest : ∀ a, Alike viewer (f a) (g a)) : Alike viewer (x >>= f) (y >>= g) := by
  obtain ⟨a, left, right⟩ := first
  exact after left right (rest a)

def relation (viewer : Viewer) : EffectRelation OnThread OnThread where
  rel := Alike viewer
  rel_pure := refl
  rel_bind := bind

end Alike

theorem Session.run_within {α : Type} (viewer thread : Viewer) (action : OnThread α) :
    (Session.within viewer action).run thread = ((action.run viewer).1, thread) := rfl

/-- On the thread of the viewer there is one identity. -/
theorem SubQuery.run_runtimeIdentity (index : Index) (config : FunctionConfig) (catalog : Catalog)
    (viewer : Viewer) :
    (runtimeIdentity (index.host Session.current catalog) config viewer).run viewer =
      (viewer, viewer) := by
  unfold runtimeIdentity
  cases config.evaluateAs <;> rfl

section

variable {viewer : Viewer} {a b : Index} (same : Index.SameView viewer a b)
  (ha : a.Consistent) (hb : b.Consistent)
include same ha hb

theorem SubQuery.values_alike (config : FunctionConfig) (catalog : Catalog) (call : Call) :
    Alike viewer (values (a.host Session.current catalog) config viewer call)
      (values (b.host Session.current catalog) config viewer call) := by
  have tried : Alike viewer (tryValues (a.host Session.current catalog) config viewer call)
      (tryValues (b.host Session.current catalog) config viewer call) := by
    unfold tryValues
    have alike : compile (a.host Session.current catalog) call =
      compile (b.host Session.current catalog) call := rfl
    rw [alike]
    cases compile (b.host Session.current catalog) call with
    | error e => exact .refl _
    | ok query =>
        refine .after (run_runtimeIdentity a config catalog viewer)
          (run_runtimeIdentity b config catalog viewer) ?_
        simp only [Index.host, same.search_eq ha hb, pure_bind]
        cases b.search viewer query .unlimited <;> exact .refl _
  refine tried.bind fun answer => ?_
  cases answer <;> exact .refl _

theorem Runner.ofIndex_related (config : Config) :
    Runner.Related (Alike.relation viewer) viewer (.ofIndex config a) (.ofIndex config b) where
  parse := rfl
  search query page := by
    simp only [Runner.ofIndex, Index.host, same.search_eq ha hb]
    exact Alike.refl _
  validates condition call := by
    simp only [Runner.validateCall, Runner.find?_ofIndex]
    by_cases known : Lowercase.text call.name = Lowercase.text config.function.name
    · simp only [known, if_true]
      by_cases fits : DataType.issue.fits condition.field = true
      · simp only [SubQuery.function, fits, if_true, SubQuery.check_eq _ _ same ha hb]
        exact Alike.refl _
      · simp only [SubQuery.function, fits]
        exact Alike.refl _
    · simp only [known, if_false]
      exact Alike.refl _
  values condition call := by
    simp only [Runner.valuesOf, Runner.find?_ofIndex]
    by_cases known : Lowercase.text call.name = Lowercase.text config.function.name
    · simp only [known, if_true]
      exact SubQuery.values_alike same ha hb config.function _ call
    · simp only [known, if_false]
      exact Alike.refl _

theorem Endpoint.validated_alike (config : Config) (request : Request)
    (asViewer : request.viewer = viewer) :
    Alike viewer (validated (.ofIndex config a) request)
      (validated (.ofIndex config b) request) := by
  subst asViewer
  unfold validated
  rw [(Runner.ofIndex_related same ha hb config).parse]
  cases (Runner.ofIndex config b).parse request.filter with
  | error e => exact .refl _
  | ok query =>
      exact .bind ((Runner.ofIndex_related same ha hb config).validate query) fun _ => .refl _

theorem Endpoint.searched_alike (config : Config) (request : Request)
    (asViewer : request.viewer = viewer) :
    Alike viewer (searched (.ofIndex config a) request) (searched (.ofIndex config b) request) := by
  subst asViewer
  have related := Runner.ofIndex_related same ha hb config
  refine .bind (related.run request.filter request.page) fun answer => ?_
  cases answer <;> exact .refl _

end

/-- Two indexes that can come about, and that differ only in projects and issues hidden from a user,
answer every request of the user alike, whoever is entered on the thread before: with the same
status, errors, warnings, issues and total. -/
theorem hidden_data_never_influences (config : Config) {viewer : Viewer} {a b : Index}
    (ha : a.Reachable) (hb : b.Reachable) (same : Index.SameView viewer a b) (request : Request)
    (asViewer : request.viewer = viewer) (thread : Viewer) :
    (Endpoint.validate.handle (.ofIndex config a) request).run thread =
        (Endpoint.validate.handle (.ofIndex config b) request).run thread ∧
      (Endpoint.search.handle (.ofIndex config a) request).run thread =
        (Endpoint.search.handle (.ofIndex config b) request).run thread := by
  have equal : ∀ x y : OnThread Reply, Alike viewer x y →
      (Session.within request.viewer x).run thread =
        (Session.within request.viewer y).run thread := by
    rintro x y ⟨answer, left, right⟩
    rw [asViewer, Session.run_within, Session.run_within, left, right]
  have validated :=
    Endpoint.validated_alike same ha.consistent hb.consistent config request asViewer
  have searched :=
    Endpoint.searched_alike same ha.consistent hb.consistent config request asViewer
  exact ⟨equal _ _ validated, equal _ _ searched⟩

/-- A public project with an issue, and the same after a project that only bob may browse. -/
def publicChanges : List Change :=
  [.addProject ⟨1, "pub", "Public"⟩, .grantBrowseToAnyone "pub",
    .addIssue ⟨10, "PUB-1", 1, "", "Open", "Task", none, none, none, [], Index.sampleDay⟩]

def secretChanges : List Change :=
  [.addProject ⟨2, "sec", "Secret"⟩, .grantBrowse "sec" "bob",
    .addIssue ⟨20, "SEC-1", 2, "", "Open", "Task", none, none, none, [], Index.sampleDay⟩]

/-- A request that names the secret project by its key, sent while bob is on the thread. -/
theorem secret_project_never_influences :
    let shown := Index.empty.run publicChanges
    let stored := Index.empty.run (secretChanges ++ publicChanges)
    let request : Request :=
      ⟨"key in issuesInQuery('status = Open', sec)", .anonymous, .unlimited⟩
    let warning := "The project 'sec' does not exist or you do not have permission to browse it."
    let found : List IssueSummary := [⟨10, "PUB-1", "", "Open"⟩]
    shown ≠ stored ∧
      ((Endpoint.validate.handle (.ofIndex {} stored) request).run (.user "bob")).1 =
        ⟨.ok, { succeeded := true, warnings := [warning] }⟩ ∧
      ((Endpoint.search.handle (.ofIndex {} stored) request).run (.user "bob")).1 =
        ⟨.ok, { succeeded := true, total := some 1, issues := some found }⟩ := by
  intro shown stored request warning found
  have same : Index.SameView .anonymous shown stored := by decide
  have alike := hidden_data_never_influences {} ⟨publicChanges, rfl⟩
    ⟨secretChanges ++ publicChanges, rfl⟩ same request rfl (.user "bob")
  refine ⟨by decide, ?_, ?_⟩
  · rw [← alike.1]
    decide +kernel
  · rw [← alike.2]
    decide +kernel

end IssueFilter
