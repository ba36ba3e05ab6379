import IssueFilter.Proofs.Function.Sanitising
import IssueFilter.Service.Endpoint

/-! Sanitising a query. A runner that has the sub-query function of an index, and no other function
that sanitises, shows a viewer each call of the function with ids for the keys of hidden projects. So
hidden keys do not appear, and sanitising again changes nothing, unless the id of a hidden project is
the key of a hidden project: then the id that is put in is taken for a key the next time. -/
namespace IssueFilter

/-- No argument behind the sub-query of a call of the function is the key of a project that the viewer
may not browse. -/
def Index.NamesNoneHidden (index : Index) (config : FunctionConfig) (viewer : Viewer)
    (query : Query) : Prop :=
  ∀ placed ∈ query.calls, Lowercase.text placed.2.name = Lowercase.text config.name →
    ∀ argument ∈ placed.2.args.drop 1, ∀ project, index.projectByKey? argument = some project →
      index.canBrowse viewer project.id = true

namespace Runner

section

variable {m : Type → Type} [Monad m]

/-- The runner has the sub-query function of the index, and no other function that sanitises. -/
structure Serves (runner : Runner m) (index : Index) (loggedIn : m Viewer) (catalog : Catalog)
    (config : FunctionConfig) : Prop where
  knows : runner.registry.find? config.name =
    some (SubQuery.function (index.host loggedIn catalog) config)
  alone : ∀ name function, runner.registry.find? name = some function →
    function.sanitise?.isSome = true → Lowercase.text name = Lowercase.text config.name

variable {runner : Runner m} {index : Index} {loggedIn : m Viewer} {catalog : Catalog}
  {config : FunctionConfig} (serves : runner.Serves index loggedIn catalog config)
include serves

theorem Serves.find? {name : String} (same : Lowercase.text name = Lowercase.text config.name) :
    runner.registry.find? name = some (SubQuery.function (index.host loggedIn catalog) config) := by
  rw [← serves.knows, Registry.find?, Registry.find?, same]

variable [LawfulMonad m]

theorem Serves.sanitiseCall (viewer : Viewer) (call : Call) :
    runner.sanitiseCall viewer call = pure (index.shownCall config viewer call) := by
  unfold Runner.sanitiseCall Index.shownCall
  by_cases known : Lowercase.text call.name = Lowercase.text config.name
  · rw [serves.find? known, if_pos known]
    simp only [SubQuery.function, Option.bind_some, pure_bind, Index.getD_sanitise]
  · rw [if_neg known]
    cases found : runner.registry.find? call.name with
    | none => rfl
    | some function =>
        cases sanitises : function.sanitise? with
        | none => simp only [Option.bind_some, sanitises]
        | some sanitise =>
            exact absurd (serves.alone _ _ found (by rw [sanitises]; rfl)) known

theorem Serves.sanitise (viewer : Viewer) (query : Query) :
    runner.sanitise viewer query = pure (index.shownQuery config viewer query) := by
  have each : (fun (_ : Condition) call => (do
      return .call (← runner.sanitiseCall viewer call) : m Operand)) =
        fun _ call => pure (.call (index.shownCall config viewer call)) := by
    funext _ call
    rw [serves.sanitiseCall, pure_bind]
  rw [Runner.sanitise, each, Query.mapCallsM_pure]
  rfl

/-- For an index that can come about, sanitising always answers. The answers never name a hidden project
just if no id of a hidden project is the key of one, and they are always left as they are just if no id
of a hidden project is the key of another one. -/
theorem sanitise_exact (reachable : index.Reachable) (viewer : Viewer) :
    (∀ query, runner.sanitise viewer query = pure (index.shownQuery config viewer query)) ∧
      ((∀ query, index.NamesNoneHidden config viewer (index.shownQuery config viewer query)) ↔
        ∀ p, index.Hides viewer p → ∀ q, index.Hides viewer q → q.key ≠ Numeral.text p.id) ∧
      ((∀ query, index.shownQuery config viewer (index.shownQuery config viewer query) =
          index.shownQuery config viewer query) ↔
        ∀ p, index.Hides viewer p → ∀ q, index.Hides viewer q → q.key = Numeral.text p.id →
          q = p) :=
  ⟨serves.sanitise viewer, reachable.consistent.shownQuery_iff config viewer,
    reachable.consistent.shownQuery_stable_iff config viewer⟩

end

theorem serves_ofIndex (config : Config) (index : Index) :
    (ofIndex config index).Serves index Session.current config.catalog config.function where
  knows := by rw [find?_ofIndex, if_pos rfl]
  alone name function found _ := by
    rw [find?_ofIndex] at found
    split at found
    · assumption
    · cases found

/-- A project that anonymous viewers may not browse, and one that they may and whose key is the id of
the first. -/
def hiddenProjectChanges : List Change :=
  [.addProject ⟨5, "sec", "Secret"⟩, .addProject ⟨7, "5", "Five"⟩, .grantBrowseToAnyone "5"]

theorem sanitise_hiddenProject :
    let index := Index.empty.run hiddenProjectChanges
    let shown := index.shownQuery {} .anonymous (Index.argumentQuery {} "Sec")
    (ofIndex {} index).sanitise .anonymous (Index.argumentQuery {} "Sec") = pure shown ∧
      index.NamesNoneHidden {} .anonymous shown ∧
      index.shownQuery {} .anonymous shown = shown := by
  intro index shown
  have exactly := sanitise_exact (serves_ofIndex {} index) ⟨hiddenProjectChanges, rfl⟩ .anonymous
  have only : ∀ p, index.Hides .anonymous p → p = ⟨5, "SEC", "Secret"⟩ := by
    intro p hides
    have entries : index.projects.entries = [(5, ⟨5, "SEC", "Secret"⟩), (7, ⟨7, "5", "Five"⟩)] := rfl
    have member := (index.projects.mem_entries p.id p).mpr hides.stored
    rw [entries, List.mem_cons, List.mem_singleton, Prod.mk.injEq, Prod.mk.injEq] at member
    rcases member with ⟨-, rfl⟩ | ⟨-, rfl⟩
    · rfl
    · have shown := hides.hidden
      cases shown
  refine ⟨exactly.1 _, exactly.2.1.mpr ?_ _, exactly.2.2.mpr ?_ _⟩
  · intro p hidesP q hidesQ
    rw [only p hidesP, only q hidesQ]
    decide
  · intro p hidesP q hidesQ _
    rw [only p hidesP, only q hidesQ]

/-- Two projects that nobody may browse, the id of one of which is the key of the other. -/
def idAsKeyChanges : List Change :=
  [.addProject ⟨5, "SEC", "Secret"⟩, .addProject ⟨7, "5", "Five"⟩]

/-- The key `SEC` gives way to the id `5`, which is a hidden key, and gives way to `7` the next time. -/
theorem sanitise_idAsKey :
    let index := Index.empty.run idAsKeyChanges
    let runner := ofIndex {} index
    let query := Index.argumentQuery {}
    index.Reachable ∧ runner.sanitise .anonymous (query "SEC") = pure (query "5") ∧
      ¬ index.NamesNoneHidden {} .anonymous (query "5") ∧
      runner.sanitise .anonymous (query "5") = pure (query "7") ∧ query "7" ≠ query "5" := by
  intro index runner query
  have sanitised : ∀ argument, runner.sanitise .anonymous (query argument) =
      pure (query (index.shownArgument .anonymous argument)) := by
    intro argument
    rw [(serves_ofIndex {} index).sanitise, Index.shownQuery_argumentQuery]
  refine ⟨⟨idAsKeyChanges, rfl⟩, sanitised "SEC", ?_, sanitised "5", ?_⟩
  · intro none
    have may := none (_, _) List.mem_cons_self rfl "5" List.mem_cons_self ⟨7, "5", "Five"⟩ rfl
    cases may
  · intro same
    simp [query, Index.argumentQuery] at same

end Runner

end IssueFilter
