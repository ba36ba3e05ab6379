import IssueFilter.Proofs.Function.Transparency
import IssueFilter.Service.Endpoint

/-! A sanitised query and the query it was made of. To the viewer it was sanitised for, and to
whoever it is evaluated for, they are the same: they differ in arguments only, these mean the same
projects, the channels in which something is said about them are the same, and so is what they are
resolved to. Keys that read as numbers are excluded, since such a key may give way to an id and the
id to a key. -/
namespace IssueFilter

/-- The call with the project arguments blotted out if it is a call of the function. -/
def Call.masked (config : FunctionConfig) (call : Call) : Call :=
  if Lowercase.text call.name = Lowercase.text config.name then
    call.withArgs (call.args.take 1 ++ (call.args.drop 1).map fun _ => "")
  else call

theorem Index.masked_shownCall (index : Index) (config : FunctionConfig) (viewer : Viewer)
    (call : Call) : (index.shownCall config viewer call).masked config = call.masked config := by
  unfold Call.masked
  rw [shownCall_name]
  by_cases known : Lowercase.text call.name = Lowercase.text config.name
  · obtain ⟨name, args⟩ := call
    rw [if_pos known, if_pos known, shownCall, if_pos known]
    cases args with
    | nil => rfl
    | cons text arguments =>
        simp only [Call.withArgs, shownArguments, List.take_succ_cons, List.take_zero,
          List.drop_succ_cons, List.drop_zero, List.map_map, Function.comp_def]
  · rw [if_neg known, if_neg known, shownCall, if_neg known]

/-- Who may browse everything is shown everything as it is. -/
theorem Index.Consistent.shownQuery_eq_self {index : Index} (h : index.Consistent) {viewer : Viewer}
    (all : ∀ id project, index.projects.get? id = some project → index.canBrowse viewer id = true)
    (config : FunctionConfig) (query : Query) : index.shownQuery config viewer query = query := by
  refine (Query.mapCalls_eq_self_iff _ query).mpr fun placed _ => ?_
  by_cases known : Lowercase.text placed.2.name = Lowercase.text config.name
  · refine (index.shownCall_eq_self_iff config viewer known).mpr fun argument _ => ?_
    refine shownArgument_shown fun project named => ?_
    exact all project.id project ((h.projectByKey?_iff argument project).mp named).1
  · exact if_neg known

namespace Runner

section

variable {m : Type → Type} [Monad m] {index : Index} {loggedIn : m Viewer} {catalog : Catalog}
  {config : FunctionConfig}

theorem shown_host (index : Index) (loggedIn : m Viewer) (catalog : Catalog)
    (config : FunctionConfig) (viewer : Viewer) :
    shown (index.host loggedIn catalog) config viewer = index.shownCall config viewer := by
  funext call
  rw [shown, Index.shownCall, Index.getD_sanitise]

section Judging

variable (h : index.Consistent) (keys : index.KeysAreNoNumerals)
include h keys

theorem judgement_shown (viewer : Viewer) (texts : Catalog) (placed : Condition × Call)
    (f : Call → Call) :
    (judgement texts (index.host loggedIn catalog) config viewer
      (placed.1.mapCalls f, index.shownCall config viewer placed.2)).SameChannels
        (judgement texts (index.host loggedIn catalog) config viewer placed) := by
  have field : (placed.1.mapCalls f).field = placed.1.field := rfl
  unfold judgement
  simp only [Index.shownCall_name, field]
  by_cases known : Lowercase.text placed.2.name = Lowercase.text config.name
  · rw [if_pos known, if_pos known, Index.shownCall, if_pos known]
    split
    · exact h.check_shownArguments loggedIn catalog keys config viewer placed.2
    · exact .refl _
  · rw [if_neg known, if_neg known]
    exact .refl _

theorem judgements_shown (viewer : Viewer) (texts : Catalog) (query : Query) :
    (judgements texts (index.host loggedIn catalog) config viewer
      (index.shownQuery config viewer query).calls).SameChannels
        (judgements texts (index.host loggedIn catalog) config viewer query.calls) := by
  unfold judgements
  rw [Index.shownQuery, Query.calls_mapCalls, List.foldl_map]
  suffices ∀ a b : MessageSet, a.SameChannels b → MessageSet.SameChannels
      (query.calls.foldl (fun messages placed => messages.merge (judgement texts
        (index.host loggedIn catalog) config viewer
          (placed.1.mapCalls (index.shownCall config viewer),
            index.shownCall config viewer placed.2))) a)
      (query.calls.foldl (fun messages placed => messages.merge (judgement texts
        (index.host loggedIn catalog) config viewer placed)) b) from this .empty .empty (.refl .empty)
  induction query.calls with
  | nil => exact fun a b same => same
  | cons placed calls ih =>
      intro a b same
      rw [List.foldl_cons, List.foldl_cons]
      apply ih
      apply same.merge
      exact judgement_shown h keys viewer texts placed (index.shownCall config viewer)

theorem resolved_shown (viewer : Viewer) (query : Query) :
    (index.shownQuery config viewer query).calls.map (fun placed =>
        (placed.2.args.drop 1).map (SubQuery.resolveProject (index.host loggedIn catalog))) =
      query.calls.map fun placed =>
        (placed.2.args.drop 1).map (SubQuery.resolveProject (index.host loggedIn catalog)) := by
  rw [Index.shownQuery, Query.calls_mapCalls, List.map_map]
  refine List.map_congr_left fun placed _ => ?_
  simp only [Function.comp_apply]
  by_cases known : Lowercase.text placed.2.name = Lowercase.text config.name
  · rw [Index.args_shownCall index config viewer known, Index.drop_shownArguments, List.map_map]
    refine List.map_congr_left fun argument _ => ?_
    exact h.resolveProject_shownArgument loggedIn catalog keys viewer argument
  · rw [Index.shownCall, if_neg known]

end Judging

variable [LawfulMonad m] {runner : Runner m}
  (only : runner.HasOnly (index.host loggedIn catalog) config)
include only

theorem HasOnly.resolve_shown (viewer context : Viewer) (query : Query) :
    runner.resolve context (index.shownQuery config viewer query) = runner.resolve context query := by
  rw [Index.shownQuery, resolve, resolve, Query.mapCallsM_mapCalls]
  refine congrArg (fun f => query.mapCallsM f) ?_
  funext condition call
  have values : List.map CallValue.value <$> runner.valuesOf context
        (condition.mapCalls (index.shownCall config viewer)) (index.shownCall config viewer call) =
      List.map CallValue.value <$> runner.valuesOf context condition call := by
    rw [only.valuesOf, only.valuesOf, Index.shownCall_name]
    by_cases known : Lowercase.text call.name = Lowercase.text config.name
    · rw [if_pos known, if_pos known, Index.shownCall, if_pos known]
      exact SubQuery.values_congr (index.asks_shownArguments viewer call _) context
    · rw [if_neg known, if_neg known]
  have placed := congrArg (fun found => (fun literals : List Literal =>
    Operand.list (literals.map .single)) <$> found) values
  simpa only [map_eq_pure_bind, bind_assoc, pure_bind, List.map_map, Function.comp_def] using placed

/-- For an index that can come about, and none of whose keys reads as a number, sanitising gives a
query that differs in project arguments of the function at most, and not at all if every project may
be browsed. The arguments mean the same projects. Validation reports errors about both queries or
none, and warnings about both or none, and both are resolved to the same query in every context. -/
theorem sanitise_transparent (reachable : index.Reachable) (keys : index.KeysAreNoNumerals)
    (viewer : Viewer) (query : Query) :
    ∃ shown, runner.sanitise viewer query = pure shown ∧
      shown.mapCalls (Call.masked config) = query.mapCalls (Call.masked config) ∧
      ((∀ id project, index.projects.get? id = some project → index.canBrowse viewer id = true) →
        shown = query) ∧
      (shown.calls.map (fun placed =>
          (placed.2.args.drop 1).map (SubQuery.resolveProject (index.host loggedIn catalog))) =
        query.calls.map fun placed =>
          (placed.2.args.drop 1).map (SubQuery.resolveProject (index.host loggedIn catalog))) ∧
      (∃ before after, runner.validate viewer query = pure before ∧
        runner.validate viewer shown = pure after ∧ after.SameChannels before) ∧
      ∀ context, runner.resolve context shown = runner.resolve context query := by
  have h := reachable.consistent
  refine ⟨index.shownQuery config viewer query, ?_, ?_, ?_, ?_, ?_, ?_⟩
  · rw [only.sanitise, shown_host]
    rfl
  · rw [Index.shownQuery, Query.mapCalls_mapCalls]
    exact congrArg (fun f => query.mapCalls f) (funext (index.masked_shownCall config viewer))
  · exact fun all => h.shownQuery_eq_self all config query
  · exact resolved_shown h keys viewer query
  · exact ⟨_, _, only.validate viewer query, only.validate viewer _,
      judgements_shown h keys viewer runner.catalog query⟩
  · exact fun context => only.resolve_shown viewer context query

end

/-- A project that anonymous viewers may not browse, and one that they may. -/
def twoProjectChanges : List Change :=
  [.addProject ⟨5, "sec", "Secret"⟩, .addProject ⟨7, "pub", "Public"⟩, .grantBrowseToAnyone "pub"]

theorem keys_twoProjects : (Index.empty.run twoProjectChanges).KeysAreNoNumerals := by
  intro id project stored
  have member := (Table.mem_entries _ id project).mpr stored
  have entries : (Index.empty.run twoProjectChanges).projects.entries =
    [(5, ⟨5, "SEC", "Secret"⟩), (7, ⟨7, "PUB", "Public"⟩)] := rfl
  rw [entries, List.mem_cons, List.mem_singleton, Prod.mk.injEq, Prod.mk.injEq] at member
  rcases member with ⟨-, rfl⟩ | ⟨-, rfl⟩
  · rfl
  · rfl

/-- The hidden key gives way to the id. The hidden id, the key that may be seen and the key of no
project stay, and in every context the query is resolved as before. -/
theorem sanitise_transparent_twoProjects :
    let runner := ofIndex {} (Index.empty.run twoProjectChanges)
    let query (argument : String) : Query := ⟨some (.condition ⟨"issue", .isIn,
      .call ⟨"IssuesInQuery", ["status = Open", argument, "+05", "Pub", "nope"]⟩⟩), []⟩
    runner.sanitise .anonymous (query "Sec") = pure (query "5") ∧
      ∀ context, runner.resolve context (query "5") = runner.resolve context (query "Sec") := by
  intro runner query
  have only : runner.HasOnly
    ((Index.empty.run twoProjectChanges).host Session.current (Config.catalog {})) {} := rfl
  obtain ⟨shown, sanitised, -, -, -, -, resolved⟩ := sanitise_transparent only
    ⟨twoProjectChanges, rfl⟩ keys_twoProjects .anonymous (query "Sec")
  have same : query "5" = shown := congrArg (fun action => (action .anonymous).1) sanitised
  subst same
  exact ⟨sanitised, resolved⟩

end Runner

end IssueFilter
