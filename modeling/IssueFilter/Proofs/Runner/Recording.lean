import IssueFilter.Proofs.Query.Refilling
import IssueFilter.Proofs.Runner.OneFunction

/-! Which searches a runner makes, and in which order. The record is kept by the one service that
answers both the filter and its sub-queries. Validating and sanitising leave no trace in it. A
filter without errors leaves one search for each of its calls, whatever becomes of the others, and
then its own, in which the calls have given way to what was found for them. -/
namespace IssueFilter

variable {m : Type → Type} [Monad m]

/-- The host with a record of the searches that are made at it. -/
def Host.recorded (host : Host m) : Host (Recorded m) where
  parse := host.parse
  search := host.search.recorded
  projectById? := host.projectById?
  projectByKey? := host.projectByKey?
  canBrowse := host.canBrowse
  loggedIn := StateT.lift host.loggedIn
  catalog := host.catalog

namespace SubQuery

/-- The search that is made for a sub-query, and the ids that are found in it. A search that fails
finds none. -/
def asked (host : Host m) (config : FunctionConfig) (viewer : Viewer) (query : Query) :
    m (SearchCall × List UInt64) := do
  let user ← runtimeIdentity host config viewer
  match ← host.search user query .unlimited with
  | .ok results => return (⟨user, query, .unlimited⟩, results.issues.map Issue.id)
  | .error _ => return (⟨user, query, .unlimited⟩, [])

variable [LawfulMonad m] {host : Host m} {config : FunctionConfig} {viewer : Viewer}

/-- Who the sub-queries are searched for is found out without a search. -/
theorem run_runtimeIdentity_recorded (before : List SearchCall) :
    (runtimeIdentity host.recorded config viewer).run before = do
      return (← runtimeIdentity host config viewer, before) := by
  unfold runtimeIdentity
  cases config.evaluateAs with
  | session => rfl
  | context => simp

theorem run_values_recorded {call : Call} {query : Query} (asks : call.Asks host.parse query)
    (before : List SearchCall) :
    (values host.recorded config viewer call).run before = do
      let found ← asked host config viewer query
      return (found.2.map fun id => ⟨call, .number id⟩, before ++ [found.1]) := by
  have compiled := (compile_ok_iff host.recorded call query).mpr asks
  have search : host.recorded.search = host.search.recorded := rfl
  simp only [values, tryValues, compiled, asked, search, SearchService.recorded, StateT.run_bind,
    run_runtimeIdentity_recorded, bind_assoc, pure_bind]
  congr 1
  funext user
  simp only [StateT.run_modify, StateT.run_monadLift, bind_assoc, pure_bind]
  congr 1
  funext answer
  cases answer with
  | ok results =>
      simp only [StateT.run_pure, pure_bind, List.map_map]
      rfl
  | error e => simp only [StateT.run_pure, pure_bind, List.map_nil]

end SubQuery

namespace Runner

/-- What takes the place of a call of which these ids were found. -/
def idList (ids : List UInt64) : Operand := .list (ids.map fun id => .single (.number id))

section

variable [LawfulMonad m] {runner : Runner (Recorded m)} {host : Host m} {config : FunctionConfig}
  (only : runner.HasOnly host.recorded config)
include only

/-- The operand that a call of the function is replaced by when the query is resolved. -/
theorem HasOnly.run_replacement {viewer : Viewer} {condition : Condition} {call : Call}
    {subQuery : Query} (known : Lowercase.text call.name = Lowercase.text config.name)
    (asks : call.Asks host.parse subQuery) (before : List SearchCall) :
    StateT.run (do
      return .list ((← runner.valuesOf viewer condition call).map fun value =>
        .single value.value) : Recorded m Operand) before = do
      let found ← SubQuery.asked host config viewer subQuery
      return (idList found.2, before ++ [found.1]) := by
  rw [only.valuesOf, if_pos known]
  simp only [StateT.run_bind, SubQuery.run_values_recorded asks, bind_assoc, pure_bind,
    StateT.run_pure, List.map_map]
  rfl

/-- Each sub-query is searched once, after those before it and before those behind it. -/
theorem HasOnly.run_replacements {viewer : Viewer} {calls : List (Condition × Call)}
    {subQueries : List Query}
    (known : ∀ placed ∈ calls, Lowercase.text placed.2.name = Lowercase.text config.name)
    (asks : List.Forall₂ (fun placed subQuery => placed.2.Asks host.parse subQuery) calls subQueries)
    (before : List SearchCall) :
    StateT.run (calls.mapM fun placed => (do
      return .list ((← runner.valuesOf viewer placed.1 placed.2).map fun value =>
        .single value.value) : Recorded m Operand)) before = do
      let found ← subQueries.mapM (SubQuery.asked host config viewer)
      return (found.map fun answer => idList answer.2, before ++ found.map Prod.fst) := by
  induction asks generalizing before with
  | nil => simp
  | cons first _ ih =>
      rw [List.forall_mem_cons] at known
      rw [List.mapM_cons, StateT.run_bind, only.run_replacement known.1 first]
      simp only [StateT.run_bind, ih known.2, List.mapM_cons, bind_assoc, pure_bind, StateT.run_pure,
        List.map_cons, List.append_assoc, List.singleton_append]

theorem HasOnly.run_resolve {viewer : Viewer} {query : Query} {subQueries : List Query}
    (known : ∀ placed ∈ query.calls, Lowercase.text placed.2.name = Lowercase.text config.name)
    (asks : List.Forall₂ (fun placed subQuery => placed.2.Asks host.parse subQuery) query.calls
      subQueries)
    (before : List SearchCall) :
    (runner.resolve viewer query).run before = do
      let found ← subQueries.mapM (SubQuery.asked host config viewer)
      return (query.refill (found.map fun answer => idList answer.2),
        before ++ found.map Prod.fst) := by
  rw [resolve, Query.mapCallsM_eq_refill, StateT.run_map, only.run_replacements known asks]
  simp only [map_eq_pure_bind, bind_assoc, pure_bind]

end

/-- A runner that has the sub-query function only, and that searches where the function searches,
makes no search while it validates or sanitises, however either of them reads texts. It makes none
for a text that it rejects. For any other text it makes one for each call, from left to right, then
one for the query with the ids in the places of the calls, and no more; which of them fail decides
about the ids and about the answer only. -/
theorem searches_exactly [LawfulMonad m] {runner : Runner (Recorded m)} {host : Host m}
    {config : FunctionConfig} (only : runner.HasOnly host.recorded config)
    (shared : runner.search = host.search.recorded) (viewer : Viewer) :
    (∀ query before,
      (∃ messages, (runner.validate viewer query).run before = pure (messages, before)) ∧
      ∃ shown, (runner.sanitise viewer query).run before = pure (shown, before)) ∧
    ∀ text page before,
      match runner.parse text with
      | .error e => (runner.run viewer text page).run before = pure (.error (.parse e), before)
      | .ok query => ∃ messages, runner.validate viewer query = pure messages ∧
        if messages.hasErrors then
          (runner.run viewer text page).run before = pure (.error (.validation messages), before)
        else ∃ subQueries,
          List.Forall₂ (fun placed subQuery => placed.2.Asks host.parse subQuery) query.calls
            subQueries ∧
          (runner.run viewer text page).run before = do
            let found ← subQueries.mapM (SubQuery.asked host config viewer)
            let resolved := query.refill (found.map fun answer => idList answer.2)
            let answer ← host.search viewer resolved page
            return (answer.mapError .search,
              before ++ found.map Prod.fst ++ [⟨viewer, resolved, page⟩]) := by
  constructor
  · intro query before
    rw [only.validate, only.sanitise]
    exact ⟨⟨_, rfl⟩, ⟨_, rfl⟩⟩
  · intro text page before
    unfold run
    cases runner.parse text with
    | error e => rfl
    | ok query =>
        refine ⟨_, only.validate viewer query, ?_⟩
        simp only [only.validate, pure_bind]
        split
        · rfl
        · rename_i clear
          have none := (errors_judgements_eq_nil_iff _).mp
            ((MessageSet.errors_eq_nil_iff _).mpr (eq_false_of_ne_true clear))
          obtain ⟨subQueries, asks⟩ := exists_subQueries none
          have known : ∀ placed ∈ query.calls,
              Lowercase.text placed.2.name = Lowercase.text config.name :=
            fun placed member => (asks_of_judgement (none placed member)).1
          refine ⟨subQueries, asks, ?_⟩
          simp only [StateT.run_bind, only.run_resolve known asks, bind_assoc, pure_bind, shared,
            SearchService.recorded, StateT.run_modify, StateT.run_monadLift]
          congr 1
          funext found
          congr 1
          funext answer
          cases answer with
          | ok results => rfl
          | error e => rfl

/-- Unlimited searches without an ordering break down, and the others find the issue 10. -/
def breakingHost : Host Id where
  parse := Query.parse
  search _ query page :=
    if page.isUnlimited && query.orderBy.isEmpty then .error (.backend "down")
    else .ok ⟨[⟨10, "P-10", 1, "", "Open", "Task", none, none, none, [], ⟨2024, 2, 29, by decide⟩⟩], 1⟩
  projectById? _ := none
  projectByKey? _ := none
  canBrowse _ _ := false
  loggedIn := .user "alice"
  catalog := .builtIn

def breakingRunner : Runner (Recorded Id) :=
  ⟨breakingHost.parse, breakingHost.search.recorded, breakingHost.catalog,
    Registry.empty.register (SubQuery.function breakingHost.recorded { name := "f" })⟩

/-- The first search breaks down, and the second and the third are made all the same. -/
theorem searches_exactly_breaking :
    let page : Page := ⟨0, some 5⟩
    let one (orderBy : List SortKey) : Query :=
      ⟨some (.condition ⟨"x", .equals, .single (.number 1)⟩), orderBy⟩
    let resolved : Query := ⟨some (.or
      [.condition ⟨"key", .isIn, .list [.list [], .single (.number 12)]⟩,
        .not (.condition ⟨"id", .isIn, .list [.single (.number 10)]⟩)]), []⟩
    ((breakingRunner.run .anonymous "key in (f('x = 1'), 12) or not id in f('x = 1 order by x')"
      page).run []).2 =
        [⟨.user "alice", one [], .unlimited⟩, ⟨.user "alice", one [⟨"x", .ascending⟩], .unlimited⟩,
          ⟨.anonymous, resolved, page⟩] := by
  intro page one resolved
  have only : breakingRunner.HasOnly breakingHost.recorded { name := "f" } := rfl
  have shared : breakingRunner.search = breakingHost.search.recorded := rfl
  have exactly := (searches_exactly only shared .anonymous).2
    "key in (f('x = 1'), 12) or not id in f('x = 1 order by x')" page []
  have accepted : breakingRunner.parse "key in (f('x = 1'), 12) or not id in f('x = 1 order by x')" =
    .ok ⟨some (.or
      [.condition ⟨"key", .isIn, .list [.call ⟨"f", ["x = 1"]⟩, .single (.number 12)]⟩,
        .not (.condition ⟨"id", .isIn, .call ⟨"f", ["x = 1 order by x"]⟩⟩)]), []⟩ := rfl
  have first : breakingHost.parse "x = 1" = .ok (one []) := rfl
  have second : breakingHost.parse "x = 1 order by x" = .ok (one [⟨"x", .ascending⟩]) := rfl
  rw [accepted] at exactly
  obtain ⟨messages, validated, exactly⟩ := exactly
  have silent : messages = .empty := (congrArg (fun action => (StateT.run action []).1) validated).symm
  subst silent
  obtain ⟨subQueries, asks, ran⟩ := exactly
  rcases asks with _ | ⟨⟨_, _, same, readFirst⟩, _ | ⟨⟨_, _, again, readSecond⟩, ⟨⟩⟩⟩
  cases same
  cases again
  rw [first] at readFirst
  rw [second] at readSecond
  cases readFirst
  cases readSecond
  exact congrArg Prod.snd ran

end Runner

end IssueFilter
