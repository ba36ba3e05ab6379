import IssueFilter.Function.SubQuery
import IssueFilter.Proofs.Message.Channels
import IssueFilter.Proofs.Query.Replacing
import IssueFilter.Runner
import Mathlib.Data.List.Forall2

/-! A runner that has the sub-query function and no other. What it says about the calls of a query,
and what it shows instead of them, is a function of the calls: neither has any effect, and nothing
is searched for it. Where it finds no error, every call has a sub-query. -/
namespace IssueFilter

/-- The sub-query of a call is what the parser reads its first argument as. -/
def Call.Asks (call : Call) (parse : QueryParser) (query : Query) : Prop :=
  ∃ text arguments, call.args = text :: arguments ∧ parse text = .ok query

theorem SubQuery.compile_ok_iff {m : Type → Type} (host : Host m) (call : Call) (query : Query) :
    compile host call = .ok query ↔ call.Asks host.parse query := by
  unfold compile Call.Asks
  cases call.args with
  | nil => simp
  | cons text arguments =>
      cases read : host.parse text with
      | ok found => simp [read]
      | error e => simp [read]

namespace Runner

variable {m : Type → Type}

def HasOnly [Monad m] (runner : Runner m) (host : Host m) (config : FunctionConfig) : Prop :=
  runner.registry = Registry.empty.register (SubQuery.function host config)

/-- What is to be said about a call where the sub-query function is the only one. -/
def judgement (catalog : Catalog) (host : Host m) (config : FunctionConfig) (viewer : Viewer)
    (placed : Condition × Call) : MessageSet :=
  if Lowercase.text placed.2.name = Lowercase.text config.name then
    if DataType.issue.fits placed.1.field then SubQuery.check host config viewer placed.2
    else MessageSet.empty.addError (catalog.message .functionIncompatible
      [placed.2.name, DataType.issue.name, placed.1.field])
  else MessageSet.empty.addError (catalog.message .functionUnknown [placed.2.name])

/-- The messages about all calls together, in the order of the calls. -/
def judgements (catalog : Catalog) (host : Host m) (config : FunctionConfig) (viewer : Viewer)
    (calls : List (Condition × Call)) : MessageSet :=
  calls.foldl (fun messages placed => messages.merge (judgement catalog host config viewer placed))
    .empty

/-- The call that is shown to a viewer. -/
def shown (host : Host m) (config : FunctionConfig) (viewer : Viewer) (call : Call) : Call :=
  if Lowercase.text call.name = Lowercase.text config.name then
    (SubQuery.sanitise host viewer call).getD call
  else call

section

variable {catalog : Catalog} {host : Host m} {config : FunctionConfig} {viewer : Viewer}

theorem errors_judgements_eq_nil_iff (calls : List (Condition × Call)) :
    (judgements catalog host config viewer calls).errors = [] ↔
      ∀ placed ∈ calls, (judgement catalog host config viewer placed).errors = [] := by
  suffices ∀ before : MessageSet, (calls.foldl (fun messages placed =>
      messages.merge (judgement catalog host config viewer placed)) before).errors = [] ↔
        before.errors = [] ∧
          ∀ placed ∈ calls, (judgement catalog host config viewer placed).errors = [] by
    simpa [judgements, MessageSet.empty] using this .empty
  intro before
  induction calls generalizing before with
  | nil => simp
  | cons placed calls ih =>
      rw [List.foldl_cons, ih, MessageSet.errors_merge_eq_nil_iff, List.forall_mem_cons, and_assoc]

/-- A call without errors is a call of the function, and its sub-query can be read. -/
theorem asks_of_judgement {placed : Condition × Call}
    (clear : (judgement catalog host config viewer placed).errors = []) :
    Lowercase.text placed.2.name = Lowercase.text config.name ∧
      ∃ query, placed.2.Asks host.parse query := by
  unfold judgement at clear
  split at clear
  · rename_i known
    refine ⟨known, ?_⟩
    split at clear
    · cases compiled : SubQuery.compile host placed.2 with
      | ok query => exact ⟨query, (SubQuery.compile_ok_iff _ _ _).mp compiled⟩
      | error e =>
          rw [SubQuery.check, compiled] at clear
          exact absurd clear (MessageSet.errors_addError_ne_nil _ _)
    · exact absurd clear (MessageSet.errors_addError_ne_nil _ _)
  · exact absurd clear (MessageSet.errors_addError_ne_nil _ _)

/-- Where no call has errors, every call has a sub-query. -/
theorem exists_subQueries {calls : List (Condition × Call)}
    (clear : ∀ placed ∈ calls, (judgement catalog host config viewer placed).errors = []) :
    ∃ subQueries, List.Forall₂ (fun placed subQuery => placed.2.Asks host.parse subQuery)
      calls subQueries := by
  induction calls with
  | nil => exact ⟨[], .nil⟩
  | cons placed calls ih =>
      rw [List.forall_mem_cons] at clear
      obtain ⟨-, subQuery, asks⟩ := asks_of_judgement clear.1
      obtain ⟨subQueries, others⟩ := ih clear.2
      exact ⟨subQuery :: subQueries, .cons asks others⟩

end

section

variable [Monad m] {runner : Runner m} {host : Host m} {config : FunctionConfig}
  (only : runner.HasOnly host config)
include only

theorem HasOnly.find? (name : String) : runner.registry.find? name =
    if Lowercase.text name = Lowercase.text config.name then
      some (SubQuery.function host config)
    else none := by
  rw [only, Registry.find?_register, Registry.find?_empty, SubQuery.function]

theorem HasOnly.validateCall (viewer : Viewer) (condition : Condition) (call : Call) :
    runner.validateCall viewer condition call =
      pure (judgement runner.catalog host config viewer (condition, call)) := by
  unfold Runner.validateCall judgement
  rw [only.find?]
  by_cases known : Lowercase.text call.name = Lowercase.text config.name
  · simp only [known, if_true, SubQuery.function]
    split <;> rfl
  · simp only [known, if_false]

theorem HasOnly.valuesOf (viewer : Viewer) (condition : Condition) (call : Call) :
    runner.valuesOf viewer condition call =
      if Lowercase.text call.name = Lowercase.text config.name then
        SubQuery.values host config viewer call
      else pure [] := by
  unfold Runner.valuesOf
  rw [only.find?]
  by_cases known : Lowercase.text call.name = Lowercase.text config.name
  · simp only [known, if_true, SubQuery.function]
  · simp only [known, if_false]

variable [LawfulMonad m]

theorem HasOnly.validate (viewer : Viewer) (query : Query) : runner.validate viewer query =
    pure (judgements runner.catalog host config viewer query.calls) := by
  unfold Runner.validate judgements
  simp only [only.validateCall, pure_bind]
  exact List.foldlM_pure

theorem HasOnly.sanitise (viewer : Viewer) (query : Query) :
    runner.sanitise viewer query = pure (query.mapCalls (shown host config viewer)) := by
  have each : (fun (_ : Condition) call => (do
      return .call (← runner.sanitiseCall viewer call) : m Operand)) =
        fun _ call => pure (.call (shown host config viewer call)) := by
    funext _ call
    unfold sanitiseCall shown
    rw [only.find?]
    by_cases known : Lowercase.text call.name = Lowercase.text config.name
    · simp only [known, if_true, SubQuery.function, Option.bind_some, pure_bind]
    · simp only [known, if_false, Option.bind_none, pure_bind]
  rw [Runner.sanitise, each, Query.mapCallsM_pure]

end

end Runner

end IssueFilter
