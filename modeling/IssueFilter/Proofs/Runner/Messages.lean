import IssueFilter.Proofs.Message.Adding
import IssueFilter.Proofs.Search.Hits
import IssueFilter.Service.Endpoint

/-! What validation tells about a query. The calls are asked about one by one from left to right, and the
answers are put into one set; so each message is told once, where it came up first. -/
namespace IssueFilter.Runner

variable {m : Type → Type} [Monad m] [LawfulMonad m]

/-- The answers may be put together when all of them are there. -/
theorem foldlM_merge {α : Type} (answer : α → m MessageSet) (before : MessageSet) (items : List α) :
    items.foldlM (fun messages item => do return messages.merge (← answer item)) before =
      (do return (← items.mapM answer).foldl MessageSet.merge before) := by
  induction items generalizing before with
  | nil => rw [List.foldlM_nil, List.mapM_nil, pure_bind, List.foldl_nil]
  | cons item items ih =>
      rw [List.foldlM_cons, List.mapM_cons, bind_assoc, bind_assoc]
      refine congrArg (answer item >>= ·) (funext fun messages => ?_)
      rw [pure_bind, ih, bind_assoc]
      simp only [pure_bind, List.foldl_cons]

/-- The distinct texts of the answers to all calls of the query. -/
theorem validate_eq (runner : Runner m) (viewer : Viewer) (query : Query) :
    runner.validate viewer query = (do
      let answers ← query.calls.mapM fun placed => runner.validateCall viewer placed.1 placed.2
      return ⟨(answers.flatMap MessageSet.errors).eraseDups,
        (answers.flatMap MessageSet.warnings).eraseDups⟩) := by
  have whole : ∀ answers : List MessageSet, answers.foldl MessageSet.merge .empty =
      ⟨(answers.flatMap MessageSet.errors).eraseDups,
        (answers.flatMap MessageSet.warnings).eraseDups⟩ := by
    intro answers
    apply MessageSet.texts_inj.mp
    intro channel
    rw [MessageSet.texts_foldl_merge_empty]
    cases channel <;> rfl
  calc runner.validate viewer query
    _ = query.calls.foldlM (fun messages placed => do
          return messages.merge (← runner.validateCall viewer placed.1 placed.2)) .empty := rfl
    _ = (do
          let answers ← query.calls.mapM fun placed => runner.validateCall viewer placed.1 placed.2
          return answers.foldl MessageSet.merge .empty) := foldlM_merge _ .empty query.calls
    _ = _ := by simp only [whole]

/-- Whatever is added to an empty message set, texts to either channel and sets that came about in the same
way, a channel ends up with the texts that were added to it, each once and in the order in which they came
first. Adding a set does the same as adding its texts one by one, in any grouping and whichever channel comes
first; adding it once more does nothing, and it makes no difference which of several sets are put together
first. So a query is validated with the distinct messages about its calls, those about calls further to the
left first, whatever functions there are and whatever they do besides answering. -/
theorem messages_deduplicated (runner : Runner m) :
    (∀ (additions : List Addition) channel, (MessageSet.empty.afterAll additions).texts channel =
      (Addition.textsOfList channel additions).eraseDups) ∧
    (∀ (messages added : MessageSet) additions,
      (∀ channel, Addition.textsOfList channel additions = added.texts channel) →
      messages.merge added = messages.afterAll additions) ∧
    (∀ messages added : MessageSet,
      (messages.merge added).merge added = messages.merge added) ∧
    (∀ a b c : MessageSet, (a.merge b).merge c = a.merge (b.merge c)) ∧
    ∀ viewer query, runner.validate viewer query = (do
      let answers ← query.calls.mapM fun placed => runner.validateCall viewer placed.1 placed.2
      return ⟨(answers.flatMap MessageSet.errors).eraseDups,
        (answers.flatMap MessageSet.warnings).eraseDups⟩) := by
  refine ⟨fun additions channel => ?_, fun messages added additions each => ?_, ?_, ?_, ?_⟩
  · exact MessageSet.texts_afterAll_empty channel additions
  · exact messages.merge_eq_afterAll added each
  · exact MessageSet.merge_merge_self
  · exact MessageSet.merge_assoc
  · exact runner.validate_eq

/-- A set within a set with a text that is known already, and a query with the same unknown call in two places
and with an argument that is complained about twice. -/
theorem messages_deduplicated_mixed :
    let inner : List Addition := [.single .warnings "b", .single .errors "b", .single .errors "a"]
    let outer : List Addition := [.single .errors "a", .set [.single .warnings "a", .set inner]]
    let runner := ofIndex {} (Index.empty.run Index.mixedChanges)
    let unknown := Operand.call ⟨"nope", []⟩
    let doubtful := Operand.call ⟨"issuesInQuery", ["id = 1", "x", "sec", "x"]⟩
    let query : Query := ⟨some (.or [.condition ⟨"id", .isIn, .list [unknown, doubtful, unknown]⟩,
      .not (.condition ⟨"status", .isIn, doubtful⟩)]), []⟩
    let complaint (argument : String) :=
      "The project '" ++ argument ++ "' does not exist or you do not have permission to browse it."
    (MessageSet.empty.afterAll outer).texts .errors = ["a", "b"] ∧
      MessageSet.merge ⟨["c"], ["b"]⟩ ⟨["b", "a"], ["b"]⟩ = MessageSet.afterAll ⟨["c"], ["b"]⟩ inner ∧
      ((runner.validate .anonymous query).run .anonymous).1 =
        ⟨["Unable to find a function named 'nope'.",
          "Function 'issuesInQuery' produces issue values and cannot be used with field 'status'."],
          [complaint "x", complaint "sec"]⟩ := by
  intro inner outer runner unknown doubtful query complaint
  obtain ⟨deduplicated, grouped, -, -, validated⟩ := messages_deduplicated runner
  refine ⟨?_, ?_, ?_⟩
  · rw [deduplicated outer .errors]
    rfl
  · apply grouped
    intro channel
    cases channel <;> rfl
  · rw [validated .anonymous query]
    decide +kernel

end IssueFilter.Runner
