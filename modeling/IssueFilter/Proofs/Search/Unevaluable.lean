import IssueFilter.Proofs.Search.Evaluating
import IssueFilter.Proofs.Search.Exchanging

/-! Conditions that cannot be evaluated on any issue: those with a call and those on a field that does not
exist. A search that succeeds has reached none of them, so that its results do not depend on what stands in
their places. -/
namespace IssueFilter

def Condition.IsUnevaluable (condition : Condition) : Prop :=
  condition.operand.calls ≠ [] ∨ Field.ofName? condition.field = none

/-- Any clause in the place of a condition that cannot be evaluated. -/
inductive Clause.ReplacesUnevaluable : Clause → Clause → Prop
  | intro {condition : Condition} (replacement : Clause) : condition.IsUnevaluable →
      ReplacesUnevaluable (.condition condition) replacement

namespace Index

theorem satisfiesCondition_of_isUnevaluable (index : Index) (issue : Issue) {condition : Condition}
    (unevaluable : condition.IsUnevaluable) :
    ∃ e, index.satisfiesCondition issue condition = .error e := by
  obtain ⟨field, operator, operand⟩ := condition
  cases calls : operand.calls with
  | cons call others =>
      refine ⟨.unresolvedFunction call.name, ?_⟩
      rw [satisfiesCondition]
      simp only [calls]
  | nil =>
      have unknown : Field.ofName? field = none :=
        unevaluable.resolve_left fun some => some calls
      have failed : index.valuesOf issue field = .error (.unknownField field) := by
        rw [valuesOf, unknown]
      exact ⟨_, index.satisfiesCondition_of_unknown issue failed calls⟩

/-- What fails is extended by everything. -/
theorem satisfies_replaced (index : Index) (issue : Issue) (a b : Clause)
    (replaced : Clause.ReplacesUnevaluable a b) :
    (EffectOrder.extension SearchError).rel (index.satisfies issue a) (index.satisfies issue b) := by
  obtain ⟨replacement, unevaluable⟩ := replaced
  obtain ⟨e, failed⟩ := index.satisfiesCondition_of_isUnevaluable issue unevaluable
  intro holds found
  rw [satisfies, failed] at found
  cases found

/-- If a search succeeds then so does every search for the query with other clauses in the places of any of
its conditions that cannot be evaluated, and with the same results. -/
theorem search_ok_of_replaced {index : Index} {viewer : Viewer} {query other : Query} {page : Page}
    {results : SearchResults} (replaced : query.Exchanged Clause.ReplacesUnevaluable other)
    (found : index.search viewer query page = .ok results) :
    index.search viewer other page = .ok results :=
  search_exchanged (R := .extension SearchError) index.satisfies_replaced replaced viewer page
    results found

/-- A condition on an unknown field behind one that is false, and a call in a list in a list behind one that
is true: neither is reached on the issues that anonymous viewers may browse, so a condition that would fail
may stand for the one and a negation for the other. -/
theorem mixed_search_ok_of_replaced :
    let index := empty.run mixedChanges
    let id (n : UInt64) : Clause := .condition ⟨"id", .equals, .single (.number n)⟩
    let unknown : Clause := .condition ⟨"mood", .isNot, .empty⟩
    let call : Clause := .condition ⟨"id", .isIn, .list [.list [.call ⟨"f", []⟩]]⟩
    let query (first last : Clause) : Query :=
      ⟨some (.or [.and [id 99, first], .not (id 99), last]), []⟩
    index.search .anonymous (query unknown call) ⟨1, some 5⟩ = .ok ⟨index.issues.drop 2, 2⟩ ∧
      index.search .anonymous
        (query (.condition ⟨"status", .less, .single (.number 1)⟩) (.not (id 11))) ⟨1, some 5⟩ =
          .ok ⟨index.issues.drop 2, 2⟩ := by
  intro index id unknown call query
  have found : index.search .anonymous (query unknown call) ⟨1, some 5⟩ =
      .ok ⟨index.issues.drop 2, 2⟩ := by decide +kernel
  have first : unknown.Exchanged Clause.ReplacesUnevaluable
      (.condition ⟨"status", .less, .single (.number 1)⟩) :=
    .part (.intro _ (.inr rfl))
  have last : call.Exchanged Clause.ReplacesUnevaluable (.not (id 11)) :=
    .part (.intro _ (.inl (List.cons_ne_nil _ _)))
  have replaced : (query unknown call).Exchanged Clause.ReplacesUnevaluable
      (query (.condition ⟨"status", .less, .single (.number 1)⟩) (.not (id 11))) :=
    ⟨.some (.or (.cons (.and (.cons (.same _) (.cons first .nil)))
      (.cons (.same _) (.cons last .nil)))), rfl⟩
  exact ⟨found, search_ok_of_replaced replaced found⟩

end Index

end IssueFilter
