import IssueFilter.Proofs.Query.Refilling
import IssueFilter.Runner

/-! Filling a query in: every call gives way to a list of literals. A filled query has no calls, and to
resolve a query is to get the values of its calls and to fill them in. -/
namespace IssueFilter

/-- What a call gives way to. -/
def Operand.ofLiterals (literals : List Literal) : Operand := .list (literals.map .single)

theorem Operand.calls_ofLiterals (literals : List Literal) : (ofLiterals literals).calls = [] := by
  induction literals with
  | nil => rfl
  | cons literal literals ih => exact ih

theorem Operand.literals_ofLiterals (literals : List Literal) :
    (ofLiterals literals).literals = literals := by
  induction literals with
  | nil => rfl
  | cons literal literals ih => exact congrArg (literal :: ·) ih

section Leftovers

mutual

theorem Operand.left_refill : ∀ (operand : Operand) (answers : List Operand),
    (operand.refill answers).2 = answers.drop operand.calls.length
  | .single _, _ | .empty, _ => rfl
  | .list items, answers => Operand.left_refillList items answers
  | .call _, [] => rfl
  | .call _, _ :: _ => rfl

theorem Operand.left_refillList : ∀ (items answers : List Operand),
    (Operand.refillList items answers).2 = answers.drop (Operand.callsOfList items).length
  | [], _ => rfl
  | item :: items, answers => by
      rw [Operand.refillList, Operand.callsOfList, List.length_append, ← List.drop_drop,
        ← Operand.left_refill item, ← Operand.left_refillList items]

end

theorem Condition.left_refill (condition : Condition) (answers : List Operand) :
    (condition.refill answers).2 = answers.drop condition.placedCalls.length := by
  rw [placedCalls, List.length_map]
  exact condition.operand.left_refill answers

mutual

theorem Clause.left_refill : ∀ (clause : Clause) (answers : List Operand),
    (clause.refill answers).2 =
      answers.drop (clause.conditions.flatMap Condition.placedCalls).length
  | .and children, answers | .or children, answers => Clause.left_refillList children answers
  | .not child, answers => child.left_refill answers
  | .condition c, answers => by
      rw [conditions, List.flatMap_singleton]
      exact c.left_refill answers

theorem Clause.left_refillList : ∀ (children : List Clause) (answers : List Operand),
    (Clause.refillList children answers).2 =
      answers.drop ((Clause.conditionsOfList children).flatMap Condition.placedCalls).length
  | [], _ => rfl
  | child :: children, answers => by
      rw [Clause.refillList, Clause.conditionsOfList, List.flatMap_append, List.length_append,
        ← List.drop_drop, ← Clause.left_refill child, ← Clause.left_refillList children]

end

end Leftovers

/-- The answers are enough for so many calls, and bring no new calls. -/
structure Fills (answers : List Operand) (count : Nat) : Prop where
  enough : count ≤ answers.length
  plain : ∀ answer ∈ answers, answer.calls = []

namespace Fills

variable {answers : List Operand} {count rest : Nat}

theorem first (fills : Fills answers (count + rest)) : Fills answers count :=
  ⟨Nat.le_trans (Nat.le_add_right count rest) fills.enough, fills.plain⟩

theorem drop (fills : Fills answers (count + rest)) : Fills (answers.drop count) rest := by
  refine ⟨?_, fun answer member => fills.plain answer (List.mem_of_mem_drop member)⟩
  rw [List.length_drop]
  have enough := fills.enough
  omega

end Fills

section Calls

mutual

theorem Operand.calls_refill : ∀ (operand : Operand) {answers : List Operand},
    Fills answers operand.calls.length → (operand.refill answers).1.calls = []
  | .single _, _, _ | .empty, _, _ => rfl
  | .list items, _, fills => Operand.calls_refillList items fills
  | .call _, [], fills => absurd fills.enough (Nat.not_succ_le_zero 0)
  | .call _, answer :: _, fills => fills.plain answer List.mem_cons_self

theorem Operand.calls_refillList : ∀ (items : List Operand) {answers : List Operand},
    Fills answers (Operand.callsOfList items).length →
      Operand.callsOfList (Operand.refillList items answers).1 = []
  | [], _, _ => rfl
  | item :: items, answers, fills => by
      rw [Operand.callsOfList, List.length_append] at fills
      rw [Operand.refillList, Operand.callsOfList, item.calls_refill fills.first, item.left_refill,
        Operand.calls_refillList items fills.drop, List.append_nil]

end

theorem Condition.placedCalls_refill (condition : Condition) {answers : List Operand}
    (fills : Fills answers condition.placedCalls.length) :
    (condition.refill answers).1.placedCalls = [] := by
  rw [placedCalls, List.length_map] at fills
  rw [placedCalls, List.map_eq_nil_iff]
  exact condition.operand.calls_refill fills

mutual

theorem Clause.calls_refill : ∀ (clause : Clause) {answers : List Operand},
    Fills answers (clause.conditions.flatMap Condition.placedCalls).length →
      (clause.refill answers).1.conditions.flatMap Condition.placedCalls = []
  | .and children, _, fills | .or children, _, fills => Clause.calls_refillList children fills
  | .not child, _, fills => child.calls_refill fills
  | .condition c, answers, fills => by
      rw [conditions, List.flatMap_singleton] at fills
      rw [refill, conditions, List.flatMap_singleton]
      exact c.placedCalls_refill fills

theorem Clause.calls_refillList : ∀ (children : List Clause) {answers : List Operand},
    Fills answers ((Clause.conditionsOfList children).flatMap Condition.placedCalls).length →
      (Clause.conditionsOfList (Clause.refillList children answers).1).flatMap
        Condition.placedCalls = []
  | [], _, _ => rfl
  | child :: children, answers, fills => by
      rw [Clause.conditionsOfList, List.flatMap_append, List.length_append] at fills
      rw [Clause.refillList, Clause.conditionsOfList, List.flatMap_append,
        child.calls_refill fills.first, child.left_refill,
        Clause.calls_refillList children fills.drop, List.append_nil]

end

end Calls

namespace Query

/-- The query with lists of literals in the places of its calls. Where there are fewer lists than
calls, the other calls give way to empty lists. -/
def fill (query : Query) (found : List (List Literal)) : Query :=
  query.refill (found.map .ofLiterals ++ List.replicate query.calls.length (.ofLiterals []))

variable (query : Query) (found : List (List Literal))

theorem ofLiterals_of_mem_answers {answer : Operand} (member : answer ∈ found.map .ofLiterals ++
    List.replicate query.calls.length (.ofLiterals [])) : ∃ literals, answer = .ofLiterals literals := by
  rcases List.mem_append.mp member with given | missing
  · obtain ⟨literals, -, rfl⟩ := List.mem_map.mp given
    exact ⟨literals, rfl⟩
  · exact ⟨[], (List.mem_replicate.mp missing).2⟩

theorem fills_answers : Fills (found.map .ofLiterals ++
    List.replicate query.calls.length (.ofLiterals [])) query.calls.length := by
  constructor
  · rw [List.length_append, List.length_replicate]
    exact Nat.le_add_left _ _
  · intro answer member
    obtain ⟨literals, rfl⟩ := query.ofLiterals_of_mem_answers found member
    exact Operand.calls_ofLiterals literals

theorem calls_fill : (query.fill found).calls = [] := by
  have fills := query.fills_answers found
  obtain ⟨clause, orderBy⟩ := query
  cases clause with
  | none => rfl
  | some clause => exact clause.calls_refill fills

end Query

section Resolving

variable {m : Type → Type} [Monad m] [LawfulMonad m]

theorem mapM_map_eq_map_mapM {α β γ : Type} (f : α → m β) (g : β → γ) (l : List α) :
    (l.mapM fun a => g <$> f a) = List.map g <$> l.mapM f := by
  induction l with
  | nil => rw [List.mapM_nil, List.mapM_nil, map_pure, List.map_nil]
  | cons a l ih =>
      rw [List.mapM_cons, List.mapM_cons, ih]
      simp only [map_bind, map_pure, bind_map_left, List.map_cons]

/-- Resolving a query gets the values of its calls from left to right and fills them in. -/
theorem Runner.resolve_eq_fill (runner : Runner m) (viewer : Viewer) (query : Query) :
    runner.resolve viewer query = query.fill <$> query.calls.mapM fun placed =>
      List.map CallValue.value <$> runner.valuesOf viewer placed.1 placed.2 := by
  have replaced : (fun (condition : Condition) (call : Call) => (do
      return .list ((← runner.valuesOf viewer condition call).map fun value =>
        .single value.value) : m Operand)) =
      fun condition call =>
        Operand.ofLiterals <$> List.map CallValue.value <$> runner.valuesOf viewer condition call := by
    funext condition call
    rw [Functor.map_map, map_eq_pure_bind]
    simp only [Operand.ofLiterals, List.map_map, Function.comp_def]
  rw [resolve, replaced, query.mapCallsM_eq_refill_append _
    (List.replicate query.calls.length (.ofLiterals [])), mapM_map_eq_map_mapM, Functor.map_map]
  rfl

end Resolving

end IssueFilter
