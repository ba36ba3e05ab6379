import IssueFilter.Proofs.Query.Exchanging
import IssueFilter.Proofs.Query.Filling
import IssueFilter.Proofs.Query.Replacing

/-! What filling in leaves alone. Only the calls of an operand give way, each to a list of literals; every
other item stays in its place, and so do the fields, the operators, the clauses around the conditions and
the ordering. -/
namespace IssueFilter

/-- Operands that are the same but for calls in the first one, in the places of which stand answers. -/
inductive Operand.Answered (answers : Operand → Prop) : Operand → Operand → Prop
  | single (value : Literal) : Answered answers (.single value) (.single value)
  | empty : Answered answers .empty .empty
  | list {items others : List Operand} : List.Forall₂ (Answered answers) items others →
      Answered answers (.list items) (.list others)
  | call {c : Call} {answer : Operand} : answers answer → Answered answers (.call c) answer

/-- A condition with lists of literals in the places of its calls. -/
inductive Clause.CallsAnswered : Clause → Clause → Prop
  | condition (c : Condition) {operand : Operand} :
      c.operand.Answered (∃ literals, · = .ofLiterals literals) operand →
      CallsAnswered (.condition c) (.condition (c.withOperand operand))

section Refilling

mutual

theorem Operand.answered_refill {good : Operand → Prop} : ∀ (operand : Operand)
    {answers : List Operand}, Fills answers operand.calls.length → (∀ answer ∈ answers, good answer) →
      operand.Answered good (operand.refill answers).1
  | .single value, _, _, _ => .single value
  | .empty, _, _, _ => .empty
  | .list items, _, fills, each => .list (Operand.answered_refillList items fills each)
  | .call _, [], fills, _ => absurd fills.enough (Nat.not_succ_le_zero 0)
  | .call _, _ :: _, _, each => .call (each _ List.mem_cons_self)

theorem Operand.answered_refillList {good : Operand → Prop} : ∀ (items : List Operand)
    {answers : List Operand}, Fills answers (Operand.callsOfList items).length →
      (∀ answer ∈ answers, good answer) →
      List.Forall₂ (Operand.Answered good) items (Operand.refillList items answers).1
  | [], _, _, _ => .nil
  | item :: items, answers, fills, each => by
      rw [Operand.callsOfList, List.length_append] at fills
      rw [Operand.refillList]
      refine .cons (item.answered_refill fills.first each) ?_
      rw [item.left_refill]
      exact Operand.answered_refillList items fills.drop
        fun answer member => each answer (List.mem_of_mem_drop member)

end

theorem Condition.callsAnswered_refill (condition : Condition) {answers : List Operand}
    (fills : Fills answers condition.placedCalls.length)
    (each : ∀ answer ∈ answers, ∃ literals, answer = .ofLiterals literals) :
    Clause.CallsAnswered (.condition condition) (.condition (condition.refill answers).1) := by
  rw [placedCalls, List.length_map] at fills
  exact .condition condition (condition.operand.answered_refill fills each)

mutual

theorem Clause.exchanged_refill : ∀ (clause : Clause) {answers : List Operand},
    Fills answers (clause.conditions.flatMap Condition.placedCalls).length →
      (∀ answer ∈ answers, ∃ literals, answer = .ofLiterals literals) →
      clause.Exchanged Clause.CallsAnswered (clause.refill answers).1
  | .and children, _, fills, each => .and (Clause.exchanged_refillList children fills each)
  | .or children, _, fills, each => .or (Clause.exchanged_refillList children fills each)
  | .not child, _, fills, each => .not (child.exchanged_refill fills each)
  | .condition c, answers, fills, each => by
      rw [conditions, List.flatMap_singleton] at fills
      exact .part (c.callsAnswered_refill fills each)

theorem Clause.exchanged_refillList : ∀ (children : List Clause) {answers : List Operand},
    Fills answers ((Clause.conditionsOfList children).flatMap Condition.placedCalls).length →
      (∀ answer ∈ answers, ∃ literals, answer = .ofLiterals literals) →
      List.Forall₂ (Clause.Exchanged Clause.CallsAnswered) children
        (Clause.refillList children answers).1
  | [], _, _, _ => .nil
  | child :: children, answers, fills, each => by
      rw [Clause.conditionsOfList, List.flatMap_append, List.length_append] at fills
      rw [Clause.refillList]
      refine .cons (child.exchanged_refill fills.first each) ?_
      rw [child.left_refill]
      exact Clause.exchanged_refillList children fills.drop
        fun answer member => each answer (List.mem_of_mem_drop member)

end

end Refilling

namespace Query

theorem exchanged_fill (query : Query) (found : List (List Literal)) :
    query.Exchanged Clause.CallsAnswered (query.fill found) := by
  have fills := query.fills_answers found
  have each : ∀ answer ∈ _, ∃ literals, answer = Operand.ofLiterals literals :=
    fun _ => query.ofLiterals_of_mem_answers found
  obtain ⟨clause, orderBy⟩ := query
  refine ⟨?_, rfl⟩
  cases clause with
  | none => exact .none
  | some clause => exact .some (clause.exchanged_refill fills each)

/-- A walk over a query without calls has nothing to do. -/
theorem mapCallsM_of_noCalls {m : Type → Type} [Monad m] [LawfulMonad m]
    (f : Condition → Call → m Operand) {query : Query} (noCalls : query.calls = []) :
    query.mapCallsM f = pure query := by
  have refilled : query.refill [] = query :=
    calc query.refill []
      _ = query.mapCallsM (m := Id) fun _ call => pure (.call call) := by
          rw [mapCallsM_eq_refill, noCalls]
          rfl
      _ = query.mapCalls id := mapCallsM_pure (m := Id) id query
      _ = query := (mapCalls_eq_self_iff id query).mpr fun _ _ => rfl
  rw [mapCallsM_eq_refill, noCalls, List.mapM_nil, map_pure, refilled]

end Query

end IssueFilter
