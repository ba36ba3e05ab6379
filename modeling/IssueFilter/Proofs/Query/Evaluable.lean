import IssueFilter.Proofs.Query.Shape
import IssueFilter.Query.Equality

/-! What evaluation takes for granted about a query. IS never looks at its operand, and an ordering
with a list for an operand holds of nothing; so it matters that queries with other operands than these
are never read. The shape that is checked node by node is stated here for all nodes of a query
together. -/
namespace IssueFilter

mutual

/-- Every clause in the clause, and the clause itself. -/
def Clause.subclauses : Clause → List Clause
  | .and children => .and children :: Clause.subclausesOfList children
  | .or children => .or children :: Clause.subclausesOfList children
  | .not child => .not child :: child.subclauses
  | .condition c => [.condition c]

def Clause.subclausesOfList : List Clause → List Clause
  | [] => []
  | child :: children => child.subclauses ++ Clause.subclausesOfList children

end

def Query.subclauses (query : Query) : List Clause :=
  match query.clause with
  | none => []
  | some clause => clause.subclauses

/-- An AND or an OR has at least two children. -/
def Clause.JoinsSeveral (clause : Clause) : Prop :=
  ∀ children, clause = .and children ∨ clause = .or children → 2 ≤ children.length

def Operand.IsItem (operand : Operand) : Prop :=
  (∃ value, operand = .single value) ∨ ∃ call, operand = .call call

/-- The kind of operand that the operator is evaluated with. -/
def Operator.Takes (operator : Operator) (operand : Operand) : Prop :=
  match operator with
  | is | isNot => operand = .empty
  | isIn | notIn =>
    (∃ call, operand = .call call) ∨ ∃ items, operand = .list items ∧ ∀ item ∈ items, item.IsItem
  | equals | notEquals | like | notLike | less | lessOrEqual | greater | greaterOrEqual =>
    ∀ items, operand ≠ .list items

structure Condition.Evaluable (condition : Condition) : Prop where
  field : isFieldName condition.field = true
  operand : condition.operator.Takes condition.operand
  names : ∀ call ∈ condition.operand.calls, isCallName call.name = true

structure Query.Evaluable (query : Query) : Prop where
  conditions : ∀ condition ∈ query.conditions, condition.Evaluable
  sortFields : ∀ key ∈ query.orderBy, isFieldName key.field = true
  joins : ∀ clause ∈ query.subclauses, clause.JoinsSeveral

section Operands

theorem mem_callsOfList {call : Call} {items : List Operand} :
    call ∈ Operand.callsOfList items ↔ ∃ item ∈ items, call ∈ item.calls := by
  induction items with
  | nil => simp [Operand.callsOfList]
  | cons item items ih => simp [Operand.callsOfList, ih]

theorem Operand.isEmpty_iff (operand : Operand) : operand.isEmpty = true ↔ operand = .empty := by
  cases operand <;> simp [isEmpty]

theorem Operand.isItem_iff (operand : Operand) : (operand.isSingle || operand.isCall) = true ↔
    operand.IsItem ∧ ∀ call ∈ operand.calls, isCallName call.name = true := by
  cases operand <;> simp [IsItem, isSingle, isCall, calls]

theorem Operand.isFlatList_iff (items : List Operand) : (list items).isFlatList = true ↔
    (∀ item ∈ items, item.IsItem) ∧
      ∀ call ∈ (list items).calls, isCallName call.name = true := by
  simp only [isFlatList, List.all_eq_true, isItem_iff, calls, mem_callsOfList]
  constructor
  · intro each
    refine ⟨fun item member => (each item member).1, ?_⟩
    rintro call ⟨item, member, inside⟩
    exact (each item member).2 call inside
  · rintro ⟨kinds, names⟩ item member
    exact ⟨kinds item member, fun call inside => names call ⟨item, member, inside⟩⟩

theorem Operator.admits_iff (operator : Operator) (operand : Operand) :
    operator.admits operand = true ↔
      operator.Takes operand ∧ ∀ call ∈ operand.calls, isCallName call.name = true := by
  cases operator with
  | is | isNot =>
      rw [admits, Takes, Operand.isEmpty_iff, iff_self_and]
      rintro rfl call ⟨⟩
  | isIn | notIn =>
      rw [admits, Takes]
      cases operand with
      | list items => simpa [Operand.isCall] using Operand.isFlatList_iff items
      | single value => simp [Operand.isCall, Operand.isFlatList]
      | call c => simp [Operand.isCall, Operand.isFlatList, Operand.calls]
      | empty => simp [Operand.isCall, Operand.isFlatList]
  | equals | notEquals | like | notLike | less | lessOrEqual | greater | greaterOrEqual =>
      rw [admits, Takes]
      cases operand <;> simp [Operand.isSingle, Operand.isCall, Operand.isEmpty, Operand.calls]

theorem Condition.isShaped_iff (condition : Condition) :
    condition.isShaped = true ↔ condition.Evaluable := by
  rw [isShaped, Bool.and_eq_true, Operator.admits_iff]
  constructor
  · rintro ⟨field, operand, names⟩
    exact ⟨field, operand, names⟩
  · rintro ⟨field, operand, names⟩
    exact ⟨field, operand, names⟩

end Operands

section Clauses

theorem Clause.joinsSeveral_not (child : Clause) : (Clause.not child).JoinsSeveral := by
  rintro children (same | same) <;> cases same

theorem Clause.joinsSeveral_condition (c : Condition) : (Clause.condition c).JoinsSeveral := by
  rintro children (same | same) <;> cases same

theorem Clause.joinsSeveral_and (children : List Clause) :
    (Clause.and children).JoinsSeveral ↔ 2 ≤ children.length := by
  constructor
  · intro several
    exact several children (.inl rfl)
  · rintro several others (same | same) <;> cases same
    exact several

theorem Clause.joinsSeveral_or (children : List Clause) :
    (Clause.or children).JoinsSeveral ↔ 2 ≤ children.length := by
  constructor
  · intro several
    exact several children (.inr rfl)
  · rintro several others (same | same) <;> cases same
    exact several

mutual

/-- What is asked of every node is asked of the conditions and of the joints. -/
theorem Clause.isShaped_iff : ∀ clause : Clause, clause.isShaped = true ↔
    (∀ c ∈ clause.conditions, c.Evaluable) ∧ ∀ part ∈ clause.subclauses, part.JoinsSeveral
  | .and children => by
      rw [isShaped, Bool.and_eq_true, decide_eq_true_iff, areShaped_iff_all children, conditions,
        subclauses, List.forall_mem_cons, joinsSeveral_and, and_left_comm]
  | .or children => by
      rw [isShaped, Bool.and_eq_true, decide_eq_true_iff, areShaped_iff_all children, conditions,
        subclauses, List.forall_mem_cons, joinsSeveral_or, and_left_comm]
  | .not child => by
      rw [isShaped, isShaped_iff child, conditions, subclauses, List.forall_mem_cons,
        and_iff_right child.joinsSeveral_not]
  | .condition c => by
      simp only [isShaped, c.isShaped_iff, conditions, subclauses, List.forall_mem_singleton,
        joinsSeveral_condition, and_true]

theorem Clause.areShaped_iff_all : ∀ children : List Clause, Clause.areShaped children = true ↔
    (∀ c ∈ Clause.conditionsOfList children, c.Evaluable) ∧
      ∀ part ∈ Clause.subclausesOfList children, part.JoinsSeveral
  | [] => by simp [areShaped, conditionsOfList, subclausesOfList]
  | child :: children => by
      rw [areShaped, Bool.and_eq_true, isShaped_iff child, areShaped_iff_all children,
        conditionsOfList, subclausesOfList, List.forall_mem_append, List.forall_mem_append,
        and_and_and_comm]

end

end Clauses

namespace Query

theorem isShaped_iff (query : Query) : query.isShaped = true ↔ query.Evaluable := by
  have clause : query.clause.all Clause.isShaped = true ↔
      (∀ c ∈ query.conditions, c.Evaluable) ∧ ∀ part ∈ query.subclauses, part.JoinsSeveral := by
    obtain ⟨clause, orderBy⟩ := query
    cases clause with
    | none => simp [conditions, subclauses]
    | some clause => exact clause.isShaped_iff
  rw [isShaped, Bool.and_eq_true, clause, List.all_eq_true]
  constructor
  · rintro ⟨⟨conditions, joins⟩, sortFields⟩
    exact ⟨conditions, sortFields, joins⟩
  · rintro ⟨conditions, sortFields, joins⟩
    exact ⟨⟨conditions, joins⟩, sortFields⟩

/-- Whatever the text, a query that is read from it has names of the grammar for fields and calls,
operators with operands they can be evaluated with, and no AND or OR of fewer than two clauses. -/
theorem parse_evaluable {text : String} {query : Query} (accepted : Query.parse text = .ok query) :
    query.Evaluable :=
  query.isShaped_iff.mp (parsed_of_ofChars accepted).shaped

/-- Calls and lists below NOT and both joints, in a text with keywords for fields and names. -/
theorem parse_evaluable_keywordNames :
    let query : Query := ⟨some (.and
      [.condition ⟨"in", .isIn, .list [.call ⟨"is", ["x y", "z"]⟩, .single (.number 7)]⟩,
        .not (.or [.condition ⟨"order", .isNot, .empty⟩, .condition ⟨"asc", .notIn, .list []⟩,
          .condition ⟨"a_.1", .less, .call ⟨"or", []⟩⟩])]), [⟨"by", .descending⟩]⟩
    Query.parse
      "in in(is('x y',z),7)and!(order is not null||asc not in()or a_.1<or())order by by desc" =
        .ok query ∧ query.Evaluable := by
  intro query
  have accepted : Query.parse
      "in in(is('x y',z),7)and!(order is not null||asc not in()or a_.1<or())order by by desc" =
        .ok query := rfl
  exact ⟨accepted, parse_evaluable accepted⟩

end Query

end IssueFilter
