import IssueFilter.Proofs.Query.Shape
import IssueFilter.Proofs.Query.Clauses

/-! Replacing calls by calls. Where the replacement has no effects the walk over a query has none
either. If it keeps the names of functions then what comes out of the parser stays such a query. -/
namespace IssueFilter

mutual

/-- The operand with another call in the place of each. -/
def Operand.mapCalls (f : Call → Call) : Operand → Operand
  | .single value => .single value
  | .list items => .list (Operand.mapCallsList f items)
  | .call c => .call (f c)
  | .empty => .empty

def Operand.mapCallsList (f : Call → Call) : List Operand → List Operand
  | [] => []
  | item :: items => item.mapCalls f :: Operand.mapCallsList f items

end

def Condition.mapCalls (f : Call → Call) (condition : Condition) : Condition :=
  condition.withOperand (condition.operand.mapCalls f)

def Query.mapCalls (f : Call → Call) : Query → Query :=
  Query.expand fun condition => .condition (condition.mapCalls f)

section Effects

variable {m : Type → Type} [Monad m] [LawfulMonad m]

mutual

theorem Operand.mapCallsM_pure (f : Call → Call) : ∀ operand : Operand,
    operand.mapCallsM (m := m) (fun call => pure (.call (f call))) = pure (operand.mapCalls f)
  | .single _ | .call _ | .empty => rfl
  | .list items => by
      rw [Operand.mapCallsM, Operand.mapCallsListM_pure f items, pure_bind, Operand.mapCalls]

theorem Operand.mapCallsListM_pure (f : Call → Call) : ∀ items : List Operand,
    Operand.mapCallsListM (m := m) (fun call => pure (.call (f call))) items =
      pure (Operand.mapCallsList f items)
  | [] => rfl
  | item :: items => by
      rw [Operand.mapCallsListM, Operand.mapCallsM_pure f item, pure_bind,
        Operand.mapCallsListM_pure f items, pure_bind, Operand.mapCallsList]

end

mutual

theorem Clause.mapConditionsM_pure (f : Condition → Condition) : ∀ clause : Clause,
    clause.mapConditionsM (m := m) (fun c => pure (f c)) =
      pure (clause.expand fun c => .condition (f c))
  | .and children | .or children => by
      rw [Clause.mapConditionsM, Clause.mapConditionsListM_pure f children, pure_bind, Clause.expand]
  | .not child => by
      rw [Clause.mapConditionsM, Clause.mapConditionsM_pure f child, pure_bind, Clause.expand]
  | .condition c => by rw [Clause.mapConditionsM, pure_bind, Clause.expand]

theorem Clause.mapConditionsListM_pure (f : Condition → Condition) : ∀ children : List Clause,
    Clause.mapConditionsListM (m := m) (fun c => pure (f c)) children =
      pure (Clause.expandList (fun c => .condition (f c)) children)
  | [] => rfl
  | child :: children => by
      rw [Clause.mapConditionsListM, Clause.mapConditionsM_pure f child, pure_bind,
        Clause.mapConditionsListM_pure f children, pure_bind, Clause.expandList]

end

theorem Query.mapConditionsM_pure (f : Condition → Condition) (query : Query) :
    query.mapConditionsM (m := m) (fun c => pure (f c)) =
      pure (query.expand fun c => .condition (f c)) := by
  obtain ⟨clause, orderBy⟩ := query
  rw [Query.mapConditionsM]
  cases clause with
  | none => rfl
  | some clause => simp only [Clause.mapConditionsM_pure, pure_bind]; rfl

theorem Query.mapCallsM_pure (f : Call → Call) (query : Query) :
    query.mapCallsM (m := m) (fun _ call => pure (.call (f call))) = pure (query.mapCalls f) := by
  have each : (fun condition : Condition => (do
      return condition.withOperand (← condition.operand.mapCallsM fun call =>
        pure (.call (f call))) : m Condition)) = fun condition => pure (condition.mapCalls f) := by
    funext condition
    rw [Operand.mapCallsM_pure, pure_bind]
    rfl
  rw [Query.mapCallsM, each]
  exact query.mapConditionsM_pure (Condition.mapCalls f)

end Effects

section Walks

variable {m : Type → Type} [Monad m]

mutual

theorem Operand.mapCallsM_mapCalls (f : Call → Call) (g : Call → m Operand) :
    ∀ operand : Operand, (operand.mapCalls f).mapCallsM g = operand.mapCallsM fun call => g (f call)
  | .single _ | .call _ | .empty => rfl
  | .list items => by
      rw [Operand.mapCalls, Operand.mapCallsM, Operand.mapCallsM,
        Operand.mapCallsListM_mapCallsList f g items]

theorem Operand.mapCallsListM_mapCallsList (f : Call → Call) (g : Call → m Operand) :
    ∀ items : List Operand, Operand.mapCallsListM g (Operand.mapCallsList f items) =
      Operand.mapCallsListM (fun call => g (f call)) items
  | [] => rfl
  | item :: items => by
      rw [Operand.mapCallsList, Operand.mapCallsListM, Operand.mapCallsListM,
        Operand.mapCallsM_mapCalls f g item, Operand.mapCallsListM_mapCallsList f g items]

end

mutual

theorem Clause.mapConditionsM_expand (f : Condition → Condition) (g : Condition → m Condition) :
    ∀ clause : Clause, (clause.expand fun c => .condition (f c)).mapConditionsM g =
      clause.mapConditionsM fun c => g (f c)
  | .and children | .or children => by
      rw [Clause.expand, Clause.mapConditionsM, Clause.mapConditionsM,
        Clause.mapConditionsListM_expandList f g children]
  | .not child => by
      rw [Clause.expand, Clause.mapConditionsM, Clause.mapConditionsM,
        Clause.mapConditionsM_expand f g child]
  | .condition c => rfl

theorem Clause.mapConditionsListM_expandList (f : Condition → Condition)
    (g : Condition → m Condition) : ∀ children : List Clause,
      Clause.mapConditionsListM g (Clause.expandList (fun c => .condition (f c)) children) =
        Clause.mapConditionsListM (fun c => g (f c)) children
  | [] => rfl
  | child :: children => by
      rw [Clause.expandList, Clause.mapConditionsListM, Clause.mapConditionsListM,
        Clause.mapConditionsM_expand f g child, Clause.mapConditionsListM_expandList f g children]

end

theorem Query.mapConditionsM_expand (f : Condition → Condition) (g : Condition → m Condition)
    (query : Query) : (query.expand fun c => .condition (f c)).mapConditionsM g =
      query.mapConditionsM fun c => g (f c) := by
  obtain ⟨clause, orderBy⟩ := query
  cases clause with
  | none => rfl
  | some clause =>
      simp only [Query.mapConditionsM, Query.expand, Option.map_some, Clause.mapConditionsM_expand]

/-- To walk over a query with other calls is to walk over the query itself. -/
theorem Query.mapCallsM_mapCalls (f : Call → Call) (g : Condition → Call → m Operand)
    (query : Query) : (query.mapCalls f).mapCallsM g =
      query.mapCallsM fun condition call => g (condition.mapCalls f) (f call) := by
  have each : (fun condition : Condition => (do
      return (condition.mapCalls f).withOperand
        (← (condition.mapCalls f).operand.mapCallsM (g (condition.mapCalls f))) : m Condition)) =
      fun condition => do
        return condition.withOperand
          (← condition.operand.mapCallsM fun call => g (condition.mapCalls f) (f call)) := by
    funext condition
    rw [← Operand.mapCallsM_mapCalls f (g (condition.mapCalls f)) condition.operand]
    rfl
  rw [Query.mapCalls, Query.mapCallsM, Query.mapCallsM, Query.mapConditionsM_expand, each]

theorem Query.mapCalls_mapCalls (f g : Call → Call) (query : Query) :
    (query.mapCalls f).mapCalls g = query.mapCalls fun call => g (f call) :=
  calc (query.mapCalls f).mapCalls g
    _ = (query.mapCalls f).mapCallsM (m := Id) fun _ call => pure (.call (g call)) :=
        (Query.mapCallsM_pure (m := Id) g (query.mapCalls f)).symm
    _ = query.mapCallsM (m := Id) fun _ call => pure (.call (g (f call))) :=
        query.mapCallsM_mapCalls f _
    _ = query.mapCalls fun call => g (f call) :=
        Query.mapCallsM_pure (m := Id) (fun call => g (f call)) query

end Walks

section Calls

variable (f : Call → Call)

mutual

theorem Operand.calls_mapCalls : ∀ operand : Operand, (operand.mapCalls f).calls = operand.calls.map f
  | .single _ | .call _ | .empty => rfl
  | .list items => Operand.callsOfList_mapCallsList items

theorem Operand.callsOfList_mapCallsList : ∀ items : List Operand,
    Operand.callsOfList (Operand.mapCallsList f items) = (Operand.callsOfList items).map f
  | [] => rfl
  | item :: items => by
      rw [Operand.mapCallsList, Operand.callsOfList, Operand.callsOfList,
        Operand.calls_mapCalls item, Operand.callsOfList_mapCallsList items, List.map_append]

end

mutual

theorem Operand.mapCalls_eq_self_iff : ∀ operand : Operand,
    operand.mapCalls f = operand ↔ ∀ call ∈ operand.calls, f call = call
  | .single _ | .call _ | .empty => by simp [Operand.mapCalls, Operand.calls]
  | .list items => by
      rw [Operand.mapCalls, Operand.calls, ← Operand.mapCallsList_eq_self_iff items]
      simp

theorem Operand.mapCallsList_eq_self_iff : ∀ items : List Operand,
    Operand.mapCallsList f items = items ↔ ∀ call ∈ Operand.callsOfList items, f call = call
  | [] => by simp [Operand.mapCallsList, Operand.callsOfList]
  | item :: items => by
      simp only [Operand.mapCallsList, Operand.callsOfList, List.cons.injEq,
        item.mapCalls_eq_self_iff, Operand.mapCallsList_eq_self_iff items, List.mem_append, or_imp,
        forall_and]

end

namespace Query

theorem conditions_mapCalls (query : Query) :
    (query.mapCalls f).conditions = query.conditions.map (Condition.mapCalls f) := by
  rw [mapCalls, conditions_expand, List.map_eq_flatMap]
  rfl

theorem calls_mapCalls (query : Query) : (query.mapCalls f).calls =
    query.calls.map fun placed => (placed.1.mapCalls f, f placed.2) := by
  have each : ∀ condition : Condition, (condition.mapCalls f).operand.calls =
      condition.operand.calls.map f := fun condition => condition.operand.calls_mapCalls f
  simp only [calls, conditions_mapCalls, List.flatMap_map, each, List.map_flatMap, List.map_map]
  rfl

theorem mapCalls_eq_self_iff (query : Query) :
    query.mapCalls f = query ↔ ∀ placed ∈ query.calls, f placed.2 = placed.2 := by
  have each : ∀ condition : Condition, Clause.condition (condition.mapCalls f) = .condition condition ↔
      ∀ call ∈ condition.operand.calls, f call = call := by
    intro condition
    rw [← condition.operand.mapCalls_eq_self_iff f, Clause.condition.injEq]
    obtain ⟨field, operator, operand⟩ := condition
    simp [Condition.mapCalls, Condition.withOperand]
  simp only [mapCalls, expand_eq_self_iff, each, calls, List.mem_flatMap, List.mem_map]
  constructor
  · rintro kept _ ⟨condition, member, call, inside, rfl⟩
    exact kept condition member call inside
  · exact fun kept condition member call inside => kept _ ⟨condition, member, call, inside, rfl⟩

end Query

end Calls

section Shape

mutual

theorem Clause.isShaped_expand {f : Condition → Clause} (kept : ∀ c, (f c).isShaped = c.isShaped) :
    ∀ clause : Clause, (clause.expand f).isShaped = clause.isShaped
  | .and children | .or children => by
      rw [Clause.expand, Clause.isShaped, Clause.isShaped, Clause.areShaped_expandList kept children,
        Clause.expandList_eq_map, List.length_map]
  | .not child => Clause.isShaped_expand kept child
  | .condition c => kept c

theorem Clause.areShaped_expandList {f : Condition → Clause}
    (kept : ∀ c, (f c).isShaped = c.isShaped) : ∀ children : List Clause,
    Clause.areShaped (Clause.expandList f children) = Clause.areShaped children
  | [] => rfl
  | child :: children => by
      rw [Clause.expandList, Clause.areShaped, Clause.areShaped, Clause.isShaped_expand kept child,
        Clause.areShaped_expandList kept children]

end

theorem Operand.isSingle_mapCalls (f : Call → Call) (operand : Operand) :
    (operand.mapCalls f).isSingle = operand.isSingle := by
  cases operand <;> rfl

variable {f : Call → Call} (named : ∀ call, (f call).name = call.name)
include named

theorem Operand.isCall_mapCalls (operand : Operand) :
    (operand.mapCalls f).isCall = operand.isCall := by
  cases operand with
  | call c => rw [mapCalls, isCall, isCall, named]
  | single value => rfl
  | list items => rfl
  | empty => rfl

theorem Operand.isFlatList_mapCalls (operand : Operand) :
    (operand.mapCalls f).isFlatList = operand.isFlatList := by
  cases operand with
  | list items =>
      rw [mapCalls, isFlatList, isFlatList]
      induction items with
      | nil => rfl
      | cons item items ih =>
          rw [mapCallsList, List.all_cons, List.all_cons, ih, item.isSingle_mapCalls f,
            item.isCall_mapCalls named]
  | single value => rfl
  | call c => rfl
  | empty => rfl

theorem Operator.admits_mapCalls (operator : Operator) (operand : Operand) :
    operator.admits (operand.mapCalls f) = operator.admits operand := by
  have empty : (operand.mapCalls f).isEmpty = operand.isEmpty := by cases operand <;> rfl
  cases operator <;>
    simp only [admits, empty, operand.isCall_mapCalls named, operand.isSingle_mapCalls f,
      operand.isFlatList_mapCalls named]

theorem Query.Parsed.mapCalls {query : Query} (parsed : query.Parsed) :
    (query.mapCalls f).Parsed := by
  refine ⟨?_, ?_⟩
  · have kept : ∀ c : Condition, (Clause.condition (c.mapCalls f)).isShaped = c.isShaped := by
      intro c
      rw [Clause.isShaped, Condition.isShaped, Condition.isShaped]
      exact congrArg (isFieldName c.field && ·) (c.operator.admits_mapCalls named c.operand)
    have shaped := parsed.shaped
    obtain ⟨clause, orderBy⟩ := query
    cases clause with
    | none => exact shaped
    | some clause =>
        rw [isShaped, Bool.and_eq_true] at shaped ⊢
        exact ⟨(clause.isShaped_expand kept).trans shaped.1, shaped.2⟩
  · rw [conditions_mapCalls]
    intro c member
    obtain ⟨before, inside, rfl⟩ := List.mem_map.mp member
    exact parsed.notDouble before inside

end Shape

end IssueFilter
