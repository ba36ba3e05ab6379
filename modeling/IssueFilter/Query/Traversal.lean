import IssueFilter.Query.Basic

/-! Walks over a query. The collecting walks list the calls of an operand and the conditions of a
clause from left to right; the replacing walks exchange them one by one, in the same order, and may
have effects while they do so. -/
namespace IssueFilter

mutual

/-- Every call in the operand, those inside lists included. -/
def Operand.calls : Operand → List Call
  | .single _ | .empty => []
  | .list items => Operand.callsOfList items
  | .call c => [c]

def Operand.callsOfList : List Operand → List Call
  | [] => []
  | item :: items => item.calls ++ Operand.callsOfList items

end

mutual

/-- Every literal in the operand, those inside lists included; calls have none. -/
def Operand.literals : Operand → List Literal
  | .single value => [value]
  | .list items => Operand.literalsOfList items
  | .call _ | .empty => []

def Operand.literalsOfList : List Operand → List Literal
  | [] => []
  | item :: items => item.literals ++ Operand.literalsOfList items

end

section Replacing

variable {m : Type → Type} [Monad m]

mutual

def Operand.mapCallsM (f : Call → m Operand) : Operand → m Operand
  | .single value => pure (.single value)
  | .list items => do return .list (← Operand.mapCallsListM f items)
  | .call c => f c
  | .empty => pure .empty

def Operand.mapCallsListM (f : Call → m Operand) : List Operand → m (List Operand)
  | [] => pure []
  | item :: items => do
    let first ← item.mapCallsM f
    let others ← Operand.mapCallsListM f items
    return first :: others

end

mutual

def Clause.mapConditionsM (f : Condition → m Condition) : Clause → m Clause
  | .and children => do return .and (← Clause.mapConditionsListM f children)
  | .or children => do return .or (← Clause.mapConditionsListM f children)
  | .not child => do return .not (← child.mapConditionsM f)
  | .condition c => do return .condition (← f c)

def Clause.mapConditionsListM (f : Condition → m Condition) : List Clause → m (List Clause)
  | [] => pure []
  | child :: children => do
    let first ← child.mapConditionsM f
    let others ← Clause.mapConditionsListM f children
    return first :: others

end

def Query.mapConditionsM (f : Condition → m Condition) (query : Query) : m Query :=
  match query.clause with
  | none => pure query
  | some clause => do return { query with clause := some (← clause.mapConditionsM f) }

/-- The query with each call, wherever it stands, replaced by the answer for it and for the
condition it stands in. -/
def Query.mapCallsM (f : Condition → Call → m Operand) : Query → m Query :=
  Query.mapConditionsM fun condition => do
    return condition.withOperand (← condition.operand.mapCallsM (f condition))

end Replacing

mutual

def Clause.conditions : Clause → List Condition
  | .and children | .or children => Clause.conditionsOfList children
  | .not child => child.conditions
  | .condition c => [c]

def Clause.conditionsOfList : List Clause → List Condition
  | [] => []
  | child :: children => child.conditions ++ Clause.conditionsOfList children

end

def Query.conditions (query : Query) : List Condition :=
  match query.clause with
  | none => []
  | some clause => clause.conditions

/-- Every call of the query together with the condition it stands in. -/
def Query.calls (query : Query) : List (Condition × Call) :=
  query.conditions.flatMap fun condition => condition.operand.calls.map (condition, ·)

end IssueFilter
