import IssueFilter.Query.Token
import IssueFilter.Query.Traversal

/-! The queries that filter texts stand for. In a shaped query every operator has an operand that
may follow it, names are names of the grammar, and no AND or OR has fewer than two children. A well
formed query is moreover nested no deeper than its text can tell, and none of its fields reads as
the word NOT. -/
namespace IssueFilter

def isFieldName (s : String) : Bool :=
  match s.toList with
  | [] => false
  | c :: rest => Token.isFieldStart c && rest.all Token.isFieldChar

def isCallName (s : String) : Bool :=
  match s.toList with
  | [] => false
  | c :: rest => c.isAlpha && rest.all fun c => c.isAlphanum || c = '_'

namespace Operand

def isEmpty : Operand → Bool
  | empty => true
  | _ => false

def isCall : Operand → Bool
  | call c => isCallName c.name
  | _ => false

def isSingle : Operand → Bool
  | single _ => true
  | _ => false

def isFlatList : Operand → Bool
  | list items => items.all fun item => item.isSingle || item.isCall
  | _ => false

end Operand

def Operator.admits (operator : Operator) (operand : Operand) : Bool :=
  match operator with
  | is | isNot => operand.isEmpty
  | isIn | notIn => operand.isCall || operand.isFlatList
  | equals | notEquals | like | notLike | less | lessOrEqual | greater | greaterOrEqual =>
    operand.isSingle || operand.isCall || operand.isEmpty

def Condition.isShaped (condition : Condition) : Bool :=
  isFieldName condition.field && condition.operator.admits condition.operand

mutual

def Clause.isShaped : Clause → Bool
  | .and children | .or children => 2 ≤ children.length && Clause.areShaped children
  | .not child => child.isShaped
  | .condition c => c.isShaped

def Clause.areShaped : List Clause → Bool
  | [] => true
  | child :: children => child.isShaped && Clause.areShaped children

end

mutual

/-- Whether no AND stands directly in an AND and no OR directly in an OR. -/
def Clause.isFlat : Clause → Bool
  | .and children => Clause.areFlat 1 children
  | .or children => Clause.areFlat 0 children
  | .not child => child.isFlat
  | .condition _ => true

/-- The same for children, none of which may bind as their parent does. -/
def Clause.areFlat (outer : Nat) : List Clause → Bool
  | [] => true
  | child :: children => child.precedence ≠ outer && child.isFlat && Clause.areFlat outer children

end

namespace Query

def isShaped (query : Query) : Bool :=
  query.clause.all Clause.isShaped && query.orderBy.all fun key => isFieldName key.field

def isWellFormed (query : Query) : Bool :=
  query.isShaped && query.clause.all Clause.isFlat &&
    query.conditions.all fun condition => condition.field.toList.map Char.toLower ≠ "not".toList

end Query

end IssueFilter
