import IssueFilter.Literal

/-! Queries: a tree of conditions under AND, OR and NOT, with an ordering of the hits. A query is
plain data; what it looks like as text is said in `Query.Printer`, what it selects in `Search`. -/
namespace IssueFilter

/-- A function call in a filter. The arguments are texts that only the function interprets. -/
structure Call where
  name : String
  args : List String
  deriving DecidableEq, Repr, Inhabited

def Call.withArgs (call : Call) (args : List String) : Call := { call with args }

inductive Operator where
  | equals | notEquals | like | notLike
  | less | lessOrEqual | greater | greaterOrEqual
  | isIn | notIn | is | isNot
  deriving DecidableEq, Repr, Inhabited

def Operator.symbol : Operator → String
  | equals => "="
  | notEquals => "!="
  | like => "~"
  | notLike => "!~"
  | less => "<"
  | lessOrEqual => "<="
  | greater => ">"
  | greaterOrEqual => ">="
  | isIn => "in"
  | notIn => "not in"
  | is => "is"
  | isNot => "is not"

inductive Operand where
  | single (value : Literal)
  | list (items : List Operand)
  | call (call : Call)
  | empty
  deriving Repr, Inhabited

structure Condition where
  field : String
  operator : Operator
  operand : Operand
  deriving Repr, Inhabited

def Condition.withOperand (condition : Condition) (operand : Operand) : Condition :=
  { condition with operand }

inductive Clause where
  | and (children : List Clause)
  | or (children : List Clause)
  | not (child : Clause)
  | condition (condition : Condition)
  deriving Repr, Inhabited

inductive Direction where
  | ascending
  | descending
  deriving DecidableEq, Repr, Inhabited

structure SortKey where
  field : String
  direction : Direction
  deriving DecidableEq, Repr, Inhabited

/-- A query without a clause selects every issue. -/
structure Query where
  clause : Option Clause
  orderBy : List SortKey
  deriving Repr, Inhabited

end IssueFilter
