import IssueFilter.Failure
import IssueFilter.Query.Traversal
import IssueFilter.Search.Field
import IssueFilter.Text.Lowercase

/-! Whether an issue satisfies a clause. AND and OR are decided from left to right and stop at the
first child that decides them, so a condition that cannot be evaluated matters only when it is
reached. -/
namespace IssueFilter

/-- A number equals a literal that reads as this number, a text one with the same letters in any
ASCII case, a date one that reads as this date. -/
def FieldValue.equals : FieldValue → Literal → Bool
  | number n, literal => literal.asNumber? = some n
  | text s, literal => Ascii.sameText s literal.asText
  | date d, literal => Date.parse? literal.asText = some d

def occursIn (part : List Char) : List Char → Bool
  | [] => part.isEmpty
  | c :: rest => part.isPrefixOf (c :: rest) || occursIn part rest

/-- Only texts contain anything, and letter case does not matter. -/
def FieldValue.resembles : FieldValue → Literal → Bool
  | text s, literal =>
    occursIn (Lowercase.chars literal.asText.toList) (Lowercase.chars s.toList)
  | number _, _ | date _, _ => false

def someRelated (related : FieldValue → Literal → Bool) (values : List FieldValue)
    (operand : Operand) : Bool :=
  values.any fun value => operand.literals.any (related value)

/-- Whether the outcome of a comparison is what the operator asks for. -/
def Operator.accepts : Operator → Ordering → Bool
  | less, o => o.isLT
  | lessOrEqual, o => o.isLE
  | greater, o => o.isGT
  | greaterOrEqual, o => o.isGE
  | _, _ => false

/-- How a value compares with a single literal. A literal that is not a number compares with no
number; a text cannot be compared at all. -/
def FieldValue.compareWith (field : String) (operator : Operator) (literal : Literal) :
    FieldValue → Except SearchError (Option Ordering)
  | number n => .ok (literal.asNumber?.map (compare n))
  | date d =>
    match Date.parse? literal.asText with
    | some other => .ok (some (compare d other))
    | none => .error (.invalidValue field literal.asText)
  | text _ => .error (.unsupportedOperator field operator.symbol)

/-- Whether some value is in the wanted order; all of them have to be comparable. -/
def someOrdered (field : String) (operator : Operator) (literal : Literal) :
    List FieldValue → Except SearchError Bool
  | [] => .ok false
  | value :: values => do
    let ordering ← value.compareWith field operator literal
    let others ← someOrdered field operator literal values
    return ordering.any operator.accepts || others

/-- What a condition says of the values of its field. The negative operators want a value. -/
def Condition.holdsOf (condition : Condition) (values : List FieldValue) :
    Except SearchError Bool :=
  match condition.operator with
  | .is => .ok values.isEmpty
  | .isNot => .ok !values.isEmpty
  | .equals | .isIn => .ok (someRelated FieldValue.equals values condition.operand)
  | .notEquals | .notIn =>
    .ok (!values.isEmpty && !someRelated FieldValue.equals values condition.operand)
  | .like => .ok (someRelated FieldValue.resembles values condition.operand)
  | .notLike => .ok (!values.isEmpty && !someRelated FieldValue.resembles values condition.operand)
  | .less | .lessOrEqual | .greater | .greaterOrEqual =>
    match condition.operand with
    | .single literal => someOrdered condition.field condition.operator literal values
    | _ => .ok false

namespace Index

def valuesOf (index : Index) (issue : Issue) (field : String) :
    Except SearchError (List FieldValue) :=
  match Field.ofName? field with
  | some known => .ok (index.fieldValues issue known)
  | none => .error (.unknownField field)

/-- A call in the condition comes first among the things that can be wrong with it. -/
def satisfiesCondition (index : Index) (issue : Issue) (condition : Condition) :
    Except SearchError Bool :=
  match condition.operand.calls with
  | call :: _ => .error (.unresolvedFunction call.name)
  | [] => do condition.holdsOf (← index.valuesOf issue condition.field)

mutual

def satisfies (index : Index) (issue : Issue) : Clause → Except SearchError Bool
  | .and children => index.satisfiesAll issue children
  | .or children => index.satisfiesAny issue children
  | .not child => do return !(← index.satisfies issue child)
  | .condition c => index.satisfiesCondition issue c

def satisfiesAll (index : Index) (issue : Issue) : List Clause → Except SearchError Bool
  | [] => .ok true
  | child :: children => do
    if ← index.satisfies issue child then index.satisfiesAll issue children else return false

def satisfiesAny (index : Index) (issue : Issue) : List Clause → Except SearchError Bool
  | [] => .ok false
  | child :: children => do
    if ← index.satisfies issue child then return true else index.satisfiesAny issue children

end

end Index

end IssueFilter
