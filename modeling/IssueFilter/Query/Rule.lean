/-! The rules of the filter language that can be expected at a place of a text, with the names that
messages use for them. -/
namespace IssueFilter

inductive Rule where
  | endOfText
  | query
  | disjunction
  | conjunction
  | negation
  | condition
  | field
  | isNotOperator
  | isOperator
  | notInOperator
  | inOperator
  | comparison
  | andKeyword
  | orKeyword
  | notKeyword
  | emptyKeyword
  | call
  | callName
  | bareArgument
  | list
  | string
  | doubleQuoted
  | singleQuoted
  | number
  | word
  | ordering
  | orderKeyword
  | sortKey
  | direction
  deriving DecidableEq, Repr

namespace Rule

/-- Every rule, in the order in which messages name them. -/
def all : List Rule :=
  [endOfText, query, disjunction, conjunction, negation, condition, field, isNotOperator,
    isOperator, notInOperator, inOperator, comparison, andKeyword, orKeyword, notKeyword,
    emptyKeyword, call, callName, bareArgument, list, string, doubleQuoted, singleQuoted, number,
    word, ordering, orderKeyword, sortKey, direction]

def name : Rule → String
  | endOfText => "EOI"
  | query => "query"
  | disjunction => "or_expr"
  | conjunction => "and_expr"
  | negation => "not_expr"
  | condition => "terminal"
  | field => "field"
  | isNotOperator => "op_is_not"
  | isOperator => "op_is"
  | notInOperator => "op_not_in"
  | inOperator => "op_in"
  | comparison => "op_cmp"
  | andKeyword => "and_kw"
  | orKeyword => "or_kw"
  | notKeyword => "not_kw"
  | emptyKeyword => "empty_kw"
  | call => "function"
  | callName => "func_name"
  | bareArgument => "bare_arg"
  | list => "list"
  | string => "string"
  | doubleQuoted => "dq_inner"
  | singleQuoted => "sq_inner"
  | number => "number"
  | word => "word"
  | ordering => "order_by"
  | orderKeyword => "order_kw"
  | sortKey => "sort"
  | direction => "sort_dir"

/-- The given rules, each once and in the order of `all`. -/
def arranged (rules : List Rule) : List Rule := all.filter rules.contains

/-- An enumeration of names: `a`, `a or b`, `a, b, or c`. -/
def enumerate : List String → String
  | [] => ""
  | [a] => a
  | [a, b] => a ++ " or " ++ b
  | names => ", ".intercalate names.dropLast ++ ", or " ++ names.getLastD ""

end Rule

end IssueFilter
