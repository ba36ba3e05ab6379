import IssueFilter.Parser.Basic
import IssueFilter.Query.ParseError
import IssueFilter.Query.Token

/-! The grammar of the filter language and the parser built from it. AND binds more tightly than
OR, NOT and parentheses bind tightest; every part may be empty, so the empty text is the query that
selects everything. Blanks may stand between any two words. -/
namespace IssueFilter.Grammar

open IssueFilter.Parser

def gap : Parser Rule Unit := scan fun s => some ((), Token.skipGaps s)

def commaSeparated {α : Type} (item : Parser Rule α) : Parser Rule (List α) := do
  let first ← item
  let others ← many do gap; char ','; gap; item
  return first :: others

def parenthesised {α : Type} (item : Parser Rule α) : Parser Rule (List α) := do
  char '('
  gap
  let items ← optional (commaSeparated item)
  gap
  char ')'
  return items.getD []

def argument : Parser Rule String :=
  firstOf [token .string Token.string, token .bareArgument Token.bareArgument]

def call : Parser Rule Call := rule .call do
  let name ← token .callName Token.callName
  gap
  let args ← parenthesised argument
  return ⟨name, args⟩

def callOperand : Parser Rule Operand := do return .call (← call)

def value : Parser Rule Operand := do
  let quoted := do return Literal.text (← token .string Token.string)
  return .single (← firstOf [quoted, token .number Token.number, token .word Token.word])

def list : Parser Rule Operand := rule .list do
  return .list (← parenthesised (firstOf [callOperand, value]))

def empty : Parser Rule Operand := do
  token .emptyKeyword Token.emptyWord
  return .empty

/-- An operator that stands for itself: the name of its rule and its words. -/
def operator (name : Rule) (op : Operator) (scanner : List Char → Option (Unit × List Char)) :
    Parser Rule Operator := do
  token name scanner
  return op

def isOperator : Parser Rule Operator :=
  firstOf [operator .isNotOperator .isNot (Token.keywords "is" "not"),
    operator .isOperator .is (Token.keyword "is")]

def inOperator : Parser Rule Operator :=
  firstOf [operator .notInOperator .notIn (Token.keywords "not" "in"),
    operator .inOperator .isIn (Token.keyword "in")]

/-- An operator with one of the operands it may have. -/
def comparing (operator : Parser Rule Operator) (operands : List (Parser Rule Operand)) :
    Parser Rule (Operator × Operand) := do
  let operator ← operator
  gap
  let operand ← firstOf operands
  return (operator, operand)

def condition : Parser Rule Condition := rule .condition do
  let field ← token .field Token.field
  gap
  let (operator, operand) ← firstOf
    [comparing isOperator [empty], comparing inOperator [callOperand, list],
      comparing (token .comparison Token.comparison) [callOperand, empty, value]]
  return ⟨field, operator, operand⟩

/-- A node with a single child is that child. -/
def joined (node : List Clause → Clause) : List Clause → Clause
  | [child] => child
  | children => node children

def chain (node : List Clause → Clause) (word : Parser Rule Unit) (part : Parser Rule Clause) :
    Parser Rule Clause := do
  let first ← part
  let others ← many do gap; word; gap; part
  return joined node (first :: others)

def conjunction (part : Parser Rule Clause) : Parser Rule Clause :=
  rule .conjunction (chain .and (token .andKeyword Token.andWord) part)

def disjunction (part : Parser Rule Clause) : Parser Rule Clause :=
  rule .disjunction (chain .or (token .orKeyword Token.orWord) (conjunction part))

/-- A clause that needs no parentheses under NOT, with at most `depth` levels of NOT and
parentheses inside. -/
def negation : (depth : Nat) → Parser Rule Clause
  | 0 => fail
  | depth + 1 =>
    let negated := do
      token .notKeyword Token.notWord
      gap
      return .not (← negation depth)
    let grouped := do
      char '('
      gap
      let clause ← disjunction (negation depth)
      gap
      char ')'
      return clause
    rule .negation (firstOf [negated, grouped, do return .condition (← condition)])

def sortKey : Parser Rule SortKey := rule .sortKey do
  let field ← token .field Token.field
  let direction ← optional do gap; token .direction Token.direction
  return ⟨field, direction.getD .ascending⟩

def ordering : Parser Rule (List SortKey) := rule .ordering do
  token .orderKeyword (Token.keywords "order" "by")
  gap
  commaSeparated sortKey

def atEnd : List Char → Option (Unit × List Char)
  | [] => some ((), [])
  | _ :: _ => none

def query (depth : Nat) : Parser Rule Query := rule .query do
  gap
  let clause ← optional (disjunction (negation depth))
  gap
  let keys ← optional ordering
  gap
  token .endOfText atEnd
  return ⟨clause, keys.getD []⟩

end IssueFilter.Grammar

namespace IssueFilter

def Trace.toParseError (s : List Char) (t : Trace Rule) : ParseError :=
  .expected t.expected (.after (s.take (s.length - t.left)))

namespace Query

/-- Reads a query. Each level of NOT or parentheses takes a character, so there are at most as many
levels as characters, and one more for the innermost condition. -/
def ofChars (s : List Char) : Except ParseError Query :=
  let grammar := Grammar.query (s.length + 1)
  match grammar.read s with
  | some (query, _) => .ok query
  | none => .error ((grammar.run s (.start s)).2.toParseError s)

def parse (text : String) : Except ParseError Query := ofChars text.toList

end Query

end IssueFilter
