import IssueFilter.Query.Parser

/-! Parse trees. The grammar of the filter language once more, but this time each of its rules gives
a node instead of a part of a query. Blanks, parentheses and commas give no node, and neither do the
words in which a rule is written without a name of its own. -/
namespace IssueFilter

/-- A rule that has matched, the text that it took, and the rules inside it. -/
structure Tree where
  rule : Rule
  text : List Char
  inner : List Tree
  deriving Repr

namespace TreeGrammar

open IssueFilter.Parser
open IssueFilter.Grammar (gap commaSeparated parenthesised)

def node (name : Rule) (inside : Parser Rule (List Tree)) : Parser Rule (List Tree) := do
  let (text, inner) ← spanned (rule name inside)
  return [⟨name, text, inner⟩]

/-- A rule without rules inside. -/
def leaf {α : Type} (name : Rule) (scanner : List Char → Option (α × List Char)) :
    Parser Rule (List Tree) :=
  node name do
    let _ ← scan scanner
    return []

/-- A text in quotes, with what stands between the quotes as a rule of its own. -/
def quoted (quote : Char) (name : Rule) : Parser Rule (List Tree) := do
  char quote
  let inner ← leaf name fun s => some (Quoted.inside quote s)
  char quote
  return inner

def string : Parser Rule (List Tree) :=
  node .string (firstOf [quoted '"' .doubleQuoted, quoted '\'' .singleQuoted])

def argument : Parser Rule (List Tree) := firstOf [string, leaf .bareArgument Token.bareArgument]

def call : Parser Rule (List Tree) := node .call do
  let name ← leaf .callName Token.callName
  gap
  let args ← parenthesised argument
  return name ++ args.flatten

def value : Parser Rule (List Tree) :=
  firstOf [string, leaf .number Token.number, leaf .word Token.word]

def list : Parser Rule (List Tree) := node .list do
  let items ← parenthesised (firstOf [call, value])
  return items.flatten

def empty : Parser Rule (List Tree) := leaf .emptyKeyword Token.emptyWord

def isOperator : Parser Rule (List Tree) :=
  firstOf [leaf .isNotOperator (Token.keywords "is" "not"), leaf .isOperator (Token.keyword "is")]

def inOperator : Parser Rule (List Tree) :=
  firstOf [leaf .notInOperator (Token.keywords "not" "in"), leaf .inOperator (Token.keyword "in")]

def comparing (operator : Parser Rule (List Tree)) (operands : List (Parser Rule (List Tree))) :
    Parser Rule (List Tree) := do
  let operator ← operator
  gap
  let operand ← firstOf operands
  return operator ++ operand

def condition : Parser Rule (List Tree) := node .condition do
  let field ← leaf .field Token.field
  gap
  let compared ← firstOf
    [comparing isOperator [empty], comparing inOperator [call, list],
      comparing (leaf .comparison Token.comparison) [call, empty, value]]
  return field ++ compared

def chain (word part : Parser Rule (List Tree)) : Parser Rule (List Tree) := do
  let first ← part
  let others ← many do
    gap
    let word ← word
    gap
    let part ← part
    return word ++ part
  return first ++ others.flatten

def conjunction (part : Parser Rule (List Tree)) : Parser Rule (List Tree) :=
  node .conjunction (chain (leaf .andKeyword Token.andWord) part)

def disjunction (part : Parser Rule (List Tree)) : Parser Rule (List Tree) :=
  node .disjunction (chain (leaf .orKeyword Token.orWord) (conjunction part))

/-- With at most `depth` levels of NOT and parentheses inside. -/
def negation : (depth : Nat) → Parser Rule (List Tree)
  | 0 => fail
  | depth + 1 =>
    let negated := do
      let word ← leaf .notKeyword Token.notWord
      gap
      let part ← negation depth
      return word ++ part
    let grouped := do
      char '('
      gap
      let clause ← disjunction (negation depth)
      gap
      char ')'
      return clause
    node .negation (firstOf [negated, grouped, condition])

def sortKey : Parser Rule (List Tree) := node .sortKey do
  let field ← leaf .field Token.field
  let direction ← optional do gap; leaf .direction Token.direction
  return field ++ direction.getD []

def ordering : Parser Rule (List Tree) := node .ordering do
  let word ← leaf .orderKeyword (Token.keywords "order" "by")
  gap
  let keys ← commaSeparated sortKey
  return word ++ keys.flatten

def query (depth : Nat) : Parser Rule (List Tree) := node .query do
  gap
  let clause ← optional (disjunction (negation depth))
  gap
  let keys ← optional ordering
  gap
  let ending ← leaf .endOfText Grammar.atEnd
  return clause.getD [] ++ keys.getD [] ++ ending

end TreeGrammar

namespace Tree

/-- The trees that the grammar finds in the text. -/
def ofChars (s : List Char) : Except ParseError (List Tree) :=
  let grammar := TreeGrammar.query (s.length + 1)
  match grammar.read s with
  | some (trees, _) => .ok trees
  | none => .error ((grammar.run s (.start s)).2.toParseError s)

def parse (text : String) : Except ParseError (List Tree) := ofChars text.toList

end Tree

end IssueFilter
