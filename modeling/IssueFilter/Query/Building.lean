import IssueFilter.Query.Tree

/-! From parse trees to queries. A node is asked for the nodes inside it one after the other; where
one is missing, or is not of a rule that can stand there, there is no query. -/
namespace IssueFilter.Tree

variable {α : Type}

def unexpected (rule : Rule) : ParseError :=
  .described ("Unexpected element in parse tree: " ++ rule.name) none

def fault (text : String) : ParseError := .described text none

def string (tree : Tree) : String := String.ofList tree.text

theorem sizeOf_of_mem_inner {part tree : Tree} (inside : part ∈ tree.inner) :
    sizeOf part < sizeOf tree := by
  obtain ⟨rule, text, inner⟩ := tree
  have smaller : sizeOf part < sizeOf inner := List.sizeOf_lt_of_mem inside
  simp only [mk.sizeOf_spec]
  omega

def unquoted (tree : Tree) : String :=
  String.ofList (Quoted.unescape ((tree.inner.head?.map text).getD []))

def argument (tree : Tree) : Except ParseError String :=
  match tree.rule with
  | .string => .ok tree.unquoted
  | .bareArgument => .ok tree.string
  | other => .error (unexpected other)

def call (tree : Tree) : Except ParseError Call :=
  match tree.inner with
  | [] => .error (fault "Function without a name")
  | name :: args => do return ⟨name.string, ← args.mapM argument⟩

/-- Digits that need more than 64 bits are a text. -/
def number (tree : Tree) : Literal :=
  match Numeral.unsigned? tree.text with
  | some n => .number n
  | none => .text tree.string

def operand (tree : Tree) : Except ParseError Operand :=
  match tree.rule with
  | .emptyKeyword => .ok .empty
  | .call => .call <$> tree.call
  | .list => .list <$> tree.inner.attach.mapM fun ⟨item, _⟩ => operand item
  | .number => .ok (.single tree.number)
  | .string => .ok (.single (.text tree.unquoted))
  | .word => .ok (.single (.text tree.string))
  | other => .error (unexpected other)
termination_by sizeOf tree
decreasing_by exact sizeOf_of_mem_inner ‹_›

def operator (tree : Tree) : Except ParseError Operator :=
  match tree.rule with
  | .isOperator => .ok .is
  | .isNotOperator => .ok .isNot
  | .inOperator => .ok .isIn
  | .notInOperator => .ok .notIn
  | .comparison =>
    match Token.comparisons.find? fun operator => operator.symbol = tree.string with
    | some operator => .ok operator
    | none => .error (fault ("Unknown operator '" ++ tree.string ++ "'"))
  | other => .error (unexpected other)

def condition (tree : Tree) : Except ParseError Condition :=
  match tree.inner with
  | [] => .error (fault "Clause without a field")
  | [_] => .error (fault "Clause without an operator")
  | [_, _] => .error (fault "Clause without a value")
  | field :: operator :: operand :: _ => do
    return ⟨field.string, ← operator.operator, ← operand.operand⟩

/-- The clauses of the parts; the words between them are passed over. -/
def parts (part between : Rule) : (trees : List Tree) →
    (build : (tree : Tree) → tree ∈ trees → Except ParseError α) → Except ParseError (List α)
  | [], _ => .ok []
  | tree :: trees, build => do
    if tree.rule = part then
      let first ← build tree List.mem_cons_self
      let others ← parts part between trees fun tree inside => build tree (List.mem_cons_of_mem _ inside)
      return first :: others
    else if tree.rule = between then
      parts part between trees fun tree inside => build tree (List.mem_cons_of_mem _ inside)
    else .error (unexpected tree.rule)

mutual

def disjunction (tree : Tree) : Except ParseError Clause :=
  Grammar.joined .or <$>
    parts .conjunction .orKeyword tree.inner fun part _ => conjunction part
termination_by sizeOf tree
decreasing_by exact sizeOf_of_mem_inner ‹_›

def conjunction (tree : Tree) : Except ParseError Clause :=
  Grammar.joined .and <$>
    parts .negation .andKeyword tree.inner fun part _ => negation part
termination_by sizeOf tree
decreasing_by exact sizeOf_of_mem_inner ‹_›

def negation : Tree → Except ParseError Clause
  | ⟨_, _, []⟩ => .error (fault "Empty clause")
  | ⟨_, _, first :: others⟩ =>
    match first.rule with
    | .notKeyword =>
      match others with
      | [] => .error (fault "NOT without a clause")
      | negated :: _ => .not <$> negation negated
    | .disjunction => disjunction first
    | .condition => .condition <$> first.condition
    | other => .error (unexpected other)
termination_by tree => sizeOf tree
decreasing_by all_goals exact sizeOf_of_mem_inner (by simp)

end

def direction (tree : Tree) : Direction :=
  if tree.text.map Char.toLower = "desc".toList then .descending else .ascending

def sortKey (tree : Tree) : Except ParseError SortKey :=
  match tree.inner with
  | [] => .error (fault "ORDER BY without a field")
  | field :: others => .ok ⟨field.string, (others.head?.map direction).getD .ascending⟩

def ordering (tree : Tree) : Except ParseError (List SortKey) :=
  (tree.inner.filter fun part => part.rule = .sortKey).mapM sortKey

/-- What a part of the whole adds to the query. -/
def adding (query : Query) (part : Tree) : Except ParseError Query :=
  match part.rule with
  | .disjunction => do return { query with clause := some (← part.disjunction) }
  | .ordering => do return { query with orderBy := ← part.ordering }
  | .endOfText => .ok query
  | other => .error (unexpected other)

def query (trees : List Tree) : Except ParseError Query :=
  match trees with
  | [] => .error (fault "Empty parse tree")
  | root :: _ => root.inner.foldlM adding ⟨none, []⟩

end IssueFilter.Tree
