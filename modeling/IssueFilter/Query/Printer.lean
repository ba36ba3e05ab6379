import IssueFilter.Query.Basic
import IssueFilter.Text.Quoted

/-! The canonical text of a query. A text value is written bare when it reads back as that value
and is quoted otherwise; the arguments of a call are always quoted. A clause is put in parentheses
only where it binds less tightly than the clause around it. -/
namespace IssueFilter

def isWordChar (c : Char) : Bool := c.isAlphanum || ['_', '-', '.', '@', ':', '/'].contains c

/-- Words that the grammar gives a meaning of their own, in any letter case. -/
def reservedWords : List (List Char) :=
  ["and", "or", "not", "in", "is", "empty", "null", "order", "asc", "desc"].map String.toList

/-- Whether a text can stand without quotes: a word that is not reserved and not a number. -/
def isBareText (s : List Char) : Bool :=
  !s.isEmpty && s.all isWordChar && !reservedWords.contains (s.map Char.toLower) &&
    !s.all Char.isDigit

def textChars (s : List Char) : List Char := if isBareText s then s else Quoted.chars s

def Literal.chars : Literal → List Char
  | number n => Numeral.chars n
  | text s => textChars s.toList

def Call.chars (call : Call) : List Char :=
  call.name.toList ++
    '(' :: (", ".toList.intercalate (call.args.map fun arg => Quoted.chars arg.toList) ++ [')'])

mutual

def Operand.chars : Operand → List Char
  | .single value => value.chars
  | .list items => '(' :: (", ".toList.intercalate (Operand.charsOfList items) ++ [')'])
  | .call c => c.chars
  | .empty => "EMPTY".toList

def Operand.charsOfList : List Operand → List (List Char)
  | [] => []
  | item :: items => item.chars :: Operand.charsOfList items

end

def Condition.chars (condition : Condition) : List Char :=
  condition.field.toList ++
    ' ' :: (condition.operator.symbol.toList ++ ' ' :: condition.operand.chars)

/-- How tightly a clause binds: OR least, then AND. -/
def Clause.precedence : Clause → Nat
  | .or _ => 0
  | .and _ => 1
  | .not _ | .condition _ => 2

def enclosed (outer inner : Nat) (chars : List Char) : List Char :=
  if inner < outer then '(' :: (chars ++ [')']) else chars

mutual

def Clause.chars : Clause → List Char
  | .and children => " AND ".toList.intercalate (Clause.charsOfList 1 children)
  | .or children => " OR ".toList.intercalate (Clause.charsOfList 0 children)
  | .not child => "NOT ".toList ++ enclosed 2 child.precedence child.chars
  | .condition c => c.chars

def Clause.charsOfList (outer : Nat) : List Clause → List (List Char)
  | [] => []
  | child :: children =>
    enclosed outer child.precedence child.chars :: Clause.charsOfList outer children

end

def Direction.keyword : Direction → String
  | ascending => "ASC"
  | descending => "DESC"

def SortKey.chars (key : SortKey) : List Char :=
  key.field.toList ++ ' ' :: key.direction.keyword.toList

/-- The ordering is set off by a blank only if something stands before it. -/
def Query.chars (query : Query) : List Char :=
  let ordering :=
    if query.orderBy.isEmpty then []
    else "ORDER BY ".toList ++ ", ".toList.intercalate (query.orderBy.map SortKey.chars)
  match query.clause with
  | none => ordering
  | some clause => clause.chars ++ (if query.orderBy.isEmpty then [] else ' ' :: ordering)

def Call.text (call : Call) : String := String.ofList call.chars

def Condition.text (condition : Condition) : String := String.ofList condition.chars

def Query.text (query : Query) : String := String.ofList query.chars

end IssueFilter
