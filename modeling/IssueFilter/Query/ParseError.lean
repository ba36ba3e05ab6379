import IssueFilter.Query.Basic
import IssueFilter.Query.Rule

/-! Parsers of queries, and why a text is not a query. The parser of this library always knows the
place and what it expected there; a failure that another one reports is only a text, perhaps with a
place. -/
namespace IssueFilter

/-- A place in a text. Lines and columns count from one; only a line feed ends a line. -/
structure Position where
  line : Nat
  column : Nat
  deriving DecidableEq, Repr

def Position.after (s : List Char) : Position where
  line := 1 + s.count '\n'
  column := 1 + (s.reverse.takeWhile (· ≠ '\n')).length

inductive ParseError where
  | expected (rules : List Rule) (position : Position)
  | described (text : String) (position : Option Position)
  deriving DecidableEq, Repr

namespace ParseError

def message : ParseError → String
  | expected rules _ => "expected " ++ Rule.enumerate ((Rule.arranged rules).map Rule.name)
  | described text _ => text

def position? : ParseError → Option Position
  | expected _ position => some position
  | described _ position => position

end ParseError

/-- Whatever makes queries of texts. -/
abbrev QueryParser := String → Except ParseError Query

end IssueFilter
