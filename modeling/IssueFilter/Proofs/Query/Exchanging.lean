import IssueFilter.Query.Traversal
import Mathlib.Data.List.Forall2
import Mathlib.Logic.Relation

/-! Queries that are the same but for parts of them. A part may be a clause at any depth, and any number of
them may be exchanged; AND, OR and NOT around them stay where they are, and so does the ordering. -/
namespace IssueFilter

/-- Clauses that are the same but for parts that the rule relates. -/
inductive Clause.Exchanged (rule : Clause → Clause → Prop) : Clause → Clause → Prop
  | part {a b : Clause} : rule a b → Exchanged rule a b
  | same (a : Clause) : Exchanged rule a a
  | not {a b : Clause} : Exchanged rule a b → Exchanged rule (.not a) (.not b)
  | and {as bs : List Clause} : List.Forall₂ (Exchanged rule) as bs →
      Exchanged rule (.and as) (.and bs)
  | or {as bs : List Clause} : List.Forall₂ (Exchanged rule) as bs →
      Exchanged rule (.or as) (.or bs)

/-- Queries with the same ordering that are the same but for parts that the rule relates. -/
structure Query.Exchanged (rule : Clause → Clause → Prop) (p q : Query) : Prop where
  clause : Option.Rel (Clause.Exchanged rule) p.clause q.clause
  orderBy : p.orderBy = q.orderBy

/-- One clause comes from the other by a number of exchanges, each of them in one of the two directions. -/
def Clause.Rewritten (rule : Clause → Clause → Prop) : Clause → Clause → Prop :=
  Relation.EqvGen (Clause.Exchanged rule)

def Query.Rewritten (rule : Clause → Clause → Prop) : Query → Query → Prop :=
  Relation.EqvGen (Query.Exchanged rule)

end IssueFilter
