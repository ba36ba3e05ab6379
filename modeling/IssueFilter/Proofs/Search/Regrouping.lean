import IssueFilter.Proofs.Query.Regrouping
import IssueFilter.Proofs.Search.Evaluating

/-! Regrouping and searching. AND and OR are decided from left to right and stop at the first child that
decides them, in the same order whether children stand in a node of their own or not. So the hits of a
query and its flattened form are the same, and so is the error if there is one. -/
namespace IssueFilter.Index

variable (index : Index) (issue : Issue)

section Appending

theorem satisfiesAll_append (xs ys : List Clause) :
    index.satisfiesAll issue (xs ++ ys) = (do
      if ← index.satisfiesAll issue xs then index.satisfiesAll issue ys else return false) := by
  induction xs with
  | nil => rfl
  | cons x xs ih =>
      rw [List.cons_append, satisfiesAll, satisfiesAll, ih]
      cases index.satisfies issue x with
      | error e => rfl
      | ok holds => cases holds <;> rfl

theorem satisfiesAny_append (xs ys : List Clause) :
    index.satisfiesAny issue (xs ++ ys) = (do
      if ← index.satisfiesAny issue xs then return true else index.satisfiesAny issue ys) := by
  induction xs with
  | nil => rfl
  | cons x xs ih =>
      rw [List.cons_append, satisfiesAny, satisfiesAny, ih]
      cases index.satisfies issue x with
      | error e => rfl
      | ok holds => cases holds <;> rfl

end Appending

section Parts

theorem satisfiesAll_singleton (clause : Clause) :
    index.satisfiesAll issue [clause] = index.satisfies issue clause := by
  rw [satisfiesAll, satisfiesAll]
  cases index.satisfies issue clause with
  | error e => rfl
  | ok holds => cases holds <;> rfl

theorem satisfiesAny_singleton (clause : Clause) :
    index.satisfiesAny issue [clause] = index.satisfies issue clause := by
  rw [satisfiesAny, satisfiesAny]
  cases index.satisfies issue clause with
  | error e => rfl
  | ok holds => cases holds <;> rfl

theorem satisfiesAll_partsOf (clause : Clause) :
    index.satisfiesAll issue (clause.partsOf 1) = index.satisfies issue clause := by
  cases clause with
  | and children => rw [satisfies]; rfl
  | or children => exact index.satisfiesAll_singleton issue _
  | not child => exact index.satisfiesAll_singleton issue _
  | condition c => exact index.satisfiesAll_singleton issue _

theorem satisfiesAny_partsOf (clause : Clause) :
    index.satisfiesAny issue (clause.partsOf 0) = index.satisfies issue clause := by
  cases clause with
  | and children => exact index.satisfiesAny_singleton issue _
  | or children => rw [satisfies]; rfl
  | not child => exact index.satisfiesAny_singleton issue _
  | condition c => exact index.satisfiesAny_singleton issue _

end Parts

mutual

theorem satisfies_flattened : ∀ clause : Clause,
    index.satisfies issue clause.flattened = index.satisfies issue clause
  | .and children => by
      rw [Clause.flattened, satisfies, satisfies, satisfiesAll_flattened]
  | .or children => by
      rw [Clause.flattened, satisfies, satisfies, satisfiesAny_flattened]
  | .not child => by rw [Clause.flattened, satisfies, satisfies, satisfies_flattened child]
  | .condition _ => rfl

theorem satisfiesAll_flattened : ∀ children : List Clause,
    index.satisfiesAll issue (Clause.flattenedList 1 children) = index.satisfiesAll issue children
  | [] => rfl
  | child :: children => by
      rw [Clause.flattenedList, satisfiesAll_append, satisfiesAll_partsOf,
        satisfies_flattened child, satisfiesAll_flattened children, satisfiesAll]

theorem satisfiesAny_flattened : ∀ children : List Clause,
    index.satisfiesAny issue (Clause.flattenedList 0 children) = index.satisfiesAny issue children
  | [] => rfl
  | child :: children => by
      rw [Clause.flattenedList, satisfiesAny_append, satisfiesAny_partsOf,
        satisfies_flattened child, satisfiesAny_flattened children, satisfiesAny]

end

theorem selects_flattened (query : Query) :
    index.selects query.flattened issue = index.selects query issue := by
  obtain ⟨clause, orderBy⟩ := query
  cases clause with
  | none => rfl
  | some clause => exact index.satisfies_flattened issue clause

/-- What every viewer is answered to the query, page by page. -/
def answers (query : Query) (viewer : Viewer) (page : Page) : Except SearchError SearchResults :=
  index.search viewer query page

theorem answers_flattened (query : Query) : index.answers query.flattened = index.answers query := by
  funext viewer page
  have ordering : query.flattened.orderBy = query.orderBy := rfl
  exact search_same ordering (fun issue _ => index.selects_flattened issue query) page

/-- Queries that differ in regroupings only are answered alike. -/
theorem answers_congr {p q : Query} (same : p.flattened = q.flattened) :
    index.answers p = index.answers q := by
  rw [← index.answers_flattened p, same, index.answers_flattened q]

end IssueFilter.Index
