import IssueFilter.Proofs.Search.Exchanging
import IssueFilter.Proofs.Search.Regrouping

/-! Laws of AND, OR and NOT. On both sides of each law the same conditions are reached in the same order, so
that the law holds of truth values and of errors alike, and may be applied anywhere in a clause. -/
namespace IssueFilter

/-- The laws by which a clause may be rewritten. -/
inductive Clause.BooleanLaw : Clause → Clause → Prop
  | notNot (child : Clause) : BooleanLaw (.not (.not child)) child
  | notAnd (children : List Clause) :
      BooleanLaw (.not (.and children)) (.or (children.map .not))
  | notOr (children : List Clause) :
      BooleanLaw (.not (.or children)) (.and (children.map .not))
  | andInAnd (before inside after : List Clause) :
      BooleanLaw (.and (before ++ .and inside :: after)) (.and (before ++ (inside ++ after)))
  | orInOr (before inside after : List Clause) :
      BooleanLaw (.or (before ++ .or inside :: after)) (.or (before ++ (inside ++ after)))
  | andOfOne (child : Clause) : BooleanLaw (.and [child]) child
  | orOfOne (child : Clause) : BooleanLaw (.or [child]) child

namespace Index

variable (index : Index) (issue : Issue)

theorem satisfies_not_not (child : Clause) :
    index.satisfies issue (.not (.not child)) = index.satisfies issue child := by
  rw [satisfies, satisfies]
  cases index.satisfies issue child with
  | error e => rfl
  | ok holds => cases holds <;> rfl

/-- The first child that does not hold is the first of which the negation holds. -/
theorem satisfiesAny_map_not (children : List Clause) :
    index.satisfiesAny issue (children.map .not) =
      (do return !(← index.satisfiesAll issue children)) := by
  induction children with
  | nil => rfl
  | cons child children ih =>
      rw [List.map_cons, satisfiesAny, satisfiesAll, satisfies, ih]
      cases index.satisfies issue child with
      | error e => rfl
      | ok holds => cases holds <;> rfl

theorem satisfiesAll_map_not (children : List Clause) :
    index.satisfiesAll issue (children.map .not) =
      (do return !(← index.satisfiesAny issue children)) := by
  induction children with
  | nil => rfl
  | cons child children ih =>
      rw [List.map_cons, satisfiesAll, satisfiesAny, satisfies, ih]
      cases index.satisfies issue child with
      | error e => rfl
      | ok holds => cases holds <;> rfl

theorem satisfiesAll_spliced (before inside after : List Clause) :
    index.satisfiesAll issue (before ++ .and inside :: after) =
      index.satisfiesAll issue (before ++ (inside ++ after)) := by
  rw [satisfiesAll_append, satisfiesAll_append, satisfiesAll_append, satisfiesAll, satisfies]

theorem satisfiesAny_spliced (before inside after : List Clause) :
    index.satisfiesAny issue (before ++ .or inside :: after) =
      index.satisfiesAny issue (before ++ (inside ++ after)) := by
  rw [satisfiesAny_append, satisfiesAny_append, satisfiesAny_append, satisfiesAny, satisfies]

theorem satisfies_booleanLaw (a b : Clause) (law : Clause.BooleanLaw a b) :
    index.satisfies issue a = index.satisfies issue b := by
  cases law with
  | notNot => exact index.satisfies_not_not issue b
  | notAnd children => exact (index.satisfiesAny_map_not issue children).symm
  | notOr children => exact (index.satisfiesAll_map_not issue children).symm
  | andInAnd before inside after => exact index.satisfiesAll_spliced issue before inside after
  | orInOr before inside after => exact index.satisfiesAny_spliced issue before inside after
  | andOfOne => exact index.satisfiesAll_singleton issue b
  | orOfOne => exact index.satisfiesAny_singleton issue b

/-- However often the laws are applied, in either direction and at any depth, a clause has the same truth
value or the same error on every issue, and a query the same results or the same error for every viewer
and page. -/
theorem boolean_laws (index : Index) :
    (∀ a b : Clause, a.Rewritten Clause.BooleanLaw b →
      ∀ issue, index.satisfies issue a = index.satisfies issue b) ∧
    ∀ p q : Query, p.Rewritten Clause.BooleanLaw q →
      ∀ viewer page, index.search viewer p page = index.search viewer q page :=
  ⟨fun _ _ => satisfies_rewritten index.satisfies_booleanLaw,
    fun _ _ => search_rewritten index.satisfies_booleanLaw⟩

/-- Three laws, two of them inside the clause. Where the first condition holds the second one fails, and it
is reached on both sides; where the first does not hold, neither the second nor the unknown field matters. -/
theorem mixed_boolean_laws :
    let index := empty.run mixedChanges
    let id (n : UInt64) : Clause := .condition ⟨"id", .equals, .single (.number n)⟩
    let failing : Clause := .condition ⟨"status", .less, .single (.number 1)⟩
    let unknown : Clause := .condition ⟨"mood", .isNot, .empty⟩
    let before (n : UInt64) (keys : List SortKey) : Query :=
      ⟨some (.not (.and [id n, .and [.not (.not failing), unknown]])), keys⟩
    let after (n : UInt64) (keys : List SortKey) : Query :=
      ⟨some (.or [.not (id n), .not failing, .not unknown]), keys⟩
    (∀ n keys viewer page,
      index.search viewer (before n keys) page = index.search viewer (after n keys) page) ∧
      index.search (.user "alice") (before 11 [⟨"id", .descending⟩]) .unlimited =
        .error (.unsupportedOperator "status" "<") ∧
      (index.search (.user "alice") (before 13 []) .unlimited).map SearchResults.total = .ok 3 := by
  intro index id failing unknown before after
  refine ⟨fun n keys => ?_, rfl, rfl⟩
  apply (boolean_laws index).2 (before n keys) (after n keys)
  have doubled : (before n keys).Exchanged Clause.BooleanLaw
      ⟨some (.not (.and [id n, .and [failing, unknown]])), keys⟩ :=
    ⟨.some (.not (.and (.cons (.same _) (.cons (.and (.cons (.part (.notNot failing))
      (.cons (.same _) .nil))) .nil)))), rfl⟩
  have spliced : Query.Exchanged Clause.BooleanLaw
      ⟨some (.not (.and [id n, .and [failing, unknown]])), keys⟩
      ⟨some (.not (.and [id n, failing, unknown])), keys⟩ :=
    ⟨.some (.not (.part (.andInAnd [id n] [failing, unknown] []))), rfl⟩
  have negated : Query.Exchanged Clause.BooleanLaw
      ⟨some (.not (.and [id n, failing, unknown])), keys⟩ (after n keys) :=
    ⟨.some (.part (.notAnd [id n, failing, unknown])), rfl⟩
  exact .trans _ _ _ (.rel _ _ doubled) (.trans _ _ _ (.rel _ _ spliced) (.rel _ _ negated))

end Index

end IssueFilter
