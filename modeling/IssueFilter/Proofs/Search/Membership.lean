import IssueFilter.Proofs.Query.Filling
import IssueFilter.Proofs.Search.Comparing
import IssueFilter.Proofs.Search.Exchanging
import IssueFilter.Proofs.Search.Regrouping

/-! Asking for a list of values. A list asks for the same as its values one by one: the issue has one of them
if some comparison holds, and none of them if every comparison for difference holds. A field that does not
exist fails in either form, before anything is compared; and an issue without a value in the field is never
found, since the negative operators want a value each. -/
namespace IssueFilter

/-- Clauses that ask for the same values of a field. Lists in a list make no difference to it, and neither
does the order of the values or how often a value is named. -/
inductive Clause.SameMembership : Clause → Clause → Prop
  | anyOf (field : String) {values : List Literal} : values ≠ [] →
      SameMembership (.condition ⟨field, .isIn, .ofLiterals values⟩)
        (Grammar.joined .or (values.map fun value => .condition ⟨field, .equals, .single value⟩))
  | noneOf (field : String) {values : List Literal} : values ≠ [] →
      SameMembership (.condition ⟨field, .notIn, .ofLiterals values⟩)
        (Grammar.joined .and (values.map fun value => .condition ⟨field, .notEquals, .single value⟩))
  | flattened (field : String) {operator : Operator} {operand : Operand} :
      operator = .isIn ∨ operator = .notIn → operand.calls = [] →
      SameMembership (.condition ⟨field, operator, operand⟩)
        (.condition ⟨field, operator, .ofLiterals operand.literals⟩)
  | rearranged (field : String) {operator : Operator} {values others : List Literal} :
      operator = .isIn ∨ operator = .notIn → (∀ value, value ∈ values ↔ value ∈ others) →
      SameMembership (.condition ⟨field, operator, .ofLiterals values⟩)
        (.condition ⟨field, operator, .ofLiterals others⟩)

section Values

/-- Only which literals there are in the operand matters. -/
theorem someRelated_congr {a b : Operand} (same : ∀ value, value ∈ a.literals ↔ value ∈ b.literals)
    (related : FieldValue → Literal → Bool) (values : List FieldValue) :
    someRelated related values a = someRelated related values b := by
  unfold someRelated
  congr 1
  funext value
  rw [Bool.eq_iff_iff, List.any_eq_true, List.any_eq_true]
  exact exists_congr fun literal => and_congr_left fun _ => same literal

theorem Condition.holdsOf_congr {operator : Operator}
    (membership : operator = .isIn ∨ operator = .notIn) {a b : Operand}
    (same : ∀ value, value ∈ a.literals ↔ value ∈ b.literals) (field : String)
    (values : List FieldValue) :
    holdsOf ⟨field, operator, a⟩ values = holdsOf ⟨field, operator, b⟩ values := by
  have related := someRelated_congr same FieldValue.equals values
  rcases membership with rfl | rfl
  · exact congrArg Except.ok related
  · exact congrArg (fun found => Except.ok (!values.isEmpty && !found)) related

theorem someRelated_ofLiterals (related : FieldValue → Literal → Bool) (values : List FieldValue)
    (literals : List Literal) : someRelated related values (.ofLiterals literals) =
      literals.any fun literal => values.any (related · literal) := by
  rw [someRelated, Operand.literals_ofLiterals, Bool.eq_iff_iff]
  simp only [List.any_eq_true]
  constructor
  · rintro ⟨value, has, literal, named, equal⟩
    exact ⟨literal, named, value, has, equal⟩
  · rintro ⟨literal, named, value, has, equal⟩
    exact ⟨value, has, literal, named, equal⟩

end Values

namespace Index

variable (index : Index) (issue : Issue)

theorem satisfies_joined_or (children : List Clause) :
    index.satisfies issue (Grammar.joined .or children) = index.satisfiesAny issue children := by
  match children with
  | [] => rfl
  | [child] => exact (index.satisfiesAny_singleton issue child).symm
  | _ :: _ :: _ => rfl

theorem satisfies_joined_and (children : List Clause) :
    index.satisfies issue (Grammar.joined .and children) = index.satisfiesAll issue children := by
  match children with
  | [] => rfl
  | [child] => exact (index.satisfiesAll_singleton issue child).symm
  | _ :: _ :: _ => rfl

section Known

variable {field : String} {found : List FieldValue}
  (known : index.valuesOf issue field = .ok found)
include known

theorem satisfiesAny_equals (values : List Literal) :
    index.satisfiesAny issue (values.map fun value => .condition ⟨field, .equals, .single value⟩) =
      .ok (values.any fun value => found.any (FieldValue.equals · value)) := by
  induction values with
  | nil => rfl
  | cons value values ih =>
      have first : index.satisfies issue (.condition ⟨field, .equals, .single value⟩) =
          .ok (found.any (FieldValue.equals · value)) := by
        rw [satisfies, index.satisfiesCondition_of_values issue known rfl, ← someRelated_single]
        rfl
      rw [List.map_cons, satisfiesAny, first, ih, List.any_cons]
      cases found.any (FieldValue.equals · value) <;> rfl

theorem satisfiesAll_notEquals (values : List Literal) :
    index.satisfiesAll issue (values.map fun value => .condition ⟨field, .notEquals, .single value⟩) =
      .ok (values.all fun value => !found.isEmpty && !found.any (FieldValue.equals · value)) := by
  induction values with
  | nil => rfl
  | cons value values ih =>
      have first : index.satisfies issue (.condition ⟨field, .notEquals, .single value⟩) =
          .ok (!found.isEmpty && !found.any (FieldValue.equals · value)) := by
        rw [satisfies, index.satisfiesCondition_of_values issue known rfl, ← someRelated_single]
        rfl
      rw [List.map_cons, satisfiesAll, first, ih, List.all_cons]
      cases !found.isEmpty && !found.any (FieldValue.equals · value) <;> rfl

end Known

theorem satisfies_anyOf (field : String) {values : List Literal} (some : values ≠ []) :
    index.satisfies issue (.condition ⟨field, .isIn, .ofLiterals values⟩) =
      index.satisfies issue (Grammar.joined .or
        (values.map fun value => .condition ⟨field, .equals, .single value⟩)) := by
  rw [satisfies_joined_or]
  cases asked : index.valuesOf issue field with
  | error e =>
      obtain ⟨value, values, rfl⟩ := List.exists_cons_of_ne_nil some
      rw [satisfies, index.satisfiesCondition_of_unknown issue asked (Operand.calls_ofLiterals _),
        List.map_cons, satisfiesAny, satisfies, index.satisfiesCondition_of_unknown issue asked rfl]
      rfl
  | ok found =>
      rw [satisfies, index.satisfiesCondition_of_values issue asked (Operand.calls_ofLiterals _),
        index.satisfiesAny_equals issue asked, ← someRelated_ofLiterals]
      rfl

theorem satisfies_noneOf (field : String) {values : List Literal} (some : values ≠ []) :
    index.satisfies issue (.condition ⟨field, .notIn, .ofLiterals values⟩) =
      index.satisfies issue (Grammar.joined .and
        (values.map fun value => .condition ⟨field, .notEquals, .single value⟩)) := by
  rw [satisfies_joined_and]
  obtain ⟨value, values, rfl⟩ := List.exists_cons_of_ne_nil some
  cases asked : index.valuesOf issue field with
  | error e =>
      rw [satisfies, index.satisfiesCondition_of_unknown issue asked (Operand.calls_ofLiterals _),
        List.map_cons, satisfiesAll, satisfies, index.satisfiesCondition_of_unknown issue asked rfl]
      rfl
  | ok found =>
      have together : (!found.isEmpty &&
            !(value :: values).any fun value => found.any (FieldValue.equals · value)) =
          (value :: values).all fun value =>
            !found.isEmpty && !found.any (FieldValue.equals · value) := by
        cases found with
        | nil => rfl
        | cons first others => rw [List.isEmpty_cons, Bool.not_false, List.not_any_eq_all_not]; rfl
      rw [satisfies, index.satisfiesCondition_of_values issue asked (Operand.calls_ofLiterals _),
        index.satisfiesAll_notEquals issue asked, ← together, ← someRelated_ofLiterals]
      rfl

/-- Two conditions without calls that name the same literals are the same to every issue. -/
theorem satisfies_sameLiterals (field : String) {operator : Operator}
    (membership : operator = .isIn ∨ operator = .notIn) {a b : Operand}
    (left : a.calls = []) (right : b.calls = [])
    (same : ∀ value, value ∈ a.literals ↔ value ∈ b.literals) :
    index.satisfies issue (.condition ⟨field, operator, a⟩) =
      index.satisfies issue (.condition ⟨field, operator, b⟩) := by
  rw [satisfies, satisfies, index.satisfiesCondition_of_noCalls issue left,
    index.satisfiesCondition_of_noCalls issue right]
  exact congrArg _ (funext fun values => Condition.holdsOf_congr membership same field values)

theorem satisfies_sameMembership (a b : Clause) (law : Clause.SameMembership a b) :
    index.satisfies issue a = index.satisfies issue b := by
  cases law with
  | anyOf field some => exact index.satisfies_anyOf issue field some
  | noneOf field some => exact index.satisfies_noneOf issue field some
  | flattened field membership noCalls =>
      apply index.satisfies_sameLiterals issue field membership noCalls (Operand.calls_ofLiterals _)
      rw [Operand.literals_ofLiterals]
      exact fun _ => Iff.rfl
  | rearranged field membership same =>
      apply index.satisfies_sameLiterals issue field membership (Operand.calls_ofLiterals _)
        (Operand.calls_ofLiterals _)
      rw [Operand.literals_ofLiterals, Operand.literals_ofLiterals]
      exact same

/-- A list of values may be written as comparisons with each of them, in an OR where one of the values is
asked for and in an AND where none is, or as another list of the same values, and the other way round, at
any depth and any number of times: the truth value or the error is the same on every issue, and so are the
results or the error of a search. -/
theorem membership_expands (index : Index) :
    (∀ a b : Clause, a.Rewritten Clause.SameMembership b →
      ∀ issue, index.satisfies issue a = index.satisfies issue b) ∧
    ∀ p q : Query, p.Rewritten Clause.SameMembership q →
      ∀ viewer page, index.search viewer p page = index.search viewer q page :=
  ⟨fun _ _ => satisfies_rewritten index.satisfies_sameMembership,
    fun _ _ => search_rewritten index.satisfies_sameMembership⟩

/-- Public issues with two labels, with none, with a numeral for a label and with another label. -/
def labelledChanges : List Change :=
  let issue (id : UInt64) (labels : List String) : Issue :=
    ⟨id, "K", 1, "", "Open", "Task", none, none, none, labels, sampleDay⟩
  [.addProject ⟨1, "PUB", "Public"⟩, .grantBrowseToAnyone "PUB", .addIssue (issue 10 ["a", "b"]),
    .addIssue (issue 11 []), .addIssue (issue 12 ["7"]), .addIssue (issue 13 ["c"])]

/-- A list in a list, with a value named twice, under NOT. The issue without labels is found as well, since
it is not found by the negative operator. -/
theorem labelled_membership_expands :
    let index := empty.run labelledChanges
    let nested : Operand :=
      .list [.single (.text "B"), .list [.single (.number 7), .single (.text "B")]]
    let before : Query := ⟨some (.not (.condition ⟨"labels", .notIn, nested⟩)), []⟩
    let after : Query := ⟨some (.not (.and [.condition ⟨"labels", .notEquals, .single (.number 7)⟩,
      .condition ⟨"labels", .notEquals, .single (.text "B")⟩])), []⟩
    (∀ viewer page, index.search viewer before page = index.search viewer after page) ∧
      (index.search .anonymous before .unlimited).map (fun results => results.issues.map Issue.id) =
        .ok [10, 11, 12] := by
  intro index nested before after
  refine ⟨(membership_expands index).2 before after ?_, by decide +kernel⟩
  have flat : before.Exchanged Clause.SameMembership ⟨some (.not (.condition
      ⟨"labels", .notIn, .ofLiterals [.text "B", .number 7, .text "B"]⟩)), []⟩ :=
    ⟨.some (.not (.part (.flattened "labels" (.inr rfl) rfl))), rfl⟩
  have rearranged : Query.Exchanged Clause.SameMembership ⟨some (.not (.condition
      ⟨"labels", .notIn, .ofLiterals [.text "B", .number 7, .text "B"]⟩)), []⟩ ⟨some (.not (.condition
      ⟨"labels", .notIn, .ofLiterals [.number 7, .text "B"]⟩)), []⟩ :=
    ⟨.some (.not (.part (.rearranged "labels" (.inr rfl) (by simp [or_comm])))), rfl⟩
  have expanded : Query.Exchanged Clause.SameMembership ⟨some (.not (.condition
      ⟨"labels", .notIn, .ofLiterals [.number 7, .text "B"]⟩)), []⟩ after :=
    ⟨.some (.not (.part (.noneOf "labels" (List.cons_ne_nil _ _)))), rfl⟩
  exact .trans _ _ _ (.rel _ _ flat) (.trans _ _ _ (.rel _ _ rearranged) (.rel _ _ expanded))

end Index

end IssueFilter
