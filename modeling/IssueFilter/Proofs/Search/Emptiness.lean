import IssueFilter.Proofs.Query.Comparison
import IssueFilter.Proofs.Search.Exchanging

/-! Asking for the issues without a value. IS and IS NOT look at nothing but the values of the field. A
comparison with EMPTY asks whether a value equals a literal, and EMPTY has no literal: so `!=` says the same
as IS NOT, while `=` holds of no issue, where IS holds of the issues without a value. These two agree just
where every issue that the viewer may browse has a value, which is always so unless the field is optional. -/
namespace IssueFilter

/-- A comparison with EMPTY and the question for a value that takes its place. Equality is replaced for the
given fields only. -/
inductive Clause.AsksForEmpty (fields : String → Prop) : Clause → Clause → Prop
  | notEquals (field : String) : AsksForEmpty fields (.condition ⟨field, .notEquals, .empty⟩)
      (.condition ⟨field, .isNot, .empty⟩)
  | equals {field : String} : fields field → AsksForEmpty fields
      (.condition ⟨field, .equals, .empty⟩) (.condition ⟨field, .is, .empty⟩)

/-- Whether an issue may be without a value in the field. -/
def Field.isOptional : Field → Bool
  | priority | assignee | reporter | labels => true
  | issue | project | summary | status | kind | created => false

section Values

variable (field : String) (values : List FieldValue)

theorem someRelated_empty (related : FieldValue → Literal → Bool) :
    someRelated related values .empty = false := by
  rw [someRelated, List.any_eq_false]
  intro value _
  exact Bool.false_ne_true

theorem Condition.holdsOf_equals_empty :
    Condition.holdsOf ⟨field, .equals, .empty⟩ values = .ok false :=
  congrArg Except.ok (someRelated_empty values FieldValue.equals)

theorem Condition.holdsOf_notEquals_empty :
    Condition.holdsOf ⟨field, .notEquals, .empty⟩ values =
      Condition.holdsOf ⟨field, .isNot, .empty⟩ values := by
  have noEqual := someRelated_empty values FieldValue.equals
  calc Condition.holdsOf ⟨field, .notEquals, .empty⟩ values
    _ = .ok (!values.isEmpty && !someRelated FieldValue.equals values .empty) := rfl
    _ = .ok !values.isEmpty := by rw [noEqual, Bool.not_false, Bool.and_true]

end Values

namespace Index

/-- No issue that the viewer may see is without a value in the field. -/
def HasValues (index : Index) (viewer : Viewer) (field : String) : Prop :=
  ∀ issue ∈ index.visibleIssues viewer, index.valuesOf issue field ≠ .ok []

section Conditions

variable (index : Index) (issue : Issue)

theorem satisfies_notEquals_empty (field : String) :
    index.satisfies issue (.condition ⟨field, .notEquals, .empty⟩) =
      index.satisfies issue (.condition ⟨field, .isNot, .empty⟩) := by
  rw [satisfies, satisfies, index.satisfiesCondition_of_noCalls issue rfl,
    index.satisfiesCondition_of_noCalls issue rfl]
  exact congrArg _ (funext (Condition.holdsOf_notEquals_empty field))

/-- Where there is a value neither of the two holds. -/
theorem satisfies_equals_empty {field : String} (filled : index.valuesOf issue field ≠ .ok []) :
    index.satisfies issue (.condition ⟨field, .equals, .empty⟩) =
      index.satisfies issue (.condition ⟨field, .is, .empty⟩) := by
  rw [satisfies, satisfies]
  cases asked : index.valuesOf issue field with
  | error e =>
      rw [index.satisfiesCondition_of_unknown issue asked rfl,
        index.satisfiesCondition_of_unknown issue asked rfl]
  | ok values =>
      rw [index.satisfiesCondition_of_values issue asked rfl,
        index.satisfiesCondition_of_values issue asked rfl, Condition.holdsOf_equals_empty]
      cases values with
      | nil => exact absurd asked filled
      | cons value values => rfl

theorem satisfies_asksForEmpty {fields : String → Prop}
    (filled : ∀ field, fields field → index.valuesOf issue field ≠ .ok []) (a b : Clause)
    (asks : Clause.AsksForEmpty fields a b) : index.satisfies issue a = index.satisfies issue b := by
  cases asks with
  | notEquals field => exact index.satisfies_notEquals_empty issue field
  | equals given => exact index.satisfies_equals_empty issue (filled _ given)

end Conditions

section Fields

variable {index : Index} {name : String} {field : Field}

theorem Consistent.fieldValues_ne_nil (h : index.Consistent) (mandatory : field.isOptional = false)
    {issue : Issue} (stored : issue ∈ index.issues) : index.fieldValues issue field ≠ [] := by
  cases field with
  | priority | assignee | reporter | labels => cases mandatory
  | project =>
      obtain ⟨project, found⟩ := Option.isSome_iff_exists.mp (h.issue_project issue stored)
      rw [fieldValues, found]
      exact List.cons_ne_nil _ _
  | issue | summary | status | kind | created => exact List.cons_ne_nil _ _

theorem valuesOf_of_known (index : Index) (issue : Issue) (known : Field.ofName? name = some field) :
    index.valuesOf issue name = .ok (index.fieldValues issue field) := by
  rw [valuesOf, known]

/-- A field has values unless it is one of the optional ones; what does not exist has no lack of them. -/
theorem Consistent.hasValues (h : index.Consistent) (viewer : Viewer)
    (mandatory : ∀ field, Field.ofName? name = some field → field.isOptional = false) :
    index.HasValues viewer name := by
  intro issue visible none
  rw [h.visibleIssues_eq, List.mem_filter] at visible
  cases known : Field.ofName? name with
  | none =>
      rw [valuesOf, known] at none
      cases none
  | some field =>
      rw [index.valuesOf_of_known issue known] at none
      exact h.fieldValues_ne_nil (mandatory field known) visible.1 (Except.ok.inj none)

/-- The texts of the two conditions for the issues without a value. -/
theorem parse_withoutValue (known : Field.ofName? name = some field) :
    Query.parse (name ++ " = EMPTY") = .ok (.ofCondition ⟨name, .equals, .empty⟩) ∧
      Query.parse (name ++ " is EMPTY") = .ok (.ofCondition ⟨name, .is, .empty⟩) := by
  obtain ⟨named, notNot⟩ := Field.isFieldName_of_ofName? known
  have shaped : ∀ operator : Operator, operator.admits .empty = true →
      Condition.isShaped ⟨name, operator, .empty⟩ = true := by
    intro operator admits
    rw [Condition.isShaped, named, admits, Bool.and_self]
  have equalText : name ++ " = EMPTY" = Condition.text ⟨name, .equals, .empty⟩ := by
    apply String.toList_inj.mp
    simp [Condition.text, Condition.chars, Operator.symbol, Operand.chars]
  have isText : name ++ " is EMPTY" = Condition.text ⟨name, .is, .empty⟩ := by
    apply String.toList_inj.mp
    simp [Condition.text, Condition.chars, Operator.symbol, Operand.chars]
  rw [equalText, isText]
  exact ⟨Query.parse_condition (shaped .equals rfl) notNot,
    Query.parse_condition (shaped .is rfl) notNot⟩

section Searching

variable (h : index.Consistent) (known : Field.ofName? name = some field) (viewer : Viewer)
include h known

theorem Consistent.search_equals_empty (page : Page) :
    index.search viewer (.ofCondition ⟨name, .equals, .empty⟩) page = .ok ⟨[], 0⟩ := by
  have none : ∀ issue ∈ index.browsableIssues viewer,
      index.selects (.ofCondition ⟨name, .equals, .empty⟩) issue = .ok false := by
    intro issue _
    change index.satisfiesCondition issue ⟨name, .equals, .empty⟩ = _
    rw [index.satisfiesCondition_of_values issue (index.valuesOf_of_known issue known) rfl,
      Condition.holdsOf_equals_empty]
  rw [h.search_of_selects rfl none, List.filter_false, resultsOf, select_nil, List.length_nil]

theorem Consistent.search_is_empty (page : Page) :
    index.search viewer (.ofCondition ⟨name, .is, .empty⟩) page =
      .ok (resultsOf ((index.browsableIssues viewer).filter fun issue =>
        (index.fieldValues issue field).isEmpty) page) := by
  apply h.search_of_selects rfl
  intro issue _
  change index.satisfiesCondition issue ⟨name, .is, .empty⟩ = _
  rw [index.satisfiesCondition_of_values issue (index.valuesOf_of_known issue known) rfl]
  rfl

theorem Consistent.hasValues_iff : index.HasValues viewer name ↔
    ((index.browsableIssues viewer).filter fun issue =>
      (index.fieldValues issue field).isEmpty) = [] := by
  rw [HasValues, h.visible_eq_browsable, List.filter_eq_nil_iff]
  refine forall₂_congr fun issue _ => ?_
  rw [index.valuesOf_of_known issue known, Ne, Except.ok.injEq, List.isEmpty_iff]

/-- The two conditions find the same just if there is nothing to be found. -/
theorem Consistent.search_withoutValue_same_iff :
    (∀ page, index.search viewer (.ofCondition ⟨name, .equals, .empty⟩) page =
      index.search viewer (.ofCondition ⟨name, .is, .empty⟩) page) ↔
        index.HasValues viewer name := by
  rw [h.hasValues_iff known]
  simp only [h.search_equals_empty known, h.search_is_empty known]
  constructor
  · intro same
    have total := congrArg SearchResults.total (Except.ok.inj (same .unlimited))
    exact List.length_eq_zero_iff.mp total.symm
  · intro none page
    rw [none, resultsOf, select_nil, List.length_nil]

end Searching

end Fields

/-- A comparison of a field with EMPTY by `!=` may be written as IS NOT EMPTY, and one by `=` as IS EMPTY if
every issue that the viewer may browse has a value in the field, anywhere in a clause and any number of
times: the results or the error of a search stay the same. There is always a value unless the field is one of
the optional ones. On its own, a comparison by `=` is accepted for every field and finds nothing, while IS
EMPTY finds the issues without a value; so it makes no difference just if there are none. -/
theorem search_emptyComparison {index : Index} (h : index.Reachable) :
    (∀ viewer p q, p.Rewritten (Clause.AsksForEmpty (index.HasValues viewer)) q →
      ∀ page, index.search viewer p page = index.search viewer q page) ∧
    (∀ name, (∀ field, Field.ofName? name = some field → field.isOptional = false) →
      ∀ viewer, index.HasValues viewer name) ∧
    ∀ name field, Field.ofName? name = some field →
      let equal := Query.ofCondition ⟨name, .equals, .empty⟩
      let without := Query.ofCondition ⟨name, .is, .empty⟩
      (Query.parse (name ++ " = EMPTY") = .ok equal ∧
        Query.parse (name ++ " is EMPTY") = .ok without) ∧
      ∀ viewer,
        (∀ page, index.search viewer equal page = .ok ⟨[], 0⟩) ∧
        (∀ page, index.search viewer without page =
          .ok (resultsOf ((index.browsableIssues viewer).filter fun issue =>
            (index.fieldValues issue field).isEmpty) page)) ∧
        ((∀ page, index.search viewer equal page = index.search viewer without page) ↔
          index.HasValues viewer name) := by
  have consistent := h.consistent
  refine ⟨?_, fun name mandatory viewer => consistent.hasValues viewer mandatory, ?_⟩
  · intro viewer p q rewritten page
    refine search_rewritten_visible (fun issue visible a b asks => ?_) rewritten page
    exact index.satisfies_asksForEmpty issue (fun field filled => filled issue visible) a b asks
  · intro name field known equal without
    refine ⟨parse_withoutValue known, fun viewer => ⟨?_, ?_, ?_⟩⟩
    · exact consistent.search_equals_empty known viewer
    · exact consistent.search_is_empty known viewer
    · exact consistent.search_withoutValue_same_iff known viewer

/-- A public issue without an assignee and one that is assigned to alice. -/
def unassignedChanges : List Change :=
  let issue (id : UInt64) (assignee : Option String) : Issue :=
    ⟨id, "K", 1, "", "Open", "Task", none, assignee, none, [], sampleDay⟩
  [.addProject ⟨1, "PUB", "Public"⟩, .grantBrowseToAnyone "PUB", .addIssue (issue 10 none),
    .addIssue (issue 11 (some "alice"))]

/-- Under NOT and OR, a comparison by `!=` of a field that an issue has no value in and one by `=` of a field
that every issue has a value in. -/
theorem unassigned_search_emptyComparison :
    let index := empty.run unassignedChanges
    let before : Query := ⟨some (.not (.or [.condition ⟨"Assignee", .notEquals, .empty⟩,
      .condition ⟨"project", .equals, .empty⟩])), [⟨"key", .descending⟩]⟩
    let after : Query := ⟨some (.not (.or [.condition ⟨"Assignee", .isNot, .empty⟩,
      .condition ⟨"project", .is, .empty⟩])), [⟨"key", .descending⟩]⟩
    index.Reachable ∧
      (∀ viewer page, index.search viewer before page = index.search viewer after page) ∧
      (index.search .anonymous after .unlimited).map (fun results => results.issues.map Issue.id) =
        .ok [10] := by
  intro index before after
  have reachable : index.Reachable := ⟨unassignedChanges, rfl⟩
  obtain ⟨same, filled, -⟩ := search_emptyComparison reachable
  refine ⟨reachable, fun viewer page => ?_, by decide +kernel⟩
  have mandatory : ∀ field, Field.ofName? "project" = some field → field.isOptional = false := by
    rintro field ⟨⟩
    rfl
  have exchanged : before.Exchanged (Clause.AsksForEmpty (index.HasValues viewer)) after :=
    ⟨.some (.not (.or (.cons (.part (.notEquals "Assignee"))
      (.cons (.part (.equals (filled "project" mandatory viewer))) .nil)))), rfl⟩
  exact same viewer before after (.rel _ _ exchanged) page

/-- The issue without an assignee is found by IS EMPTY, and with `=` in the place of IS nothing is found. -/
theorem unassigned_search_differs :
    let index := empty.run unassignedChanges
    let equal := Query.ofCondition ⟨"assignee", .equals, .empty⟩
    let without := Query.ofCondition ⟨"assignee", .is, .empty⟩
    index.Reachable ∧ Query.parse "assignee = EMPTY" = .ok equal ∧
      Query.parse "assignee is EMPTY" = .ok without ∧
      equal.Exchanged (Clause.AsksForEmpty fun _ => True) without ∧
      index.search .anonymous equal .unlimited = .ok ⟨[], 0⟩ ∧
      index.search .anonymous without .unlimited = .ok ⟨index.issues.take 1, 1⟩ ∧
      index.issues.map (fun issue => (issue.id, issue.assignee)) =
        [(10, none), (11, some "alice")] := by
  intro index equal without
  have exchanged : equal.Exchanged (Clause.AsksForEmpty fun _ => True) without :=
    ⟨.some (.part (.equals trivial)), rfl⟩
  exact ⟨⟨unassignedChanges, rfl⟩, rfl, rfl, exchanged, rfl, rfl, rfl⟩

end Index

end IssueFilter
