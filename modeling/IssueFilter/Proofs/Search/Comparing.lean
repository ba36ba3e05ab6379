import IssueFilter.Proofs.Query.Comparison
import IssueFilter.Proofs.Search.Evaluating

/-! The operators that ask for an order. They fail on an issue as soon as one value of the field cannot be
compared, and texts cannot. As numbers never come without texts, ids of issues and projects cannot be
compared with a number: the search fails for every viewer who may browse an issue. Only `created` has values
that are no texts. -/
namespace IssueFilter

def Operator.isOrdering : Operator → Bool
  | less | lessOrEqual | greater | greaterOrEqual => true
  | equals | notEquals | like | notLike | isIn | notIn | is | isNot => false

section Values

variable {name : String} {operator : Operator} {literal : Literal} {values : List FieldValue}

theorem Operator.compares_of_isOrdering (ordering : operator.isOrdering = true) :
    operator ∈ Token.comparisons := by
  cases operator with
  | less | lessOrEqual | greater | greaterOrEqual => decide
  | equals | notEquals | like | notLike | isIn | notIn | is | isNot => cases ordering

theorem someRelated_single (related : FieldValue → Literal → Bool) (values : List FieldValue)
    (literal : Literal) :
    someRelated related values (.single literal) = values.any (related · literal) := by
  simp only [someRelated, Operand.literals, List.any_cons, List.any_nil, Bool.or_false]

theorem Condition.holdsOf_ordering (ordering : operator.isOrdering = true) :
    Condition.holdsOf ⟨name, operator, .single literal⟩ values =
      someOrdered name operator literal values := by
  cases operator with
  | less | lessOrEqual | greater | greaterOrEqual => rfl
  | equals | notEquals | like | notLike | isIn | notIn | is | isNot => cases ordering

/-- A text among the values is not made up for by a number before it. -/
theorem someOrdered_of_text (text : ∃ s, FieldValue.text s ∈ values)
    (noDate : ∀ d, FieldValue.date d ∉ values) :
    someOrdered name operator literal values =
      .error (.unsupportedOperator name operator.symbol) := by
  induction values with
  | nil =>
      obtain ⟨s, member⟩ := text
      cases member
  | cons value values ih =>
      cases value with
      | text s => rfl
      | date d => exact absurd List.mem_cons_self (noDate d)
      | number n =>
          have later : ∃ s, FieldValue.text s ∈ values := by
            obtain ⟨s, member⟩ := text
            exact ⟨s, (List.mem_cons.mp member).resolve_left fun same => by cases same⟩
          have others := ih later fun d member => noDate d (List.mem_cons_of_mem _ member)
          rw [someOrdered, others]
          rfl

end Values

namespace Index

section Issues

variable (index : Index) (issue : Issue)

theorem fieldValues_texts {field : Field} (notCreated : field ≠ .created) :
    (∀ d, FieldValue.date d ∉ index.fieldValues issue field) ∧
      (index.fieldValues issue field = [] ∨
        ∃ s, FieldValue.text s ∈ index.fieldValues issue field) := by
  -- A list of texts has no date in it, and is empty or has a text in it.
  have texts : ∀ ss : List String, (∀ d, FieldValue.date d ∉ ss.map FieldValue.text) ∧
      (ss.map FieldValue.text = [] ∨ ∃ s, FieldValue.text s ∈ ss.map FieldValue.text) := by
    intro ss
    refine ⟨by simp, ?_⟩
    cases ss with
    | nil => exact .inl rfl
    | cons s ss => exact .inr ⟨s, List.mem_cons_self⟩
  cases field with
  | created => exact absurd rfl notCreated
  | issue => exact ⟨by simp [fieldValues], .inr ⟨issue.key, by simp [fieldValues]⟩⟩
  | project =>
      unfold fieldValues
      cases index.projects.get? issue.projectId with
      | none => exact ⟨by simp, .inl rfl⟩
      | some project => exact ⟨by simp, .inr ⟨project.key, by simp⟩⟩
  | summary => exact texts [issue.summary]
  | status => exact texts [issue.status]
  | kind => exact texts [issue.kind]
  | priority => exact texts issue.priority.toList
  | assignee => exact texts issue.assignee.toList
  | reporter => exact texts issue.reporter.toList
  | labels => exact texts issue.labels

variable {name : String} {field : Field} {operator : Operator} {literal : Literal}

theorem selects_comparison (known : Field.ofName? name = some field) :
    index.selects (Query.ofComparison name operator literal) issue =
      Condition.holdsOf ⟨name, operator, .single literal⟩ (index.fieldValues issue field) := by
  change index.satisfiesCondition issue ⟨name, operator, .single literal⟩ = _
  have values : index.valuesOf issue name = .ok (index.fieldValues issue field) := by
    rw [valuesOf, known]
  exact index.satisfiesCondition_of_values issue values rfl

/-- Whatever the literal is, an order of texts is asked for in vain. -/
theorem selects_ordering (known : Field.ofName? name = some field) (notCreated : field ≠ .created)
    (ordering : operator.isOrdering = true) :
    index.selects (Query.ofComparison name operator literal) issue =
      if (index.fieldValues issue field).isEmpty then .ok false
      else .error (.unsupportedOperator name operator.symbol) := by
  rw [index.selects_comparison issue known, Condition.holdsOf_ordering ordering]
  obtain ⟨noDate, none | text⟩ := index.fieldValues_texts issue notCreated
  · rw [none]
    rfl
  · have some : index.fieldValues issue field ≠ [] := by
      obtain ⟨s, member⟩ := text
      exact List.ne_nil_of_mem member
    rw [someOrdered_of_text text noDate, if_neg (by simpa using some)]

end Issues

/-- The searches `id < n`, `id <= n`, `id > n` and `id >= n`, and those with another name of the field in
any case: the text is accepted, but the search finds nothing for viewers who may browse no issue and fails
for all others, since the key of an issue is among the values and cannot be compared. -/
theorem search_orderedIds {index : Index} (h : index.Reachable) {name : String}
    (known : Field.ofName? name = some .issue) {operator : Operator}
    (ordering : operator.isOrdering = true) (n : UInt64) :
    Query.parse (name ++ " " ++ operator.symbol ++ " " ++ Numeral.text n) =
        .ok (Query.ofComparison name operator (.number n)) ∧
      ∀ viewer page, index.search viewer (Query.ofComparison name operator (.number n)) page =
        if (index.browsableIssues viewer).isEmpty then .ok ⟨[], 0⟩
        else .error (.unsupportedOperator name operator.symbol) := by
  constructor
  · exact Query.parse_literal known (Operator.compares_of_isOrdering ordering) (.number n)
  · intro viewer page
    apply h.consistent.search_of_fails rfl
    intro issue _
    rw [index.selects_ordering issue known (by decide) ordering]
    rfl

/-- A project that only alice may browse, with one issue. -/
def secretChanges : List Change :=
  [.addProject ⟨1, "SEC", "Secret"⟩, .grantBrowse "SEC" "alice",
    .addIssue ⟨7, "SEC-7", 1, "", "Open", "Task", none, none, none, [], sampleDay⟩]

theorem secret_search_orderedIds :
    let index := empty.run secretChanges
    Query.parse "IssueKey >= 3" =
        .ok (Query.ofComparison "IssueKey" .greaterOrEqual (.number 3)) ∧
      index.search .anonymous (Query.ofComparison "IssueKey" .greaterOrEqual (.number 3))
        .unlimited = .ok ⟨[], 0⟩ ∧
      index.search (.user "alice") (Query.ofComparison "IssueKey" .greaterOrEqual (.number 3))
        .unlimited = .error (.unsupportedOperator "IssueKey" ">=") := by
  intro index
  have reachable : index.Reachable := ⟨secretChanges, rfl⟩
  have exactly := search_orderedIds reachable (show Field.ofName? "IssueKey" = some .issue from rfl)
    (show Operator.greaterOrEqual.isOrdering = true from rfl) 3
  exact ⟨exactly.1, exactly.2 .anonymous .unlimited, exactly.2 (.user "alice") .unlimited⟩

/-- The only issue has the id 7, and still alice is not shown it when she asks for the ids below 10. -/
theorem secret_search_idBelow :
    let index := empty.run secretChanges
    let query : Query := Query.ofComparison "id" .less (.number 10)
    index.Reachable ∧ Query.parse "id < 10" = .ok query ∧
      ((index.browsableIssues (.user "alice")).filter fun issue => issue.id < 10) = index.issues ∧
      index.issues.map Issue.id = [7] ∧
      index.search (.user "alice") query .unlimited = .error (.unsupportedOperator "id" "<") := by
  intro index query
  exact ⟨⟨secretChanges, rfl⟩, rfl, by decide, by decide, rfl⟩

end Index

end IssueFilter
