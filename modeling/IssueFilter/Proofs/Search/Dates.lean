import IssueFilter.Proofs.Search.Comparing
import IssueFilter.Proofs.Search.Ordering

/-! Comparing the day on which an issue was created. If the value is a date, each of the six operators asks
for some of the three ways in which two dates can compare, so the issues before the day, on it and after it
make up all browsable issues. If it is none, no issue was created on it, and the operators that ask for an
order fail. -/
namespace IssueFilter

instance : Std.LawfulEqOrd Date where
  eq_of_compare {a b} same := by
    obtain ⟨year, month, day, _⟩ := a
    obtain ⟨year', month', day', _⟩ := b
    change (compare year year').then ((compare month month').then (compare day day')) = .eq at same
    simp only [Ordering.then_eq_eq, Std.LawfulEqOrd.compare_eq_iff_eq] at same
    obtain ⟨rfl, rfl, rfl⟩ := same
    rfl

theorem Field.ofName?_created : ofName? "created" = some .created := rfl

/-- Whether two dates that compare so are as the operator asks for. -/
def Operator.wants : Operator → Ordering → Bool
  | equals, o => o.isEq
  | notEquals, o => o.isNe
  | operator, o => operator.accepts o

/-- The operators that dates can be compared by. -/
def Operator.isDated (operator : Operator) : Bool :=
  operator = equals || operator = notEquals || operator.isOrdering

theorem Operator.compares_of_isDated {operator : Operator} (dated : operator.isDated = true) :
    operator ∈ Token.comparisons := by
  cases operator with
  | equals | notEquals | less | lessOrEqual | greater | greaterOrEqual => decide
  | like | notLike | isIn | notIn | is | isNot => cases dated

section Values

variable {literal : Literal} {d day : Date}

theorem FieldValue.equals_date (parsed : Date.parse? literal.asText = some day) :
    (FieldValue.date d).equals literal = (compare d day).isEq := by
  rw [FieldValue.equals, parsed, Bool.eq_iff_iff, decide_eq_true_eq, Option.some.injEq,
    Ordering.isEq_iff_eq_eq, Std.LawfulEqOrd.compare_eq_iff_eq]
  exact eq_comm

theorem FieldValue.equals_date_of_none (unparsed : Date.parse? literal.asText = none) :
    (FieldValue.date d).equals literal = false := by
  rw [FieldValue.equals, unparsed]
  rfl

end Values

namespace Index

section Issues

variable (index : Index) (issue : Issue) {name : String} {literal : Literal} {operator : Operator}

theorem selects_dated (known : Field.ofName? name = some .created) {day : Date}
    (parsed : Date.parse? literal.asText = some day) (dated : operator.isDated = true) :
    index.selects (Query.ofComparison name operator literal) issue =
      .ok (operator.wants (compare issue.created day)) := by
  rw [index.selects_comparison issue known, fieldValues]
  have equal := FieldValue.equals_date (d := issue.created) parsed
  have ordered : operator.isOrdering = true →
      Condition.holdsOf ⟨name, operator, .single literal⟩ [.date issue.created] =
        .ok (operator.accepts (compare issue.created day)) := by
    intro ordering
    rw [Condition.holdsOf_ordering ordering, someOrdered, FieldValue.compareWith, parsed]
    exact congrArg Except.ok (Bool.or_false _)
  cases operator with
  | less | lessOrEqual | greater | greaterOrEqual => exact ordered rfl
  | equals =>
      rw [Condition.holdsOf, someRelated_single, List.any_cons, equal]
      exact congrArg Except.ok (Bool.or_false _)
  | notEquals =>
      rw [Condition.holdsOf, someRelated_single, List.any_cons, equal]
      cases compare issue.created day <;> rfl
  | like | notLike | isIn | notIn | is | isNot => cases dated

theorem selects_negation (name : String) (operator : Operator) (literal : Literal) {holds : Bool}
    (selected : index.selects (Query.ofComparison name operator literal) issue = .ok holds) :
    index.selects (Query.ofNegation name operator literal) issue = .ok !holds := by
  change (do return !(← index.selects (Query.ofComparison name operator literal) issue)) = _
  rw [selected]
  rfl

theorem selects_unparsed (known : Field.ofName? name = some .created)
    (unparsed : Date.parse? literal.asText = none) :
    index.selects (Query.ofComparison name .equals literal) issue = .ok false ∧
      index.selects (Query.ofComparison name .notEquals literal) issue = .ok true := by
  have different := FieldValue.equals_date_of_none (d := issue.created) unparsed
  simp only [index.selects_comparison issue known, fieldValues, Condition.holdsOf,
    someRelated_single, List.any_cons, different]
  exact ⟨rfl, rfl⟩

theorem selects_unparsed_ordering (known : Field.ofName? name = some .created)
    (unparsed : Date.parse? literal.asText = none) (ordering : operator.isOrdering = true) :
    index.selects (Query.ofComparison name operator literal) issue =
      .error (.invalidValue name literal.asText) := by
  rw [index.selects_comparison issue known, fieldValues, Condition.holdsOf_ordering ordering,
    someOrdered, FieldValue.compareWith, unparsed]
  rfl

end Issues

/-- Three parts that have nothing in common and make up the whole. -/
structure Trichotomy (whole before on after : List Issue) : Prop where
  covers : whole.Perm (before ++ (on ++ after))
  before_on : before.Disjoint on
  before_after : before.Disjoint after
  on_after : on.Disjoint after

/-- The issues, of those given, whose day compares so with another day. -/
def createdSo (issues : List Issue) (day : Date) (wanted : Ordering → Bool) : List Issue :=
  issues.filter fun issue => wanted (compare issue.created day)

section Parts

variable {issues : List Issue} {day : Date} {wanted first second : Ordering → Bool}

theorem createdSo_disjoint (apart : ∀ o, first o = true → second o = false) :
    (createdSo issues day first).Disjoint (createdSo issues day second) := by
  intro issue inFirst inSecond
  have isFirst := (List.mem_filter.mp inFirst).2
  have isSecond := (List.mem_filter.mp inSecond).2
  rw [apart _ isFirst] at isSecond
  cases isSecond

theorem filter_createdSo {kept : Ordering → Bool} (both : ∀ o, (kept o && wanted o) = first o) :
    (createdSo issues day wanted).filter (fun issue => kept (compare issue.created day)) =
      createdSo issues day first := by
  rw [createdSo, List.filter_filter]
  exact List.filter_congr fun issue _ => both (compare issue.created day)

/-- What is wanted in either of two ways is found in two parts. -/
theorem createdSo_perm (either : ∀ o, wanted o = (first o || second o))
    (apart : ∀ o, first o = true → second o = false) :
    (createdSo issues day wanted).Perm (createdSo issues day first ++ createdSo issues day second) := by
  have inFirst : ∀ o, (first o && wanted o) = first o := by
    intro o
    rw [either]
    cases first o <;> rfl
  have inSecond : ∀ o, (!first o && wanted o) = second o := by
    intro o
    rw [either]
    cases isFirst : first o with
    | true => exact (apart o isFirst).symm
    | false => rfl
  rw [← filter_createdSo inFirst, ← filter_createdSo inSecond]
  exact (List.filter_append_perm _ _).symm

/-- Two dates compare in exactly one of three ways. -/
theorem createdSo_trichotomy (issues : List Issue) (day : Date) :
    Trichotomy issues (createdSo issues day Ordering.isLT) (createdSo issues day Ordering.isEq)
      (createdSo issues day Ordering.isGT) where
  covers := by
    have all : createdSo issues day (fun _ => true) = issues := List.filter_true issues
    have notBefore : (createdSo issues day Ordering.isGE).Perm
        (createdSo issues day Ordering.isEq ++ createdSo issues day Ordering.isGT) :=
      createdSo_perm (by decide) (by decide)
    have parts : (createdSo issues day fun _ => true).Perm
        (createdSo issues day Ordering.isLT ++ createdSo issues day Ordering.isGE) :=
      createdSo_perm (by decide) (by decide)
    rw [all] at parts
    exact parts.trans (notBefore.append_left _)
  before_on := createdSo_disjoint (by decide)
  before_after := createdSo_disjoint (by decide)
  on_after := createdSo_disjoint (by decide)

end Parts

section Searching

variable {index : Index} {viewer : Viewer} {literal : Literal} {operator : Operator}

/-- Whatever page is asked for, it is a page of these issues. -/
def Finds (index : Index) (viewer : Viewer) (query : Query) (found : List Issue) : Prop :=
  ∀ page, index.search viewer query page = .ok (resultsOf found page)

theorem Consistent.finds_dated (h : index.Consistent) {day : Date}
    (parsed : Date.parse? literal.asText = some day) (dated : operator.isDated = true) :
    index.Finds viewer (Query.ofComparison "created" operator literal)
      (createdSo (index.browsableIssues viewer) day operator.wants) :=
  h.search_of_selects rfl fun issue _ => index.selects_dated issue Field.ofName?_created parsed dated

theorem Consistent.finds_notDated (h : index.Consistent) {day : Date}
    (parsed : Date.parse? literal.asText = some day) (dated : operator.isDated = true)
    {wanted : Ordering → Bool} (others : ∀ o, wanted o = !operator.wants o) :
    index.Finds viewer (Query.ofNegation "created" operator literal)
      (createdSo (index.browsableIssues viewer) day wanted) := by
  apply h.search_of_selects rfl
  intro issue _
  rw [others]
  exact index.selects_negation issue "created" operator literal
    (index.selects_dated issue Field.ofName?_created parsed dated)

/-- What the comparisons of `created` with a day find: the issues before it, those on it, those after it,
and what is put together from these. -/
structure FindsByDay (index : Index) (viewer : Viewer) (literal : Literal)
    (before on after : List Issue) : Prop where
  parts : Trichotomy (index.browsableIssues viewer) before on after
  less : index.Finds viewer (Query.ofComparison "created" .less literal) before
  equals : index.Finds viewer (Query.ofComparison "created" .equals literal) on
  greater : index.Finds viewer (Query.ofComparison "created" .greater literal) after
  lessOrEqual : ∃ found, found.Perm (before ++ on) ∧
    index.Finds viewer (Query.ofComparison "created" .lessOrEqual literal) found ∧
    index.Finds viewer (Query.ofNegation "created" .greater literal) found
  greaterOrEqual : ∃ found, found.Perm (on ++ after) ∧
    index.Finds viewer (Query.ofComparison "created" .greaterOrEqual literal) found ∧
    index.Finds viewer (Query.ofNegation "created" .less literal) found
  notEquals : ∃ found, found.Perm (before ++ after) ∧
    index.Finds viewer (Query.ofComparison "created" .notEquals literal) found ∧
    index.Finds viewer (Query.ofNegation "created" .equals literal) found

/-- What they find if the value is no date. -/
structure FindsNoDay (index : Index) (viewer : Viewer) (literal : Literal) : Prop where
  equals : index.Finds viewer (Query.ofComparison "created" .equals literal) []
  notEquals : index.Finds viewer (Query.ofComparison "created" .notEquals literal)
    (index.browsableIssues viewer)
  ordering : ∀ operator : Operator, operator.isOrdering = true → ∀ page,
    index.search viewer (Query.ofComparison "created" operator literal) page =
      if (index.browsableIssues viewer).isEmpty then .ok ⟨[], 0⟩
      else .error (.invalidValue "created" literal.asText)

theorem Consistent.findsByDay (h : index.Consistent) {day : Date}
    (parsed : Date.parse? literal.asText = some day) :
    let issues := index.browsableIssues viewer
    index.FindsByDay viewer literal (createdSo issues day Ordering.isLT)
      (createdSo issues day Ordering.isEq) (createdSo issues day Ordering.isGT) where
  parts := createdSo_trichotomy _ day
  less := h.finds_dated parsed rfl
  equals := h.finds_dated parsed rfl
  greater := h.finds_dated parsed rfl
  lessOrEqual := ⟨createdSo _ day Ordering.isLE, createdSo_perm (by decide) (by decide),
    h.finds_dated parsed rfl, h.finds_notDated parsed rfl (by decide)⟩
  greaterOrEqual := ⟨createdSo _ day Ordering.isGE, createdSo_perm (by decide) (by decide),
    h.finds_dated parsed rfl, h.finds_notDated parsed rfl (by decide)⟩
  notEquals := ⟨createdSo _ day Ordering.isNe, createdSo_perm (by decide) (by decide),
    h.finds_dated parsed rfl, h.finds_notDated parsed rfl (by decide)⟩

theorem Consistent.findsNoDay (h : index.Consistent) (unparsed : Date.parse? literal.asText = none) :
    index.FindsNoDay viewer literal where
  equals := by
    have none : (index.browsableIssues viewer).filter (fun _ => false) = [] := by simp
    have found : index.Finds viewer _ ((index.browsableIssues viewer).filter fun _ => false) :=
      h.search_of_selects rfl fun issue _ =>
        (index.selects_unparsed issue Field.ofName?_created unparsed).1
    rwa [none] at found
  notEquals := by
    have all : (index.browsableIssues viewer).filter (fun _ => true) = _ := List.filter_true _
    have found : index.Finds viewer _ ((index.browsableIssues viewer).filter fun _ => true) :=
      h.search_of_selects rfl fun issue _ =>
        (index.selects_unparsed issue Field.ofName?_created unparsed).2
    rwa [all] at found
  ordering operator ordering page :=
    h.search_of_fails rfl (fun issue _ =>
      index.selects_unparsed_ordering issue Field.ofName?_created unparsed ordering) page

/-- The searches that compare `created` with a value by one of the six operators, alone or behind NOT. The
texts are accepted. If the value is a date, the issues before the day, on it and after it make up the
browsable issues without a rest, and each operator finds its parts of them. If not, only the operators that
ask for an order fail, and only for viewers who may browse an issue. -/
theorem created_trichotomy {index : Index} (h : index.Reachable) (literal : Literal) :
    (∀ operator : Operator, operator.isDated = true →
      Query.parse ("created " ++ operator.symbol ++ " " ++ String.ofList literal.chars) =
        .ok (Query.ofComparison "created" operator literal) ∧
      Query.parse ("NOT created " ++ operator.symbol ++ " " ++ String.ofList literal.chars) =
        .ok (Query.ofNegation "created" operator literal)) ∧
    ∀ viewer,
      (∀ day, Date.parse? literal.asText = some day →
        let issues := index.browsableIssues viewer
        index.FindsByDay viewer literal (createdSo issues day Ordering.isLT)
          (createdSo issues day Ordering.isEq) (createdSo issues day Ordering.isGT)) ∧
      (Date.parse? literal.asText = none → index.FindsNoDay viewer literal) := by
  refine ⟨?_, fun viewer => ⟨?_, ?_⟩⟩
  · intro operator dated
    have compares : operator ∈ Token.comparisons := Operator.compares_of_isDated dated
    exact ⟨Query.parse_literal Field.ofName?_created compares literal,
      Query.parse_negation Field.ofName?_created compares literal⟩
  · exact fun day parsed => h.consistent.findsByDay parsed
  · exact h.consistent.findsNoDay

/-- Public issues from three days. -/
def datedChanges : List Change :=
  let issue (id : UInt64) (created : Date) : Issue :=
    ⟨id, "PUB", 1, "", "Open", "Task", none, none, none, [], created⟩
  [.addProject ⟨1, "PUB", "Public"⟩, .grantBrowseToAnyone "PUB",
    .addIssue (issue 10 ⟨2024, 1, 2, by decide⟩), .addIssue (issue 11 ⟨2024, 10, 1, by decide⟩),
    .addIssue (issue 12 ⟨2023, 12, 31, by decide⟩), .addIssue (issue 13 ⟨2024, 1, 2, by decide⟩)]

/-- A day may be written without leading zeros; a number is no day. -/
theorem dated_trichotomy :
    let index := empty.run datedChanges
    let day : Date := ⟨2024, 1, 2, by decide⟩
    index.Reachable ∧ Date.parse? (Literal.text "2024-1-2").asText = some day ∧
      Query.parse "NOT created > \"2024-1-2\"" =
        .ok (Query.ofNegation "created" .greater (.text "2024-1-2")) ∧
      (∃ before on after, index.FindsByDay .anonymous (.text "2024-1-2") before on after ∧
        before.map Issue.id = [12] ∧ on.map Issue.id = [10, 13] ∧ after.map Issue.id = [11]) ∧
      Date.parse? (Literal.number 20240102).asText = none ∧
      index.FindsNoDay .anonymous (.number 20240102) ∧
      (index.browsableIssues .anonymous).map Issue.id = [10, 11, 12, 13] := by
  intro index day
  have reachable : index.Reachable := ⟨datedChanges, rfl⟩
  have parsed : Date.parse? (Literal.text "2024-1-2").asText = some day := rfl
  have unparsed : Date.parse? (Literal.number 20240102).asText = none := rfl
  have accepted := created_trichotomy reachable (.text "2024-1-2")
  have rejected := created_trichotomy reachable (.number 20240102)
  refine ⟨reachable, parsed, (accepted.1 .greater rfl).2, ⟨_, _, _,
    (accepted.2 .anonymous).1 day parsed, ?_, ?_, ?_⟩, unparsed, (rejected.2 .anonymous).2 unparsed, ?_⟩
  · decide
  · decide
  · decide
  · decide

end Searching

end Index

end IssueFilter
