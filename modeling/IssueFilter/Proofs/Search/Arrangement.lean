import IssueFilter.Proofs.Search.Hits
import IssueFilter.Proofs.Search.Ordering

/-! What ORDER BY does to the hits. The comparison is a total preorder of the values of the sort fields, so
the hits of the query without an ordering are all there, none stands behind a smaller one, and those that
compare equal stand as they were added. In the first field, issues without a value are the last ones,
whatever the direction. -/
namespace IssueFilter

section Sorting

variable {α : Type} (cmp : α → α → Ordering)

/-- A list in which all compare equal is sorted as it is. -/
theorem sortedBy_of_equal {l : List α} (equal : l.Pairwise fun a b => cmp a b = .eq) :
    sortedBy cmp l = l :=
  List.mergeSort_of_pairwise (equal.imp fun same => by rw [same]; rfl)

variable [Std.TransCmp cmp]

/-- Sorting leaves those that compare equal to each other in their order. -/
theorem stable_sortedBy (l : List α) :
    (sortedBy cmp l).Pairwise fun a b => cmp a b = .eq → [a, b].Sublist l := by
  rw [List.pairwise_iff_forall_sublist]
  intro a b pair equal
  let like : α → Bool := fun c => cmp a c = .eq
  have likeSelf : like a = true := decide_eq_true Std.ReflCmp.compare_self
  have likeOther : like b = true := decide_eq_true equal
  have alike : (l.filter like).Pairwise fun c d => cmp c d = .eq := by
    refine List.pairwise_of_forall_mem_list fun c inC d inD => ?_
    have likeC : cmp a c = .eq := of_decide_eq_true (List.mem_filter.mp inC).2
    have likeD : cmp a d = .eq := of_decide_eq_true (List.mem_filter.mp inD).2
    exact Std.TransCmp.eq_trans (Std.OrientedCmp.eq_symm likeC) likeD
  have kept : [a, b].Sublist ((sortedBy cmp l).filter like) := by
    have filtered := pair.filter like
    rwa [List.filter_cons_of_pos likeSelf, List.filter_cons_of_pos likeOther, List.filter_nil]
      at filtered
  rw [filter_sortedBy, sortedBy_of_equal cmp alike] at kept
  exact kept.trans List.filter_sublist

end Sorting

section Comparing

variable (keys : List SortKey)

theorem compareKeys_self (as : List (Option FieldValue)) : compareKeys keys as as = .eq := by
  have swapped := compareKeys_swap keys as as
  cases outcome : compareKeys keys as as with
  | eq => rfl
  | lt =>
      rw [outcome] at swapped
      cases swapped
  | gt =>
      rw [outcome] at swapped
      cases swapped

theorem compareKeys_total (as bs : List (Option FieldValue)) :
    (compareKeys keys as bs).isLE = true ∨ (compareKeys keys bs as).isLE = true := by
  rw [compareKeys_swap keys bs as]
  cases compareKeys keys as bs with
  | lt => exact .inl rfl
  | eq => exact .inl rfl
  | gt => exact .inr rfl

/-- What has no value in the first field is not smaller than anything that has one. -/
theorem head_of_compareKeys {key : SortKey} {b : Option FieldValue} {as bs : List (Option FieldValue)}
    (isLE : (compareKeys (key :: keys) (none :: as) (b :: bs)).isLE = true) : b = none := by
  rw [compareKeys, Ordering.isLE_then_iff_and] at isLE
  cases b with
  | none => rfl
  | some b => cases isLE.1

end Comparing

namespace Index

/-- How an ordered result relates to the unordered one; `values` are the values of the sort fields that
each issue is compared by. -/
structure Arranges (index : Index) (keys : List SortKey) (unordered ordered : List Issue)
    (values : Issue → List (Option FieldValue)) : Prop where
  /-- The issues of the unordered result stand in the order in which they were added. -/
  inserted : unordered.Sublist index.issues
  valued : ∀ issue ∈ ordered, index.sortValues keys issue = .ok (values issue) ∧
    (values issue).length = keys.length
  same : ordered.Perm unordered
  inOrder : ordered.Pairwise fun a b => compareKeys keys (values a) (values b) ≠ .gt
  stable : ordered.Pairwise fun a b => compareKeys keys (values a) (values b) = .eq →
    [a, b].Sublist unordered
  /-- Behind an issue without a value in the first field there is none with a value. -/
  missingLast : ∀ key ∈ keys.head?, ordered.Pairwise fun a b =>
    index.valuesOf a key.field = .ok [] → index.valuesOf b key.field = .ok []

variable {index : Index} {keys : List SortKey}

theorem firstValue_of_known {key : SortKey} {field : Field} (known : Field.ofName? key.field = some field)
    (issue : Issue) : index.firstValue issue key = (index.fieldValues issue field).head? := by
  rw [firstValue, valuesOf, known]

/-- An issue has no first value in a field just if it has no value in it. -/
theorem valuesOf_eq_nil_iff {key : SortKey} (known : Field.ofName? key.field ≠ none) (issue : Issue) :
    index.valuesOf issue key.field = .ok [] ↔ index.firstValue issue key = none := by
  obtain ⟨field, found⟩ := Option.ne_none_iff_exists'.mp known
  have values : index.valuesOf issue key.field = .ok (index.fieldValues issue field) := by
    rw [valuesOf, found]
  rw [firstValue_of_known found, values, List.head?_eq_none_iff, Except.ok.injEq]

theorem isLE_of_compareIssues {a b : Issue} (isLE : (index.compareIssues keys a b).isLE = true) :
    compareKeys keys (keys.map (index.firstValue a)) (keys.map (index.firstValue b)) ≠ .gt := by
  intro greater
  rw [compareIssues, greater] at isLE
  cases isLE

theorem missing_of_compareIssues {key : SortKey} (first : key ∈ keys.head?)
    (known : Field.ofName? key.field ≠ none) {a b : Issue}
    (isLE : (index.compareIssues keys a b).isLE = true)
    (missing : index.valuesOf a key.field = .ok []) : index.valuesOf b key.field = .ok [] := by
  obtain ⟨others, rfl⟩ := List.head?_eq_some_iff.mp first
  rw [valuesOf_eq_nil_iff known] at missing ⊢
  rw [compareIssues, List.map_cons, List.map_cons, missing] at isLE
  exact head_of_compareKeys others isLE

theorem arranges_nil : index.Arranges keys [] [] fun issue => keys.map (index.firstValue issue) where
  inserted := List.nil_sublist _
  valued := by simp
  same := .nil
  inOrder := .nil
  stable := .nil
  missingLast _ _ := .nil

/-- Fields that do not exist do no harm if there is nothing to be sorted. -/
theorem arranges_sortedBy {hits : List Issue}
    (known : hits = [] ∨ ∀ key ∈ keys, Field.ofName? key.field ≠ none)
    (inserted : hits.Sublist index.issues) :
    index.Arranges keys hits (sortedBy (index.compareIssues keys) hits)
      fun issue => keys.map (index.firstValue issue) := by
  have ordered := pairwise_sortedBy (index.compareIssues keys) hits
  rcases known with rfl | known
  · rw [sortedBy, List.mergeSort_nil]
    exact arranges_nil
  · exact {
      inserted := inserted
      valued := fun issue _ => ⟨sortValues_of_known known issue, List.length_map _⟩
      same := List.mergeSort_perm hits _
      inOrder := ordered.imp isLE_of_compareIssues
      stable := stable_sortedBy (index.compareIssues keys) hits
      missingLast := fun key first =>
        ordered.imp (missing_of_compareIssues first (known key (List.mem_of_mem_head? first))) }

theorem hits_sublist {query : Query} {viewer : Viewer} {hits : List Issue}
    (found : index.hits query (index.visibleIssues viewer) = .ok hits) : hits.Sublist index.issues := by
  have outcome := hits_outcome index query (index.visibleIssues viewer)
  rw [found] at outcome
  rw [outcome.1]
  exact List.filter_sublist.trans List.filter_sublist

/-- A search finds issues that the viewer may browse, and none of them twice. -/
theorem Consistent.issues_found (h : index.Consistent) {query : Query} {viewer : Viewer}
    {results : SearchResults} (found : index.search viewer query .unlimited = .ok results) :
    (results.issues.map Issue.id).Nodup ∧ ∀ issue ∈ results.issues,
      issue ∈ index.issues ∧ index.canBrowse viewer issue.projectId = true := by
  obtain ⟨hits, sorted, searched, arranged, rfl⟩ := search_eq_ok_iff.mp found
  have outcome := index.arranged_outcome query.orderBy hits
  rw [arranged] at outcome
  obtain ⟨rfl, -⟩ := outcome
  have same : (sortedBy (index.compareIssues query.orderBy) hits).Perm hits :=
    List.mergeSort_perm hits _
  constructor
  · have inserted := (hits_sublist searched).map Issue.id
    exact (same.map Issue.id).nodup_iff.mpr (h.ids_distinct.sublist inserted)
  · intro issue member
    have matched := hits_outcome index query (index.visibleIssues viewer)
    rw [searched] at matched
    have hit : issue ∈ hits := same.mem_iff.mp member
    rw [matched.1, h.visibleIssues_eq] at hit
    exact List.mem_filter.mp (List.mem_of_mem_filter hit)

/-- The comparison by any sort fields is a total preorder of the vectors of values. A search that succeeds
with an ordering succeeds without it, and its issues are those of the other result, arranged by the
comparison. -/
theorem orderBy_arranges (index : Index) (viewer : Viewer) (clause : Option Clause)
    (keys : List SortKey) :
    (∀ as bs cs : List (Option FieldValue), as.length = keys.length → bs.length = keys.length →
      cs.length = keys.length →
        compareKeys keys as as = .eq ∧ compareKeys keys as bs = (compareKeys keys bs as).swap ∧
        ((compareKeys keys as bs).isLE = true ∨ (compareKeys keys bs as).isLE = true) ∧
        ((compareKeys keys as bs).isLE = true → (compareKeys keys bs cs).isLE = true →
          (compareKeys keys as cs).isLE = true)) ∧
    ∀ ordered, index.search viewer ⟨clause, keys⟩ .unlimited = .ok ordered →
      ∃ unordered values, index.search viewer ⟨clause, []⟩ .unlimited = .ok unordered ∧
        ordered.total = unordered.total ∧
        index.Arranges keys unordered.issues ordered.issues values := by
  constructor
  · intro as bs cs _ enough _
    exact ⟨compareKeys_self keys as, compareKeys_swap keys as bs, compareKeys_total keys as bs,
      compareKeys_isLE_trans enough⟩
  · intro ordered found
    obtain ⟨hits, sorted, searched, arranged, rfl⟩ := search_eq_ok_iff.mp found
    have unordered : index.search viewer ⟨clause, []⟩ .unlimited = .ok ⟨hits, hits.length⟩ := by
      rw [search_unordered viewer rfl]
      exact congrArg (Except.map _) searched
    have outcome := index.arranged_outcome keys hits
    rw [arranged] at outcome
    obtain ⟨rfl, known⟩ := outcome
    refine ⟨⟨hits, hits.length⟩, fun issue => keys.map (index.firstValue issue), unordered, ?_, ?_⟩
    · exact List.length_mergeSort hits
    · exact arranges_sortedBy known (hits_sublist searched)

/-- Public issues with and without a priority. -/
def prioritisedChanges : List Change :=
  let issue (id : UInt64) (priority : Option String) : Issue :=
    ⟨id, "K", 1, "", "Open", "Task", priority, none, none, [], sampleDay⟩
  [.addProject ⟨1, "pub", "Public"⟩, .grantBrowseToAnyone "PUB", .addIssue (issue 10 (some "High")),
    .addIssue (issue 11 none), .addIssue (issue 12 (some "Low")), .addIssue (issue 13 none),
    .addIssue (issue 14 (some "High"))]

/-- Though the direction is descending, the issues without a priority are the last ones, and those that
agree in priority and status stand as they were added. -/
theorem prioritised_arranges :
    let index := empty.run prioritisedChanges
    let keys : List SortKey := [⟨"priority", .descending⟩, ⟨"status", .ascending⟩]
    ∃ ordered unordered values, index.search .anonymous ⟨none, keys⟩ .unlimited = .ok ordered ∧
      ordered.issues.map Issue.id = [12, 10, 14, 11, 13] ∧
      index.search .anonymous ⟨none, []⟩ .unlimited = .ok unordered ∧
      unordered.issues.map Issue.id = [10, 11, 12, 13, 14] ∧
      index.Arranges keys unordered.issues ordered.issues values := by
  intro index keys
  let sorted := sortedBy (index.compareIssues keys) (index.visibleIssues .anonymous)
  have known : ∀ key ∈ keys, Field.ofName? key.field ≠ none := by decide
  have found : index.search .anonymous ⟨none, keys⟩ .unlimited = .ok ⟨sorted, sorted.length⟩ :=
    search_eq_ok_iff.mpr ⟨_, sorted, rfl, arranged_of_known known _, rfl⟩
  obtain ⟨unordered, values, foundToo, -, arranges⟩ :=
    (orderBy_arranges index .anonymous none keys).2 _ found
  refine ⟨_, unordered, values, found, ?_, foundToo, ?_, arranges⟩
  · simp only [sorted, sortedBy_eq_foldr]
    decide
  · cases foundToo
    decide

end Index

end IssueFilter
