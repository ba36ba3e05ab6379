import IssueFilter.Search.Basic
import Mathlib.Data.List.Sort

/-! The order of the hits is a total preorder of issues, and the hits are sorted by it. The error of a
field that does not exist comes up before anything is compared, and is the same for every issue. A stable
sort commutes with leaving some of the hits out. -/
namespace IssueFilter

section Outcomes

variable {ε α β : Type} {x : Except ε α} {f : α → Except ε β}

theorem bind_eq_ok_iff {b : β} : x >>= f = .ok b ↔ ∃ a, x = .ok a ∧ f a = .ok b := by
  cases x with
  | error e => simp [bind, Except.bind]
  | ok a => simp [bind, Except.bind]

theorem bind_eq_error_iff {e : ε} :
    x >>= f = .error e ↔ x = .error e ∨ ∃ a, x = .ok a ∧ f a = .error e := by
  cases x with
  | error e => simp [bind, Except.bind]
  | ok a => simp [bind, Except.bind]

end Outcomes

section Sorting

variable {α : Type} (cmp : α → α → Ordering)

def sortedBy (l : List α) : List α := l.mergeSort fun a b => (cmp a b).isLE

variable [Std.TransCmp cmp]

theorem isLE_total (a b : α) : ((cmp a b).isLE || (cmp b a).isLE) = true := by
  have swapped : cmp b a = (cmp a b).swap := Std.OrientedCmp.eq_swap
  rw [swapped]
  cases cmp a b <;> rfl

theorem pairwise_sortedBy (l : List α) : (sortedBy cmp l).Pairwise fun a b => (cmp a b).isLE = true :=
  List.pairwise_mergeSort (fun _ _ _ => Std.TransCmp.isLE_trans) (isLE_total cmp) l

/-- The first of a list goes between those it is greater than and the others. -/
theorem sortedBy_cons (a : α) (l : List α) :
    let smaller := (sortedBy cmp l).filter fun b => !(cmp a b).isLE
    let others := (sortedBy cmp l).filter fun b => (cmp a b).isLE
    sortedBy cmp l = smaller ++ others ∧ sortedBy cmp (a :: l) = smaller ++ a :: others := by
  intro smaller others
  obtain ⟨before, after, whole, rest, greater⟩ :=
    List.mergeSort_cons (fun _ _ _ => Std.TransCmp.isLE_trans) (isLE_total cmp) a l
  have ordered := pairwise_sortedBy cmp (a :: l)
  rw [sortedBy, whole, List.pairwise_append, List.pairwise_cons] at ordered
  have notGreater : ∀ b ∈ after, (cmp a b).isLE = true := ordered.2.1.1
  have first : smaller = before := by
    have none : ∀ b ∈ after, ¬ (!(cmp a b).isLE) = true := by
      intro b member
      rw [notGreater b member]
      decide
    simp only [smaller, sortedBy, rest, List.filter_append, List.filter_eq_self.mpr greater,
      List.filter_eq_nil_iff.mpr none, List.append_nil]
  have last : others = after := by
    have none : ∀ b ∈ before, ¬ (cmp a b).isLE = true := by
      intro b member isLE
      have isGT := greater b member
      rw [isLE] at isGT
      cases isGT
    simp only [others, sortedBy, rest, List.filter_append, List.filter_eq_self.mpr notGreater,
      List.filter_eq_nil_iff.mpr none, List.nil_append]
  rw [first, last]
  exact ⟨rest, whole⟩

theorem filter_sortedBy (p : α → Bool) (l : List α) :
    (sortedBy cmp l).filter p = sortedBy cmp (l.filter p) := by
  induction l with
  | nil => simp [sortedBy]
  | cons a l ih =>
      obtain ⟨parts, whole⟩ := sortedBy_cons cmp a l
      obtain ⟨-, wholeFiltered⟩ := sortedBy_cons cmp a (l.filter p)
      rw [whole, List.filter_append, List.filter_cons, List.filter_cons]
      by_cases kept : p a = true
      · rw [if_pos kept, if_pos kept, wholeFiltered, ← ih, List.filter_comm,
          List.filter_comm p]
      · rw [if_neg kept, if_neg kept, ← List.filter_append, ← parts, ih]

/-- The same list by recursion on the one to be sorted. -/
theorem sortedBy_eq_foldr (l : List α) :
    sortedBy cmp l = l.foldr (fun a sorted => (sorted.filter fun b => !(cmp a b).isLE) ++
      a :: sorted.filter fun b => (cmp a b).isLE) [] := by
  induction l with
  | nil => rw [sortedBy, List.mergeSort_nil, List.foldr_nil]
  | cons a l ih => rw [(sortedBy_cons cmp a l).2, List.foldr_cons, ← ih]

end Sorting

section Comparing

instance : Std.TransOrd Date :=
  inferInstanceAs (Std.TransCmp (compareLex (compareOn Date.year)
    (compareLex (compareOn Date.month) (compareOn Date.day))))

instance : Std.TransOrd FieldValue where
  eq_swap := by
    rintro (a | a | a) (b | b | b)
    case number.number => exact (Std.OrientedCmp.eq_swap : compare a b = (compare b a).swap)
    case text.text => exact (Std.OrientedCmp.eq_swap : compare a b = (compare b a).swap)
    case date.date => exact (Std.OrientedCmp.eq_swap : compare a b = (compare b a).swap)
    all_goals rfl
  isLE_trans := by
    rintro (a | a | a) (b | b | b) (c | c | c) first second
    case number.number.number => exact Std.TransOrd.isLE_trans (α := UInt64) first second
    case text.text.text => exact Std.TransOrd.isLE_trans (α := String) first second
    case date.date.date => exact Std.TransOrd.isLE_trans (α := Date) first second
    all_goals first | rfl | exact absurd first Bool.false_ne_true | exact absurd second Bool.false_ne_true

/-- Missing values come last in either direction; only the order of the others is turned round. -/
instance (direction : Direction) : Std.TransCmp direction.compare where
  eq_swap := by
    rintro (_ | a) (_ | b)
    case some.some => cases direction <;> exact Std.OrientedOrd.eq_swap
    all_goals rfl
  isLE_trans := by
    rintro (_ | a) (_ | b) (_ | c) first second
    case some.some.some =>
      cases direction with
      | ascending => exact Std.TransOrd.isLE_trans first second
      | descending => exact Std.TransOrd.isLE_trans second first
    all_goals first | rfl | exact absurd first Bool.false_ne_true | exact absurd second Bool.false_ne_true

/-- On as many values as there are keys, the comparison is transitive. -/
theorem compareKeys_isLE_trans {keys : List SortKey} {as bs cs : List (Option FieldValue)}
    (enough : bs.length = keys.length) (first : (compareKeys keys as bs).isLE = true)
    (second : (compareKeys keys bs cs).isLE = true) : (compareKeys keys as cs).isLE = true := by
  induction keys generalizing as bs cs with
  | nil => rfl
  | cons key keys ih =>
      match as, bs, cs with
      | [], _, _ => rfl
      | _ :: _, _, [] => rfl
      | a :: as, [], c :: cs => cases enough
      | a :: as, b :: bs, c :: cs =>
          rw [compareKeys, Ordering.isLE_then_iff_and] at first second ⊢
          refine ⟨Std.TransCmp.isLE_trans first.1 second.1, ?_⟩
          rcases first.2 with less | rest
          · exact .inl (Std.TransCmp.lt_of_lt_of_isLE less second.1)
          · rcases second.2 with less | rest'
            · exact .inl (Std.TransCmp.lt_of_isLE_of_lt first.1 less)
            · exact .inr (ih (Nat.succ.inj enough) rest rest')

theorem compareKeys_swap (keys : List SortKey) (as bs : List (Option FieldValue)) :
    compareKeys keys as bs = (compareKeys keys bs as).swap := by
  induction keys generalizing as bs with
  | nil => rfl
  | cons key keys ih =>
      cases as with
      | nil => cases bs <;> rfl
      | cons a as =>
          cases bs with
          | nil => rfl
          | cons b bs =>
              rw [compareKeys, compareKeys, Ordering.swap_then, ← ih, ← Std.OrientedCmp.eq_swap]

end Comparing

namespace Index

section

variable (index : Index) (keys : List SortKey)

/-- The value that an issue contributes to the order. -/
def firstValue (issue : Issue) (key : SortKey) : Option FieldValue :=
  match index.valuesOf issue key.field with
  | .ok values => values.head?
  | .error _ => none

def compareIssues (a b : Issue) : Ordering :=
  compareKeys keys (keys.map (index.firstValue a)) (keys.map (index.firstValue b))

def keyed (issue : Issue) : List (Option FieldValue) × Issue :=
  (keys.map (index.firstValue issue), issue)

instance : Std.TransCmp (index.compareIssues keys) where
  eq_swap := compareKeys_swap keys _ _
  isLE_trans := compareKeys_isLE_trans (List.length_map _)

end

variable {index : Index} {keys : List SortKey}

/-- A field either exists for all issues or for none. -/
theorem sortValues_of_known (known : ∀ key ∈ keys, Field.ofName? key.field ≠ none)
    (issue : Issue) : index.sortValues keys issue = .ok (keys.map (index.firstValue issue)) := by
  induction keys with
  | nil => rfl
  | cons key keys ih =>
      rw [List.forall_mem_cons] at known
      obtain ⟨field, found⟩ := Option.ne_none_iff_exists'.mp known.1
      have values : index.valuesOf issue key.field = .ok (index.fieldValues issue field) := by
        rw [valuesOf, found]
      have rest := ih known.2
      rw [sortValues] at rest
      rw [sortValues, List.mapM_cons, rest, values, List.map_cons, firstValue, values]
      rfl

theorem sortValues_of_unknown {before after : List SortKey} {key : SortKey}
    (known : ∀ earlier ∈ before, Field.ofName? earlier.field ≠ none)
    (unknown : Field.ofName? key.field = none) (issue : Issue) :
    index.sortValues (before ++ key :: after) issue = .error (.unknownField key.field) := by
  have values : index.valuesOf issue key.field = .error (.unknownField key.field) := by
    rw [valuesOf, unknown]
  have first : index.sortValues before issue = _ := sortValues_of_known known issue
  rw [sortValues] at first
  rw [sortValues, List.mapM_append, first, List.mapM_cons, values]
  rfl

theorem arranged_nil : index.arranged keys [] = .ok [] := by
  rw [arranged, List.mapM_nil, pure_bind, List.mergeSort_nil]
  rfl

theorem arranged_of_known (known : ∀ key ∈ keys, Field.ofName? key.field ≠ none)
    (hits : List Issue) :
    index.arranged keys hits = .ok (sortedBy (index.compareIssues keys) hits) := by
  have compared : (hits.map (index.keyed keys)).mergeSort
      (fun a b => (compareKeys keys a.1 b.1).isLE) =
        (sortedBy (index.compareIssues keys) hits).map (index.keyed keys) :=
    (List.map_mergeSort (f := index.keyed keys) fun _ _ _ _ => rfl).symm
  have evaluated : (hits.mapM fun issue => do return (← index.sortValues keys issue, issue)) =
      .ok (hits.map (index.keyed keys)) := by
    simp only [sortValues_of_known known]
    exact List.mapM_pure
  rw [arranged, evaluated]
  change Except.ok (List.map _ _) = _
  rw [compared, List.map_map]
  exact congrArg Except.ok (List.map_id _)

theorem arranged_of_unknown {before after : List SortKey} {key : SortKey}
    (known : ∀ earlier ∈ before, Field.ofName? earlier.field ≠ none)
    (unknown : Field.ofName? key.field = none) (first : Issue) (hits : List Issue) :
    index.arranged (before ++ key :: after) (first :: hits) =
      .error (.unknownField key.field) := by
  rw [arranged, List.mapM_cons, sortValues_of_unknown known unknown]
  rfl

/-- Whether the hits can be sorted does not depend on them, except that there has to be one. -/
theorem arranged_outcome (index : Index) (keys : List SortKey) (hits : List Issue) :
    match index.arranged keys hits with
    | .ok sorted => sorted = sortedBy (index.compareIssues keys) hits ∧
        (hits = [] ∨ ∀ key ∈ keys, Field.ofName? key.field ≠ none)
    | .error e => hits ≠ [] ∧ ∃ before key after, keys = before ++ key :: after ∧
        (∀ earlier ∈ before, Field.ofName? earlier.field ≠ none) ∧
        Field.ofName? key.field = none ∧ e = .unknownField key.field := by
  cases hits with
  | nil =>
      rw [arranged_nil]
      exact ⟨by rw [sortedBy, List.mergeSort_nil], .inl rfl⟩
  | cons first hits =>
      cases found : keys.find? fun key => (Field.ofName? key.field).isNone with
      | none =>
          have known : ∀ key ∈ keys, Field.ofName? key.field ≠ none := by
            simpa only [List.find?_eq_none, Option.isNone_iff_eq_none] using found
          rw [arranged_of_known known]
          exact ⟨rfl, .inr known⟩
      | some key =>
          obtain ⟨missing, before, after, rfl, earlier⟩ := List.find?_eq_some_iff_append.mp found
          have unknown : Field.ofName? key.field = none := Option.isNone_iff_eq_none.mp missing
          have known : ∀ key ∈ before, Field.ofName? key.field ≠ none := by
            simpa only [Bool.not_eq_true', Option.isNone_eq_false_iff, Option.isSome_iff_ne_none]
              using earlier
          rw [arranged_of_unknown known unknown]
          exact ⟨List.cons_ne_nil first hits, before, key, after, rfl, known, unknown, rfl⟩

/-- To sort by no field at all leaves the hits as they are, so a search may always be thought to
sort. -/
theorem search_eq (index : Index) (viewer : Viewer) (query : Query) (page : Page) :
    index.search viewer query page = do
      let hits ← index.hits query (index.visibleIssues viewer)
      let sorted ← index.arranged query.orderBy hits
      return ⟨page.select sorted, sorted.length⟩ := by
  rw [search]
  cases keys : query.orderBy with
  | nil =>
      have same : ∀ hits, index.arranged [] hits = .ok hits := by
        intro hits
        have inOrder : hits.Pairwise fun a b => (index.compareIssues [] a b).isLE = true :=
          List.pairwise_of_forall fun _ _ => rfl
        rw [arranged_of_known (by simp), sortedBy, List.mergeSort_of_pairwise inOrder]
      simp only [List.isEmpty_nil, if_true, same]
      rfl
  | cons key keys => rfl

theorem search_eq_ok_iff {viewer : Viewer} {query : Query} {page : Page} {results : SearchResults} :
    index.search viewer query page = .ok results ↔
      ∃ hits sorted, index.hits query (index.visibleIssues viewer) = .ok hits ∧
        index.arranged query.orderBy hits = .ok sorted ∧
        results = ⟨page.select sorted, sorted.length⟩ := by
  rw [search_eq, bind_eq_ok_iff]
  constructor
  · rintro ⟨hits, searched, found⟩
    obtain ⟨sorted, arranged, found⟩ := bind_eq_ok_iff.mp found
    cases found
    exact ⟨hits, sorted, searched, arranged, rfl⟩
  · rintro ⟨hits, sorted, searched, arranged, rfl⟩
    exact ⟨hits, searched, bind_eq_ok_iff.mpr ⟨sorted, arranged, rfl⟩⟩

end Index

end IssueFilter
