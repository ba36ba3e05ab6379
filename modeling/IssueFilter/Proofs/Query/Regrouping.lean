import IssueFilter.Proofs.Query.RoundTrip

/-! Regrouping a query. The parser keeps an AND in parentheses inside an AND as a node of its own, and
the printer drops these parentheses. A flattened clause has no such node: its text and its conditions
are those of the clause. -/
namespace IssueFilter

/-- What the clause brings to a node around it: its children, if it binds as the node does. -/
def Clause.partsOf (outer : Nat) : Clause → List Clause
  | .and children => if outer = 1 then children else [.and children]
  | .or children => if outer = 0 then children else [.or children]
  | .not child => [.not child]
  | .condition c => [.condition c]

mutual

/-- The clause with every AND spliced into the AND around it, and every OR into the OR. -/
def Clause.flattened : Clause → Clause
  | .and children => .and (Clause.flattenedList 1 children)
  | .or children => .or (Clause.flattenedList 0 children)
  | .not child => .not child.flattened
  | .condition c => .condition c

def Clause.flattenedList (outer : Nat) : List Clause → List Clause
  | [] => []
  | child :: children => child.flattened.partsOf outer ++ Clause.flattenedList outer children

end

def Query.flattened (query : Query) : Query where
  clause := query.clause.map Clause.flattened
  orderBy := query.orderBy

namespace Clause

section Appending

theorem areShaped_append (xs ys : List Clause) :
    areShaped (xs ++ ys) = (areShaped xs && areShaped ys) := by
  induction xs with
  | nil => rfl
  | cons x xs ih => rw [List.cons_append, areShaped, areShaped, ih, Bool.and_assoc]

theorem areFlat_append (outer : Nat) (xs ys : List Clause) :
    areFlat outer (xs ++ ys) = (areFlat outer xs && areFlat outer ys) := by
  induction xs with
  | nil => rfl
  | cons x xs ih => rw [List.cons_append, areFlat, areFlat, ih, ← Bool.and_assoc]

theorem charsOfList_append (outer : Nat) (xs ys : List Clause) :
    charsOfList outer (xs ++ ys) = charsOfList outer xs ++ charsOfList outer ys := by
  induction xs with
  | nil => rfl
  | cons x xs ih => rw [List.cons_append, charsOfList, charsOfList, ih, List.cons_append]

theorem conditionsOfList_append (xs ys : List Clause) :
    conditionsOfList (xs ++ ys) = conditionsOfList xs ++ conditionsOfList ys := by
  induction xs with
  | nil => rfl
  | cons x xs ih =>
      rw [List.cons_append, conditionsOfList, conditionsOfList, ih, List.append_assoc]

end Appending

section Parts

variable {outer : Nat} {clause : Clause}

theorem partsOf_of_ne (other : clause.precedence ≠ outer) : clause.partsOf outer = [clause] := by
  cases clause with
  | and children => exact if_neg fun same => other same.symm
  | or children => exact if_neg fun same => other same.symm
  | not child => rfl
  | condition c => rfl

theorem conditions_partsOf (outer : Nat) (clause : Clause) :
    conditionsOfList (clause.partsOf outer) = clause.conditions := by
  have single : ∀ c : Clause, conditionsOfList [c] = c.conditions := fun c => by
    rw [conditionsOfList, conditionsOfList, List.append_nil]
  by_cases same : clause.precedence = outer
  · subst same
    cases clause with
    | and children => rfl
    | or children => rfl
    | not child => exact single _
    | condition c => exact single _
  · rw [partsOf_of_ne same, single]

/-- The parts of a clause, with the words between them, have the text of the clause. -/
theorem intercalate_partsOf_and (clause : Clause) :
    " AND ".toList.intercalate (charsOfList 1 (clause.partsOf 1)) =
      enclosed 1 clause.precedence clause.chars := by
  cases clause with
  | and children => rfl
  | or children => exact List.intercalate_singleton
  | not child => exact List.intercalate_singleton
  | condition c => exact List.intercalate_singleton

theorem intercalate_partsOf_or (clause : Clause) :
    " OR ".toList.intercalate (charsOfList 0 (clause.partsOf 0)) =
      enclosed 0 clause.precedence clause.chars := by
  cases clause with
  | and children => exact List.intercalate_singleton
  | or children => rfl
  | not child => exact List.intercalate_singleton
  | condition c => exact List.intercalate_singleton

theorem shaped_partsOf (shaped : clause.isShaped = true) (outer : Nat) :
    areShaped (clause.partsOf outer) = true ∧ clause.partsOf outer ≠ [] := by
  by_cases same : clause.precedence = outer
  · have several : ∀ children : List Clause,
        (decide (2 ≤ children.length) && areShaped children) = true →
        areShaped children = true ∧ children ≠ [] := by
      intro children shaped
      rw [Bool.and_eq_true, decide_eq_true_eq] at shaped
      refine ⟨shaped.2, ?_⟩
      rintro rfl
      exact absurd shaped.1 (by decide)
    subst same
    cases clause with
    | and children => exact several children shaped
    | or children => exact several children shaped
    | not child => exact ⟨by rw [partsOf, areShaped, shaped]; rfl, List.cons_ne_nil _ _⟩
    | condition c => exact ⟨by rw [partsOf, areShaped, shaped]; rfl, List.cons_ne_nil _ _⟩
  · rw [partsOf_of_ne same, areShaped, shaped]
    exact ⟨rfl, List.cons_ne_nil _ _⟩

theorem flat_partsOf (flat : clause.isFlat = true) (loose : outer < 2) :
    areFlat outer (clause.partsOf outer) = true := by
  by_cases same : clause.precedence = outer
  · subst same
    cases clause with
    | and children => exact flat
    | or children => exact flat
    | not child => exact absurd loose (Nat.lt_irrefl 2)
    | condition c => exact absurd loose (Nat.lt_irrefl 2)
  · rw [partsOf_of_ne same, areFlat, flat, decide_eq_true same]
    rfl

end Parts

@[simp] theorem precedence_flattened (clause : Clause) :
    clause.flattened.precedence = clause.precedence := by
  cases clause <;> rfl

mutual

theorem conditions_flattened : ∀ clause : Clause, clause.flattened.conditions = clause.conditions
  | .and children | .or children => by
      rw [flattened, conditions, conditions, conditions_flattenedList]
  | .not child => conditions_flattened child
  | .condition _ => rfl

theorem conditions_flattenedList (outer : Nat) : ∀ children : List Clause,
    conditionsOfList (flattenedList outer children) = conditionsOfList children
  | [] => rfl
  | child :: children => by
      rw [flattenedList, conditionsOfList_append, conditions_partsOf, conditions_flattened child,
        conditions_flattenedList outer children, conditionsOfList]

end

mutual

theorem isShaped_flattened : ∀ clause : Clause, clause.isShaped = true →
    clause.flattened.isShaped = true
  | .and children, shaped | .or children, shaped => by
      rw [isShaped, Bool.and_eq_true, decide_eq_true_eq] at shaped
      obtain ⟨each, long⟩ := shaped_flattenedList _ children shaped.2
      rw [flattened, isShaped, each, decide_eq_true (Nat.le_trans shaped.1 long)]
      rfl
  | .not child, shaped => isShaped_flattened child shaped
  | .condition _, shaped => shaped

theorem shaped_flattenedList (outer : Nat) : ∀ children : List Clause, areShaped children = true →
    areShaped (flattenedList outer children) = true ∧
      children.length ≤ (flattenedList outer children).length
  | [], _ => ⟨rfl, Nat.le_refl _⟩
  | child :: children, shaped => by
      rw [areShaped, Bool.and_eq_true] at shaped
      obtain ⟨first, nonempty⟩ := shaped_partsOf (isShaped_flattened child shaped.1) outer
      obtain ⟨others, long⟩ := shaped_flattenedList outer children shaped.2
      have positive := List.length_pos_iff.mpr nonempty
      rw [flattenedList, areShaped_append, first, others, List.length_append, List.length_cons]
      exact ⟨rfl, by omega⟩

end

mutual

theorem isFlat_flattened : ∀ clause : Clause, clause.flattened.isFlat = true
  | .and children => flat_flattenedList (by decide) children
  | .or children => flat_flattenedList (by decide) children
  | .not child => isFlat_flattened child
  | .condition _ => rfl

theorem flat_flattenedList {outer : Nat} (loose : outer < 2) : ∀ children : List Clause,
    areFlat outer (flattenedList outer children) = true
  | [] => rfl
  | child :: children => by
      rw [flattenedList, areFlat_append, flat_partsOf (isFlat_flattened child) loose,
        flat_flattenedList loose children]
      rfl

end

mutual

theorem chars_flattened : ∀ clause : Clause, clause.isShaped = true →
    clause.flattened.chars = clause.chars
  | .and children, shaped => by
      rw [isShaped, Bool.and_eq_true] at shaped
      exact chars_flattenedList intercalate_partsOf_and children shaped.2
  | .or children, shaped => by
      rw [isShaped, Bool.and_eq_true] at shaped
      exact chars_flattenedList intercalate_partsOf_or children shaped.2
  | .not child, shaped => by
      rw [flattened, chars, chars, chars_flattened child shaped, precedence_flattened]
  | .condition _, _ => rfl

/-- Splicing takes no text away, whichever word stands between the children. -/
theorem chars_flattenedList {outer : Nat} {word : List Char}
    (spelled : ∀ clause : Clause, word.intercalate (charsOfList outer (clause.partsOf outer)) =
      enclosed outer clause.precedence clause.chars) : ∀ children : List Clause,
    areShaped children = true → word.intercalate (charsOfList outer (flattenedList outer children)) =
      word.intercalate (charsOfList outer children)
  | [], _ => rfl
  | [child], shaped => by
      rw [areShaped, Bool.and_eq_true] at shaped
      rw [flattenedList, flattenedList, List.append_nil, spelled, precedence_flattened,
        chars_flattened child shaped.1]
      exact List.intercalate_singleton.symm
  | child :: second :: others, shaped => by
      have nonempty : ∀ xs : List Clause, xs ≠ [] → charsOfList outer xs ≠ [] := by
        intro xs present
        cases xs with
        | nil => exact absurd rfl present
        | cons x xs => exact List.cons_ne_nil _ _
      rw [areShaped, Bool.and_eq_true] at shaped
      have first := (shaped_partsOf (isShaped_flattened child shaped.1) outer).2
      have long := (shaped_flattenedList outer (second :: others) shaped.2).2
      have later : flattenedList outer (second :: others) ≠ [] :=
        List.ne_nil_of_length_pos (Nat.lt_of_lt_of_le (Nat.succ_pos _) long)
      rw [flattenedList, charsOfList_append,
        Grammar.intercalate_append word (nonempty _ first) (nonempty _ later), spelled,
        precedence_flattened, chars_flattened child shaped.1,
        chars_flattenedList spelled (second :: others) shaped.2, ← List.append_assoc]
      exact List.intercalate_cons_cons.symm

end

section Walks

variable {m : Type → Type} [Monad m] [LawfulMonad m] (f : Condition → m Condition)

theorem mapConditionsListM_append (xs ys : List Clause) :
    mapConditionsListM f (xs ++ ys) = do
      let first ← mapConditionsListM f xs
      let others ← mapConditionsListM f ys
      return first ++ others := by
  induction xs with
  | nil => simp [mapConditionsListM]
  | cons x xs ih => simp [mapConditionsListM, ih]

/-- A walk does not change what a clause brings to a node around it. -/
theorem mapConditionsListM_partsOf (outer : Nat) (clause : Clause) :
    mapConditionsListM f (clause.partsOf outer) = partsOf outer <$> clause.mapConditionsM f := by
  have single : ∀ c : Clause, mapConditionsListM f [c] = (fun c => [c]) <$> c.mapConditionsM f :=
    fun c => by simp [mapConditionsListM]
  cases clause with
  | and children =>
      by_cases same : outer = 1
      · simp [partsOf, mapConditionsM, same]
      · simp [partsOf, mapConditionsM, same, single]
  | or children =>
      by_cases same : outer = 0
      · simp [partsOf, mapConditionsM, same]
      · simp [partsOf, mapConditionsM, same, single]
  | not child => simp [partsOf, mapConditionsM, single]
  | condition c => simp [partsOf, mapConditionsM, single]

mutual

/-- The conditions stand in one order before and after regrouping, so a walk meets them alike. -/
theorem mapConditionsM_flattened : ∀ clause : Clause,
    clause.flattened.mapConditionsM f = flattened <$> clause.mapConditionsM f
  | .and children | .or children => by
      simp [flattened, mapConditionsM, mapConditionsListM_flattened]
  | .not child => by simp [flattened, mapConditionsM, mapConditionsM_flattened child]
  | .condition c => by simp [flattened, mapConditionsM]

theorem mapConditionsListM_flattened (outer : Nat) : ∀ children : List Clause,
    mapConditionsListM f (flattenedList outer children) =
      flattenedList outer <$> mapConditionsListM f children
  | [] => by simp [flattenedList, mapConditionsListM]
  | child :: children => by
      simp [flattenedList, mapConditionsListM, mapConditionsListM_append,
        mapConditionsListM_partsOf, mapConditionsM_flattened child,
        mapConditionsListM_flattened outer children]

end

end Walks

end Clause

namespace Query

theorem mapConditionsM_flattened {m : Type → Type} [Monad m] [LawfulMonad m]
    (f : Condition → m Condition) (query : Query) :
    query.flattened.mapConditionsM f = Query.flattened <$> query.mapConditionsM f := by
  obtain ⟨clause, orderBy⟩ := query
  cases clause with
  | none => simp [mapConditionsM, Query.flattened]
  | some clause => simp [mapConditionsM, Query.flattened, clause.mapConditionsM_flattened]

theorem conditions_flattened (query : Query) : query.flattened.conditions = query.conditions := by
  obtain ⟨clause, orderBy⟩ := query
  cases clause with
  | none => rfl
  | some clause => exact clause.conditions_flattened

variable {query : Query}

theorem Parsed.flattened (parsed : query.Parsed) : query.flattened.Parsed := by
  have shaped := parsed.shaped
  have notDouble := parsed.notDouble
  rw [← conditions_flattened] at notDouble
  refine ⟨?_, notDouble⟩
  obtain ⟨clause, orderBy⟩ := query
  cases clause with
  | none => exact shaped
  | some clause =>
      rw [isShaped, Bool.and_eq_true] at shaped ⊢
      exact ⟨clause.isShaped_flattened shaped.1, shaped.2⟩

/-- The text of a query tells it up to regrouping, since a flattened one has no regrouping. -/
theorem Parsed.canonical_flattened (parsed : query.Parsed) : query.flattened.Canonical := by
  refine parsed.flattened.canonical ?_
  obtain ⟨clause, orderBy⟩ := query
  cases clause with
  | none => rfl
  | some clause => exact clause.isFlat_flattened

theorem Parsed.chars_flattened (parsed : query.Parsed) : query.flattened.chars = query.chars := by
  have shaped := parsed.shaped
  obtain ⟨clause, orderBy⟩ := query
  cases clause with
  | none => rfl
  | some clause =>
      rw [isShaped, Bool.and_eq_true] at shaped
      have same := clause.chars_flattened shaped.1
      simp only [Query.flattened, Option.map_some, chars, same]
      rfl

end Query

end IssueFilter
