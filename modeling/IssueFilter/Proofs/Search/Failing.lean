import IssueFilter.Proofs.Search.Hits
import IssueFilter.Proofs.Search.Ordering

/-! Why a search fails. A clause fails on an issue only as one of its conditions does, a condition
either for a call in it or for its field, its operator or one of its values, and an ordering for a field
that does not exist. So without calls in the query no search fails for a call. -/
namespace IssueFilter

/-- Texts that begin with two different letters are different. -/
theorem append_ne_append {a b s t : String} (left : 2 ≤ a.toList.length) (right : 2 ≤ b.toList.length)
    (differ : a.toList.take 2 ≠ b.toList.take 2) : a ++ s ≠ b ++ t := by
  intro same
  have start := congrArg (fun text => text.toList.take 2) same
  simp only [String.toList_append, List.take_append_of_le_length left,
    List.take_append_of_le_length right] at start
  exact differ start

/-- An unresolved function is the one error that a text begins with "Function". -/
theorem SearchError.message_ne_unresolvedFunction {e : SearchError}
    (other : ∀ name, e ≠ .unresolvedFunction name) (name : String) :
    e.message ≠ (unresolvedFunction name).message := by
  cases e with
  | unresolvedFunction name => exact absurd rfl (other name)
  | unknownField field =>
      change "Field '" ++ field ++ _ ≠ "Function '" ++ name ++ _
      rw [String.append_assoc, String.append_assoc]
      exact append_ne_append (by decide) (by decide) (by decide)
  | invalidValue field value =>
      change "Value '" ++ value ++ _ ++ field ++ _ ≠ "Function '" ++ name ++ _
      rw [String.append_assoc, String.append_assoc, String.append_assoc, String.append_assoc]
      exact append_ne_append (by decide) (by decide) (by decide)
  | unsupportedOperator field operator =>
      change "Operator '" ++ operator ++ _ ++ field ++ _ ≠ "Function '" ++ name ++ _
      rw [String.append_assoc, String.append_assoc, String.append_assoc, String.append_assoc]
      exact append_ne_append (by decide) (by decide) (by decide)
  | backend reason =>
      change "Search failed: " ++ reason ≠ "Function '" ++ name ++ _
      rw [String.append_assoc]
      exact append_ne_append (by decide) (by decide) (by decide)

/-- Comparing fails for the literal or for the operator. -/
theorem someOrdered_error {field : String} {operator : Operator} {literal : Literal}
    {values : List FieldValue} {e : SearchError}
    (failed : someOrdered field operator literal values = .error e) :
    e = .invalidValue field literal.asText ∨ e = .unsupportedOperator field operator.symbol := by
  induction values with
  | nil => cases failed
  | cons value values ih =>
      rw [someOrdered, bind_eq_error_iff] at failed
      rcases failed with first | ⟨ordering, -, failed⟩
      · cases value with
        | number n => cases first
        | text s =>
            cases first
            exact .inr rfl
        | date d =>
            rw [FieldValue.compareWith] at first
            split at first
            · cases first
            · cases first
              exact .inl rfl
      · rcases bind_eq_error_iff.mp failed with others | ⟨_, -, failed⟩
        · exact ih others
        · cases failed

theorem Condition.holdsOf_error {condition : Condition} {values : List FieldValue} {e : SearchError}
    (failed : condition.holdsOf values = .error e) :
    (∃ value, e = .invalidValue condition.field value) ∨
      e = .unsupportedOperator condition.field condition.operator.symbol := by
  unfold holdsOf at failed
  -- Only the operators that compare can fail, and only with a single literal.
  split at failed <;> first
    | cases failed
    | split at failed
      · exact (someOrdered_error failed).imp_left fun same => ⟨_, same⟩
      · cases failed

namespace Index

variable {index : Index} {e : SearchError}

section

variable {issue : Issue}

theorem valuesOf_error {field : String} (failed : index.valuesOf issue field = .error e) :
    e = .unknownField field := by
  unfold valuesOf at failed
  split at failed
  · cases failed
  · cases failed
    rfl

/-- A condition fails for a call only if there is one of that name in it. -/
theorem satisfiesCondition_unresolved {condition : Condition} {name : String}
    (failed : index.satisfiesCondition issue condition = .error (.unresolvedFunction name)) :
    ∃ call ∈ condition.operand.calls, call.name = name := by
  unfold satisfiesCondition at failed
  split at failed
  · rename_i call calls found
    cases failed
    exact ⟨call, by rw [found]; exact List.mem_cons_self, rfl⟩
  · exfalso
    rcases bind_eq_error_iff.mp failed with noField | ⟨values, -, held⟩
    · cases valuesOf_error noField
    · rcases Condition.holdsOf_error held with ⟨value, same⟩ | same
      · cases same
      · cases same

mutual

theorem satisfies_error : ∀ clause : Clause, index.satisfies issue clause = .error e →
    ∃ condition ∈ clause.conditions, index.satisfiesCondition issue condition = .error e
  | .and children, failed => satisfiesAll_error children failed
  | .or children, failed => satisfiesAny_error children failed
  | .not child, failed => by
      rcases bind_eq_error_iff.mp failed with inside | ⟨hit, -, negated⟩
      · exact satisfies_error child inside
      · cases negated
  | .condition c, failed => ⟨c, List.mem_singleton_self c, failed⟩

theorem satisfiesAll_error : ∀ children : List Clause,
    index.satisfiesAll issue children = .error e →
      ∃ condition ∈ Clause.conditionsOfList children,
        index.satisfiesCondition issue condition = .error e
  | [], failed => by cases failed
  | child :: children, failed => by
      rw [satisfiesAll, bind_eq_error_iff] at failed
      simp only [Clause.conditionsOfList, List.mem_append]
      rcases failed with first | ⟨hit, -, others⟩
      · obtain ⟨condition, member, fails⟩ := satisfies_error child first
        exact ⟨condition, .inl member, fails⟩
      · cases hit with
        | false => cases others
        | true =>
            obtain ⟨condition, member, fails⟩ := satisfiesAll_error children others
            exact ⟨condition, .inr member, fails⟩

theorem satisfiesAny_error : ∀ children : List Clause,
    index.satisfiesAny issue children = .error e →
      ∃ condition ∈ Clause.conditionsOfList children,
        index.satisfiesCondition issue condition = .error e
  | [], failed => by cases failed
  | child :: children, failed => by
      rw [satisfiesAny, bind_eq_error_iff] at failed
      simp only [Clause.conditionsOfList, List.mem_append]
      rcases failed with first | ⟨hit, -, others⟩
      · obtain ⟨condition, member, fails⟩ := satisfies_error child first
        exact ⟨condition, .inl member, fails⟩
      · cases hit with
        | true => cases others
        | false =>
            obtain ⟨condition, member, fails⟩ := satisfiesAny_error children others
            exact ⟨condition, .inr member, fails⟩

end

end

/-- A search fails as a condition fails on an issue that the viewer may see, or because it is to be
sorted by a field that does not exist. -/
theorem search_error {viewer : Viewer} {query : Query} {page : Page}
    (failed : index.search viewer query page = .error e) :
    (∃ issue ∈ index.visibleIssues viewer, ∃ condition ∈ query.conditions,
      index.satisfiesCondition issue condition = .error e) ∨
    ∃ key ∈ query.orderBy, e = .unknownField key.field := by
  rw [search_eq] at failed
  rcases bind_eq_error_iff.mp failed with searched | ⟨hits, -, failed⟩
  · have outcome := hits_outcome index query (index.visibleIssues viewer)
    rw [searched] at outcome
    obtain ⟨before, issue, after, split, fails, -⟩ := outcome
    refine .inl ⟨issue, by rw [split]; exact List.mem_append_right before List.mem_cons_self, ?_⟩
    unfold selects at fails
    unfold Query.conditions
    cases clause : query.clause with
    | none =>
        rw [clause] at fails
        cases fails
    | some clause' =>
        rw [clause] at fails
        exact satisfies_error clause' fails
  · rcases bind_eq_error_iff.mp failed with arranged | ⟨sorted, -, failed⟩
    · have outcome := index.arranged_outcome query.orderBy hits
      rw [arranged] at outcome
      obtain ⟨-, before, key, after, split, -, -, same⟩ := outcome
      exact .inr ⟨key, by rw [split]; exact List.mem_append_right before List.mem_cons_self, same⟩
    · cases failed

/-- A query without calls cannot fail for one. -/
theorem search_ne_unresolved {viewer : Viewer} {query : Query} {page : Page}
    (noCalls : query.calls = []) (failed : index.search viewer query page = .error e)
    (name : String) : e ≠ .unresolvedFunction name := by
  rintro rfl
  rcases search_error failed with ⟨issue, -, condition, member, fails⟩ | ⟨key, -, same⟩
  · obtain ⟨call, inside, -⟩ := satisfiesCondition_unresolved fails
    have placed : (condition, call) ∈ query.calls :=
      List.mem_flatMap.mpr ⟨condition, member, List.mem_map.mpr ⟨call, inside, rfl⟩⟩
    rw [noCalls] at placed
    cases placed
  · cases same

end Index

end IssueFilter
