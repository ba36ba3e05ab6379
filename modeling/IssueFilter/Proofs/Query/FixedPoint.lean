import IssueFilter.Proofs.Query.Printed

/-! The text of what was read. It is always a filter again, and as a rule it comes back as it is when it
is read and printed once more. It does not if, and only if, a field reads as NOT and a function IN is
called in a condition on it: this text is read as a NOT, and a NOT is printed otherwise. -/
namespace IssueFilter

/-- Conditions that rereading leaves as they are in one list are not ambiguous: an ambiguous one comes
back with another field. -/
theorem clear_of_reread {conditions : List Condition}
    (same : conditions.flatMap (fun c => c.reread.conditions) = conditions) :
    ∀ c ∈ conditions, c.isAmbiguous = false := by
  induction conditions with
  | nil => simp
  | cons c conditions ih =>
      rw [List.flatMap_cons] at same
      rcases c.reread_cases with itself | ⟨d, other, named⟩
      · rw [itself] at same
        have others := (List.cons.inj same).2
        exact List.forall_mem_cons.mpr ⟨c.reread_eq_iff.mp itself, ih others⟩
      · rw [other] at same
        obtain ⟨rfl, -⟩ := List.cons.inj same
        have notNot : d.namesNot = false := by
          rw [Condition.namesNot, named]
          decide
        have clear : d.isAmbiguous = false := by
          rw [Condition.isAmbiguous, notNot, Bool.false_and, Bool.false_and]
        rw [d.reread_eq_iff.mpr clear] at other
        cases other

namespace Query

variable {s : List Char} {query : Query}

/-- The text of what was read is read as the query without its regroupings, each condition as its text
is. -/
theorem Parsed.ofChars_chars (parsed : query.Parsed) :
    Query.ofChars query.chars = .ok (query.flattened.expand Condition.reread) := by
  rw [← parsed.chars_flattened]
  exact ofChars_of_canonical parsed.canonical_flattened

theorem Parsed.chars_reread_iff (parsed : query.Parsed) :
    (query.flattened.expand Condition.reread).chars = query.chars ↔
      ∀ c ∈ query.conditions, c.isAmbiguous = false := by
  constructor
  · intro same
    have again := parsed_of_ofChars parsed.ofChars_chars
    have conditions := congrArg Query.conditions (again.flattened_eq_of_chars parsed same)
    rw [conditions_flattened, conditions_flattened, conditions_expand, conditions_flattened]
      at conditions
    exact clear_of_reread conditions
  · intro clear
    have kept : query.flattened.expand Condition.reread = query.flattened := by
      rw [expand_eq_self_iff, conditions_flattened]
      exact fun c member => c.reread_eq_iff.mpr (clear c member)
    rw [kept, parsed.chars_flattened]

/-- The text of an accepted filter is accepted, and it is the text of what is then read just if no
condition of the filter calls IN on a field NOT. -/
theorem parse_text_fixed_iff {text : String} (accepted : Query.parse text = .ok query) :
    ∃ again, Query.parse query.text = .ok again ∧
      (again.text = query.text ↔ ∀ c ∈ query.conditions, c.isAmbiguous = false) := by
  have parsed := parsed_of_ofChars accepted
  refine ⟨query.flattened.expand Condition.reread, ?_, ?_⟩
  · rw [parse, Query.text, String.toList_ofList]
    exact parsed.ofChars_chars
  · rw [Query.text, Query.text, String.ofList_inj]
    exact parsed.chars_reread_iff

end Query

/-- What a filter with parentheses to spare and fields that look like keywords is read as. -/
def regroupedQuery : Query where
  clause := some (.and
    [.condition ⟨"a", .equals, .single (.number 1)⟩,
      .and
        [.condition ⟨"not", .equals, .single (.text "007")⟩,
          .not (.or
            [.condition ⟨"in", .isIn, .list [.call ⟨"u", ["c/d"]⟩, .single (.number 7)]⟩,
              .not (.condition ⟨"is", .is, .empty⟩)])]])
  orderBy := [⟨"desc", .ascending⟩]

theorem Query.text_of_regrouped_fixed :
    Query.parse "a = 1 and (not = '007' && !(in in (u(c/d), 007) || not is is null)) order by desc" =
        .ok regroupedQuery ∧
      ∃ again, Query.parse regroupedQuery.text = .ok again ∧ again.text = regroupedQuery.text := by
  have accepted : Query.parse
      "a = 1 and (not = '007' && !(in in (u(c/d), 007) || not is is null)) order by desc" =
        .ok regroupedQuery := rfl
  obtain ⟨again, reread, fixed⟩ := Query.parse_text_fixed_iff accepted
  exact ⟨accepted, again, reread, fixed.mpr (by decide)⟩

/-- The text `not in in(a+b)` is a call of a function `in` on a field `not`, and the text that is
printed for this is read as NOT in front of a list. -/
theorem Query.text_of_call_on_not_not_fixed :
    ∃ query again, Query.parse "not in in(a+b)" = .ok query ∧
      Query.parse query.text = .ok again ∧ again.text ≠ query.text :=
  ⟨⟨some (.condition ⟨"not", .isIn, .call ⟨"in", ["a+b"]⟩⟩), []⟩,
    ⟨some (.not (.condition ⟨"in", .isIn, .list [.single (.text "a+b")]⟩)), []⟩,
    rfl, rfl, by decide⟩

end IssueFilter
