import IssueFilter.Proofs.Query.Building
import IssueFilter.Proofs.Query.Locating

/-! Every failure to read a query is a failure of the grammar at a place of the text. Reading goes
through a parse tree, but none of the failures that the tree could still give can happen: from each tree
that the grammar finds the query is built. -/
namespace IssueFilter

/-- Either there is a tree, and the query is built from it, or there is none, and the text is refused for
the same reason. -/
theorem Tree.ofChars_cases (s : List Char) :
    (∃ trees query, ofChars s = .ok trees ∧ Tree.query trees = .ok query ∧
        Query.ofChars s = .ok query) ∨
      ∃ error, ofChars s = .error error ∧ Query.ofChars s = .error error := by
  have sideBySide := TreeGrammar.parallel_query (s.length + 1)
  unfold ofChars Query.ofChars
  rcases sideBySide.reads s with ⟨left, right⟩ | ⟨trees, query, rest, left, right, given⟩
  · simp only [left, right, Parser.run_eq, sideBySide.traces]
    exact .inr ⟨_, rfl, rfl⟩
  · simp only [left, right]
    obtain ⟨text, inner, rfl, built⟩ := given
    exact .inl ⟨_, query, rfl, built, rfl⟩

/-- Reading a text is finding its parse tree and building the query from it, and building never fails.
So a text that is no query fails in the grammar. The failure has a place, which is one of the places of
the text, and its message names at least one rule that was expected there. -/
theorem Query.parse_fails_in_grammar (text : String) :
    Query.parse text = Tree.parse text >>= Tree.query ∧
      (∀ trees, Tree.parse text = .ok trees → ∃ query, Tree.query trees = .ok query) ∧
      ∀ error, Query.parse text = .error error → Tree.parse text = .error error ∧
        ∃ position, error.position? = some position ∧ position.Inside text.toList ∧
          (∃ before rest, text.toList = before ++ rest ∧ position = .after before) ∧
          ∃ named, named ≠ [] ∧
            error.message = "expected " ++ Rule.enumerate (named.map Rule.name) := by
  unfold Query.parse Tree.parse
  rcases Tree.ofChars_cases text.toList with
    ⟨trees, query, found, built, accepted⟩ | ⟨error, none, refused⟩
  · refine ⟨?_, fun trees' same => ?_, fun error failed => ?_⟩
    · rw [accepted, found]
      exact built.symm
    · cases found.symm.trans same
      exact ⟨query, built⟩
    · cases accepted.symm.trans failed
  · refine ⟨?_, fun trees same => ?_, fun error' failed => ?_⟩
    · rw [refused, none]
      rfl
    · cases none.symm.trans same
    · cases refused.symm.trans failed
      obtain ⟨rules, before, rest, nonempty, split, rfl⟩ := expected_of_ofChars refused
      refine ⟨none, .after before, rfl, ?_, ⟨before, rest, split, rfl⟩, ?_⟩
      · rw [split]
        exact Position.inside_of_prefix before rest
      · exact ParseError.message_expected nonempty (.after before)

/-- A failure on the second line, and a tree from which a query is built. -/
theorem Query.parse_fails_in_grammar_second_line :
    (∃ error, Query.parse "status = Open\n  AND labels in Open" = .error error ∧
      Tree.parse "status = Open\n  AND labels in Open" = .error error ∧
      error.position? = some ⟨2, 17⟩ ∧ error.message = "expected function or list" ∧
      Position.Inside ⟨2, 17⟩ "status = Open\n  AND labels in Open".toList) ∧
    ∃ trees query, Tree.parse "NOT a is empty" = .ok trees ∧ Tree.query trees = .ok query ∧
      Query.parse "NOT a is empty" = .ok query := by
  have refused : Query.parse "status = Open\n  AND labels in Open" =
      .error (.expected [.call, .list] ⟨2, 17⟩) := rfl
  obtain ⟨noTree, position, same, inside, -⟩ :=
    (Query.parse_fails_in_grammar "status = Open\n  AND labels in Open").2.2 _ refused
  cases same
  obtain ⟨trees, found⟩ : ∃ trees, Tree.parse "NOT a is empty" = .ok trees := ⟨_, rfl⟩
  obtain ⟨twoSteps, builds, -⟩ := Query.parse_fails_in_grammar "NOT a is empty"
  obtain ⟨query, built⟩ := builds trees found
  refine ⟨⟨_, refused, noTree, rfl, by decide, inside⟩, trees, query, found, built, ?_⟩
  rw [twoSteps, found]
  exact built

end IssueFilter
