import IssueFilter.Proofs.Query.Nesting
import IssueFilter.Proofs.Query.RoundTrip

/-! Filters made of filters. The text of a filter without ORDER BY, put in parentheses, is a part of
a larger text that is read as before, whatever its layout and its names are. So AND, OR and NOT of
texts are read as AND, OR and NOT of what the texts are read as. -/
namespace IssueFilter

namespace Grammar

open IssueFilter.Parser

variable {bound : Nat} {s rest : List Char} {c : Clause}

theorem yields_keys : Yields bound ordering fun keys => keys ≠ [] :=
  .rule .ordering (.bind (yields_word .orderKeyword Token.length_keywords) fun _ _ =>
    .bind yields_gap fun _ _ => (yields_commaSeparated yields_sortKey).mono fun _ keys => keys.1)

/-- Behind a clause without ORDER BY the text is at its end. -/
theorem ending_split {clause : Option Clause} {query : Query}
    (taken : (ending clause).read s = some (query, rest)) (unordered : query.orderBy = []) :
    query.clause = clause ∧ Token.skipGaps s = [] := by
  rw [ending, read_bind, read_gap, Option.bind_some, read_bind, Option.bind_eq_some_iff] at taken
  obtain ⟨⟨keys, after⟩, ordered, taken⟩ := taken
  rw [read_bind, read_gap, Option.bind_some, read_bind, Option.bind_eq_some_iff] at taken
  obtain ⟨⟨_, last⟩, atEnd, same⟩ := taken
  cases same
  refine ⟨rfl, ?_⟩
  rw [read_optional, Option.or_eq_some_iff, Option.map_eq_some_iff] at ordered
  rcases ordered with ⟨⟨keys', after'⟩, present, same⟩ | ⟨-, same⟩
  · cases same
    exact absurd unordered (yields_keys _ _ _ (Nat.lt_succ_self _) present).1
  · cases same
    rw [Token.skipGaps_skipGaps] at atEnd
    cases end' : Token.skipGaps s with
    | nil => rfl
    | cons d others =>
        rw [read_token, end'] at atEnd
        cases atEnd

/-- What an accepted text with a clause and without ORDER BY consists in. -/
theorem disjunction_of_ofChars (accepted : Query.ofChars s = .ok ⟨some c, []⟩) :
    ∃ rest, (disjunction (negation (s.length + 1))).read (Token.skipGaps s) = some (c, rest) ∧
      Token.skipGaps rest = [] := by
  unfold Query.ofChars at accepted
  simp only at accepted
  split at accepted
  · rename_i query last taken
    obtain rfl := Except.ok.inj accepted
    rw [query_eq, read_queryOf, Option.bind_eq_some_iff] at taken
    obtain ⟨⟨clause, rest⟩, found, ending⟩ := taken
    obtain ⟨rfl, atEnd⟩ := ending_split ending rfl
    rw [read_optional, Option.or_eq_some_iff, Option.map_eq_some_iff] at found
    rcases found with ⟨⟨clause, after⟩, read, same⟩ | ⟨-, same⟩
    · cases same
      exact ⟨_, read, atEnd⟩
    · cases same
  · cases accepted

def inParentheses (text : List Char) : List Char := '(' :: (text ++ [')'])

/-- An accepted text in parentheses is read as the clause wherever a part of a filter can stand. -/
theorem negation_of_ofChars {text : List Char} (accepted : Query.ofChars text = .ok ⟨some c, []⟩)
    {depth : Nat} (deep : text.length < depth) :
    ReadsBack (negation (depth + 1)) EndsOperand (inParentheses text) c := by
  obtain ⟨rest, read, atEnd⟩ := disjunction_of_ofChars accepted
  have short : (Token.skipGaps text).length < text.length + 1 :=
    Nat.lt_succ_of_le (Token.length_skipGaps text)
  have deeper : (disjunction (negation depth)).read (Token.skipGaps text) = some (c, rest) := by
    rw [← read]
    exact (agree_disjunction (agree_negation deep (Nat.le_refl _)) _ short).1
  have kept : ∀ more, (disjunction (negation depth)).read (Token.skipGaps text ++ ')' :: more) =
      some (c, rest ++ ')' :: more) := fun more =>
    keeps_disjunction (keeps_negation depth) _ _ _ deeper (afterDisjunction_of_end atEnd)
  apply negation_of_grouped
  constructor
  · intro more
    rfl
  · intro more _
    rw [List.cons_append, List.append_assoc, List.singleton_append]
    simp only [grouped, read_bind, read_char_self, Option.bind_some, read_gap, Token.skipGaps_close,
      kept, atEnd, List.nil_append, read_pure]

/-- A text that is read as a clause is accepted. -/
theorem ofChars_of_readsBack
    (readsBack : ReadsBack (disjunction (negation (s.length + 1))) EndsClause s c) :
    Query.ofChars s = .ok ⟨some c, []⟩ := by
  have begins := readsBack.begins []
  have read := readsBack.reads [] endsClause_nil
  rw [List.append_nil] at begins read
  have whole : (query (s.length + 1)).read s = some (⟨some c, []⟩, []) := by
    rw [query_eq, read_queryOf, begins, read_optional_of_some read, Option.bind_some]
    exact read_ending_nil (some c)
  simp only [Query.ofChars, whole]

end Grammar

namespace Query

open Grammar

section Parts

-- Filters, each with the clause that the text is read as.
variable {first : List Char × Clause} {others : List (List Char × Clause)}

theorem parts_readsBack (separator : List Char)
    (accepted : ∀ part ∈ first :: others, ofChars part.1 = .ok ⟨some part.2, []⟩) :
    ∀ part ∈ first :: others, ReadsBack
      (negation ((separator.intercalate
        ((first :: others).map fun part => inParentheses part.1)).length + 1))
      EndsOperand (inParentheses part.1) part.2 := by
  intro part member
  apply negation_of_ofChars (accepted part member)
  have inside := length_le_intercalate separator (fun part => inParentheses part.1) member
  simp only [inParentheses, List.length_cons, List.length_append] at inside
  exact Nat.lt_of_succ_lt inside

/-- Any number of filters are joined by AND. -/
theorem ofChars_and
    (accepted : ∀ part ∈ first :: others, ofChars part.1 = .ok ⟨some part.2, []⟩) :
    ofChars (" AND ".toList.intercalate
      ((first :: others).map fun part => inParentheses part.1)) =
        .ok ⟨some (joined .and ((first :: others).map Prod.snd)), []⟩ := by
  apply ofChars_of_readsBack
  apply disjunction_of_conjunction
  exact conjunction_readsBack _ (parts_readsBack _ accepted)

theorem ofChars_or
    (accepted : ∀ part ∈ first :: others, ofChars part.1 = .ok ⟨some part.2, []⟩) :
    ofChars (" OR ".toList.intercalate
      ((first :: others).map fun part => inParentheses part.1)) =
        .ok ⟨some (joined .or ((first :: others).map Prod.snd)), []⟩ := by
  apply ofChars_of_readsBack
  apply disjunction_readsBack
  intro part member
  exact conjunction_of_part (parts_readsBack _ accepted part member)

end Parts

theorem ofChars_not {text : List Char} {c : Clause} (accepted : ofChars text = .ok ⟨some c, []⟩) :
    ofChars ("NOT ".toList ++ inParentheses text) = .ok ⟨some (.not c), []⟩ := by
  have length : ("NOT ".toList ++ inParentheses text).length = text.length + 5 + 1 := by
    simp [inParentheses]
  apply ofChars_of_readsBack
  rw [length]
  apply disjunction_of_conjunction
  apply conjunction_of_part
  apply negation_not
  apply negation_of_ofChars accepted
  omega

/-- AND, OR and NOT of filters in parentheses. Nothing is assumed of the texts but that they are
accepted as clauses: they may end in blanks, have parentheses between quotes, and name fields and
functions by keywords. -/
theorem parse_composed {left right : String} {c d : Clause}
    (acceptedLeft : parse left = .ok ⟨some c, []⟩) (acceptedRight : parse right = .ok ⟨some d, []⟩) :
    parse ("(" ++ left ++ ") AND (" ++ right ++ ")") = .ok ⟨some (.and [c, d]), []⟩ ∧
      parse ("(" ++ left ++ ") OR (" ++ right ++ ")") = .ok ⟨some (.or [c, d]), []⟩ ∧
      parse ("NOT (" ++ left ++ ")") = .ok ⟨some (.not c), []⟩ := by
  have accepted : ∀ part ∈ [(left.toList, c), (right.toList, d)],
      ofChars part.1 = .ok ⟨some part.2, []⟩ := by
    intro part member
    rcases List.mem_pair.mp member with rfl | rfl
    · exact acceptedLeft
    · exact acceptedRight
  refine ⟨?_, ?_, ?_⟩
  · have both : ("(" ++ left ++ ") AND (" ++ right ++ ")").toList = " AND ".toList.intercalate
        ([(left.toList, c), (right.toList, d)].map fun part => inParentheses part.1) := by
      simp [inParentheses, List.intercalate_cons_cons]
    rw [parse, both]
    exact ofChars_and accepted
  · have both : ("(" ++ left ++ ") OR (" ++ right ++ ")").toList = " OR ".toList.intercalate
        ([(left.toList, c), (right.toList, d)].map fun part => inParentheses part.1) := by
      simp [inParentheses, List.intercalate_cons_cons]
    rw [parse, both]
    exact ofChars_or accepted
  · have negated : ("NOT (" ++ left ++ ")").toList = "NOT ".toList ++ inParentheses left.toList := by
      simp [inParentheses]
    rw [parse, negated]
    exact ofChars_not acceptedLeft

/-- A text that is only just no NOT, and one with parentheses between quotes. -/
theorem parse_composed_keywordNames :
    let c : Clause := .condition ⟨"not", .isIn, .call ⟨"in", ["a+b"]⟩⟩
    let d : Clause := .or [.condition ⟨"is", .isNot, .empty⟩,
      .condition ⟨"order", .equals, .single (.text ") AND (")⟩]
    parse " not in in(a+b)\t" = .ok ⟨some c, []⟩ ∧
      parse "is IS Not null||order=') AND (' " = .ok ⟨some d, []⟩ ∧
      parse ("(" ++ " not in in(a+b)\t" ++ ") AND (" ++ "is IS Not null||order=') AND (' " ++ ")") =
        .ok ⟨some (.and [c, d]), []⟩ ∧
      parse ("(" ++ " not in in(a+b)\t" ++ ") OR (" ++ "is IS Not null||order=') AND (' " ++ ")") =
        .ok ⟨some (.or [c, d]), []⟩ ∧
      parse ("NOT (" ++ " not in in(a+b)\t" ++ ")") = .ok ⟨some (.not c), []⟩ := by
  intro c d
  have left : parse " not in in(a+b)\t" = .ok ⟨some c, []⟩ := rfl
  have right : parse "is IS Not null||order=') AND (' " = .ok ⟨some d, []⟩ := rfl
  exact ⟨left, right, parse_composed left right⟩

end Query

end IssueFilter
