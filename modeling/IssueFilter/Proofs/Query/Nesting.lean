import IssueFilter.Proofs.Parser.Agreeing
import IssueFilter.Proofs.Query.Negating

/-! Clauses in parentheses of their own. What is read as a clause off a whole text is read off it in
front of a closing parenthesis too, and with any depth that is enough for the text. Both are by
induction: the first on the depth, with one case for each form of a clause, the second on the length
of the text. -/
namespace IssueFilter.Grammar

open IssueFilter.Parser

section Closing

variable {more : List Char} {part : Parser Rule Clause}

/-- What may be left over behind a conjunction: no parenthesis that opens, and no further part. -/
structure AfterConjunction (rest : List Char) : Prop where
  noCall : Token.NoCall rest
  noAnd : Token.andWord (Token.skipGaps rest) = none

structure AfterDisjunction (rest : List Char) : Prop extends AfterConjunction rest where
  noOr : Token.orWord (Token.skipGaps rest) = none

theorem afterDisjunction_of_next {rest next : List Char} (left : Token.skipGaps rest = next)
    (noCall : next.head? ≠ some '(') (noAnd : Token.andWord next = none)
    (noOr : Token.orWord next = none) : AfterDisjunction rest := by
  subst left
  exact ⟨⟨noCall, noAnd⟩, noOr⟩

theorem afterDisjunction_of_closes {rest : List Char} (closes : Closes rest) :
    AfterDisjunction rest := by
  obtain ⟨behind, next⟩ := closes
  exact afterDisjunction_of_next next (by rintro ⟨⟩) rfl rfl

theorem afterDisjunction_of_end {rest : List Char} (nothing : Token.skipGaps rest = []) :
    AfterDisjunction rest :=
  afterDisjunction_of_next nothing (by rintro ⟨⟩) rfl rfl

/-- What begins with a word that is no parenthesis does not go on with one that opens. -/
theorem noCall_of_read {α : Type} {scanner : List Char → Option (α × List Char)}
    (fails : ∀ inside, scanner ('(' :: inside) = none) {s : List Char} {answer : α × List Char}
    (taken : scanner (Token.skipGaps s) = some answer) : Token.NoCall s := by
  intro opening
  obtain ⟨inside, same⟩ := List.head?_eq_some_iff.mp opening
  rw [same, fails inside] at taken
  cases taken

/-- Where the word OR stands, AND does not. -/
theorem afterConjunction_of_orWord {s rest : List Char} {a : Unit}
    (taken : Token.orWord (Token.skipGaps s) = some (a, rest)) : AfterConjunction s := by
  constructor
  · exact noCall_of_read (fun _ => rfl) taken
  · rcases Token.either_cases taken with word | sign
    · have noAnd : Token.keyword "and" (Token.skipGaps s) = none :=
        Token.keyword_other rfl rfl (by decide) (by decide) word
      obtain ⟨text, first, -⟩ := Token.firstWord_of_keyword rfl (by decide) word
      obtain ⟨c, others, same, isWord⟩ := first.head
      have noSign : Token.symbol "&&" (c :: others) = none := by
        refine Token.symbol_of_other rfl ?_
        rintro rfl
        cases isWord
      rw [Token.andWord, Token.either, noAnd, same, noSign]
      rfl
    · rw [Token.symbol_split sign]
      rfl

theorem keeps_conjunction (each : Keeps (')' :: more) Token.NoCall part.read) :
    Keeps (')' :: more) AfterConjunction (conjunction part).read := by
  apply Keeps.rule
  apply keeps_separated each Token.blind_andWord
  · intro s a rest taken
    exact noCall_of_read (fun _ => rfl) taken
  · intro s follows
    exact follows.noCall
  · intro s follows
    exact follows.noAnd

theorem keeps_disjunction (each : Keeps (')' :: more) Token.NoCall part.read) :
    Keeps (')' :: more) AfterDisjunction (disjunction part).read := by
  apply Keeps.rule
  apply keeps_separated (keeps_conjunction each) Token.blind_orWord
  · intro s a rest taken
    exact afterConjunction_of_orWord taken
  · intro s follows
    exact follows.toAfterConjunction
  · intro s follows
    exact follows.noOr

theorem keeps_negated (each : Keeps (')' :: more) Token.NoCall part.read) :
    Keeps (')' :: more) Token.NoCall (negated part).read :=
  .after Token.blind_notWord fun _ => .after blind_gap fun _ => .map each Clause.not

theorem keeps_grouped (each : Keeps (')' :: more) Token.NoCall part.read) :
    Keeps (')' :: more) Token.NoCall (grouped part).read := by
  refine .after (blind_char (by decide)) fun _ => .after blind_gap fun _ =>
    .bind (keeps_disjunction each) (fun clause => ?_) ?_
  · exact .after blind_gap fun _ => .map (keeps_char ')' _) fun _ => clause
  · intro clause s b rest taken _
    exact afterDisjunction_of_closes (closes_of_closing taken)

/-- No condition begins with a parenthesis. -/
theorem grouped_of_condition {s rest tail : List Char} {c : Condition}
    (taken : condition.read s = some (c, rest)) : (grouped part).read (s ++ tail) = none := by
  cases s with
  | nil => cases taken
  | cons d s =>
      have other : d ≠ '(' := by
        rintro rfl
        cases taken
      rw [grouped, read_bind, List.cons_append, read_char_other other, Option.bind_none]

theorem opening_of_grouped {s rest : List Char} {clause : Clause}
    (taken : (grouped part).read s = some (clause, rest)) : ∃ inside, s = '(' :: inside := by
  rw [grouped, read_bind, Option.bind_eq_some_iff] at taken
  obtain ⟨⟨_, inside⟩, opening, -⟩ := taken
  exact ⟨inside, char_split opening⟩

/-- A NOT, a group or a condition: the forms that were tried in vain before fail once more. -/
theorem keeps_negation (depth : Nat) :
    Keeps (')' :: more) Token.NoCall (negation depth).read := by
  induction depth with
  | zero =>
      intro s clause rest taken
      cases taken
  | succ depth ih =>
      have condition : Keeps (')' :: more) Token.NoCall
          (do return .condition (← condition) : Parser Rule Clause).read :=
        .map keeps_condition Clause.condition
      have afterNot := Keeps.firstOf_cons (keeps_grouped ih) (.single condition) ?_
      · refine .rule _ (.firstOf_cons (keeps_negated ih) afterNot ?_)
        intro s clause rest failure taken _
        rw [read_firstOf_cons, read_firstOf_single, Option.or_eq_some_iff] at taken
        rcases taken with group | ⟨-, plain⟩
        · obtain ⟨inside, rfl⟩ := opening_of_grouped group
          exact negated_of_group _ _
        · obtain ⟨⟨c, last⟩, read, -⟩ := Option.bind_eq_some_iff.mp plain
          exact negated_of_condition read failure
      · intro s clause rest _ taken _
        rw [read_firstOf_single] at taken
        obtain ⟨⟨c, last⟩, read, -⟩ := Option.bind_eq_some_iff.mp taken
        exact grouped_of_condition read

end Closing

section Depth

variable {bound : Nat} {part other : Parser Rule Clause}

theorem agree_chain {node : List Clause → Clause} {word : Parser Rule Unit}
    (separator : Yields bound word fun _ => True) (each : Agree bound part other) :
    Agree bound (chain node word part) (chain node word other) := by
  apply Agree.bind each
  intro first
  apply Agree.bind
  · apply Agree.many
    apply Agree.bind (.refl yields_gap)
    intro _
    apply Agree.bind (.refl separator)
    intro _
    exact .bind (.refl yields_gap) fun _ => each
  · intro others
    exact .refl (P := fun _ => True) (.pure trivial)

theorem agree_disjunction (each : Agree bound part other) :
    Agree bound (disjunction part) (disjunction other) :=
  .rule _ (agree_chain (yields_word .orKeyword Token.length_orWord)
    (.rule _ (agree_chain (yields_word .andKeyword Token.length_andWord) each)))

theorem agree_negated (each : Agree bound part other) :
    Agree (bound + 1) (negated part) (negated other) := by
  apply Agree.behind
  · intro s _ rest taken
    exact Token.length_notWord taken
  · apply Agree.bind (.refl yields_gap)
    intro _
    apply Agree.bind each
    intro clause
    exact .refl (P := fun _ => True) (.pure trivial)

theorem agree_grouped (each : Agree bound part other) :
    Agree (bound + 1) (grouped part) (grouped other) := by
  apply Agree.behind
  · intro s _ rest taken
    rw [char_split taken]
    exact Nat.lt_succ_self _
  · apply Agree.bind (.refl yields_gap)
    intro _
    apply Agree.bind (agree_disjunction each)
    intro clause
    apply Agree.refl (P := fun _ => True)
    exact .bind yields_gap fun _ _ => .bind (yields_char ')') fun _ _ => .pure trivial

/-- The depth does not matter if it is greater than the length of the text. -/
theorem agree_negation {depth depth' : Nat} (deep : bound ≤ depth) (deep' : bound ≤ depth') :
    Agree bound (negation depth) (negation depth') := by
  induction bound generalizing depth depth' with
  | zero =>
      intro s short
      exact absurd short (Nat.not_lt_zero _)
  | succ bound ih =>
      obtain ⟨depth, rfl⟩ := Nat.exists_eq_succ_of_ne_zero (Nat.ne_zero_of_lt deep)
      obtain ⟨depth', rfl⟩ := Nat.exists_eq_succ_of_ne_zero (Nat.ne_zero_of_lt deep')
      have each := ih (Nat.le_of_succ_le_succ deep) (Nat.le_of_succ_le_succ deep')
      have condition : Yields (bound + 1) (do return .condition (← condition) : Parser Rule Clause)
          fun _ => True :=
        .bind yields_condition fun _ _ => .pure trivial
      exact .rule _ (.firstOf_cons (agree_negated each) (.firstOf_cons (agree_grouped each)
        (.firstOf_cons (.refl condition) (.refl (P := fun _ => True) .firstOf_nil))))

end Depth

end IssueFilter.Grammar
