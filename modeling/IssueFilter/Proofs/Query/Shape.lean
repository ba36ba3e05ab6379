import IssueFilter.Proofs.Query.Clauses

/-! What the grammar can read as a query. Every query that comes out of the parser is shaped, whatever
the text. Moreover no condition on a field that reads as the word NOT has the operator `not in`: NOT is
tried before a condition, and its text would be read as NOT in front of another one. -/
namespace IssueFilter

section Walks

theorem areShaped_iff (children : List Clause) :
    Clause.areShaped children = true ↔ ∀ child ∈ children, child.isShaped = true := by
  induction children with
  | nil => simp [Clause.areShaped]
  | cons child children ih => simp [Clause.areShaped, ih]

theorem mem_conditionsOfList {c : Condition} {children : List Clause} :
    c ∈ Clause.conditionsOfList children ↔ ∃ child ∈ children, c ∈ child.conditions := by
  induction children with
  | nil => simp [Clause.conditionsOfList]
  | cons child children ih => simp [Clause.conditionsOfList, ih]

end Walks

/-- The clauses that come out of the parser. -/
structure Clause.Parsed (clause : Clause) : Prop where
  shaped : clause.isShaped = true
  notDouble : ∀ c ∈ clause.conditions, c.isDoubleNot = false

structure Query.Parsed (query : Query) : Prop where
  shaped : query.isShaped = true
  notDouble : ∀ c ∈ query.conditions, c.isDoubleNot = false

namespace Grammar

open IssueFilter.Parser

section Clauses

/-- AND and OR ask the same of their children. -/
theorem parsed_joined {node : List Clause → Clause}
    (shaped : ∀ children, (node children).isShaped =
      (decide (2 ≤ children.length) && Clause.areShaped children))
    (conditions : ∀ children, (node children).conditions = Clause.conditionsOfList children)
    {first : Clause} {others : List Clause} (each : ∀ child ∈ first :: others, child.Parsed) :
    (joined node (first :: others)).Parsed := by
  cases others with
  | nil => exact each first List.mem_cons_self
  | cons second others =>
      have several : 2 ≤ (first :: second :: others).length := Nat.le_add_left _ _
      refine ⟨?_, fun c member => ?_⟩
      · rw [joined, shaped, decide_eq_true several, Bool.true_and, areShaped_iff]
        · exact fun child member => (each child member).shaped
        · simp
      · rw [joined, conditions, mem_conditionsOfList] at member
        · obtain ⟨child, among, inside⟩ := member
          exact (each child among).notDouble c inside
        · simp

variable {bound : Nat} {part : Parser Rule Clause}

theorem yields_chain {node : List Clause → Clause} {word : Parser Rule Unit}
    (shaped : ∀ children, (node children).isShaped =
      (decide (2 ≤ children.length) && Clause.areShaped children))
    (conditions : ∀ children, (node children).conditions = Clause.conditionsOfList children)
    (separator : Yields bound word fun _ => True)
    (each : Yields bound part Clause.Parsed) :
    Yields bound (chain node word part) Clause.Parsed := by
  have next : Yields bound (do gap; word; gap; part : Parser Rule Clause) Clause.Parsed :=
    .bind yields_gap fun _ _ => .bind separator fun _ _ => .bind yields_gap fun _ _ => each
  refine .bind each fun first parsed => .bind (.many next) fun others all => .pure ?_
  exact parsed_joined shaped conditions (List.forall_mem_cons.mpr ⟨parsed, all⟩)

theorem yields_disjunction (each : Yields bound part Clause.Parsed) :
    Yields bound (disjunction part) Clause.Parsed :=
  .rule _ (yields_chain (fun _ => rfl) (fun _ => rfl) (yields_word .orKeyword Token.length_orWord)
    (.rule _ (yields_chain (fun _ => rfl) (fun _ => rfl)
      (yields_word .andKeyword Token.length_andWord) each)))

theorem negation_of_condition {s rest : List Char} {c : Condition}
    (taken : condition.read s = some (c, rest)) {depth : Nat} (deep : depth ≠ 0) :
    ∃ answer, (negation depth).read s = some answer := by
  obtain ⟨depth, rfl⟩ := Nat.exists_eq_succ_of_ne_zero deep
  have third : (do return .condition (← condition) : Parser Rule Clause).read s =
      some (.condition c, rest) := by
    rw [read_bind, taken]
    rfl
  rw [← Option.isSome_iff_exists, negation, read_rule, read_firstOf_cons, read_firstOf_cons,
    read_firstOf_cons, third, Option.some_or, Option.isSome_or, Option.isSome_or, Option.isSome_some,
    Bool.or_true, Bool.or_true]

theorem yields_negated (each : Yields bound part Clause.Parsed) :
    Yields (bound + 1) (negated part) Clause.Parsed := by
  refine .behind (fun s _ rest taken => Token.length_notWord taken) ?_
  exact .bind yields_gap fun _ _ => .bind each fun _ parsed =>
    .pure ⟨parsed.shaped, parsed.notDouble⟩

theorem yields_grouped (each : Yields bound part Clause.Parsed) :
    Yields (bound + 1) (grouped part) Clause.Parsed := by
  refine .behind (fun s _ rest taken => ?_) ?_
  · rw [char_split taken]
    exact Nat.lt_succ_self _
  · exact .bind yields_gap fun _ _ => .bind (yields_disjunction each) fun _ parsed =>
      .bind yields_gap fun _ _ => .bind (yields_char ')') fun _ _ => .pure parsed

/-- A condition is read only where NOT in front of a condition is not, so it is no double NOT. -/
theorem notDouble_of_not_negated {depth : Nat} {s rest : List Char} {c : Condition}
    (short : s.length < depth + 1) (notNegated : (negated (negation depth)).read s = none)
    (taken : condition.read s = some (c, rest)) : c.isDoubleNot = false := by
  cases double : c.isDoubleNot with
  | false => rfl
  | true =>
      obtain ⟨after, inner, word, again⟩ := not_of_isDoubleNot taken double
      have deep : depth ≠ 0 := by
        have lengths := Token.length_notWord word
        omega
      obtain ⟨answer, read⟩ := negation_of_condition again deep
      rw [negated, read_bind, read_token, word, Option.bind_some, read_bind, read_gap,
        Option.bind_some, read_bind, read] at notNegated
      cases notNegated

/-- A clause that is read is a NOT, stands in parentheses, or is a condition where no NOT is read. -/
theorem negation_split {depth : Nat} {s rest : List Char} {clause : Clause}
    (taken : (negation (depth + 1)).read s = some (clause, rest)) :
    (negated (negation depth)).read s = some (clause, rest) ∨
      (grouped (negation depth)).read s = some (clause, rest) ∨
      (negated (negation depth)).read s = none ∧
        ∃ c, clause = .condition c ∧ condition.read s = some (c, rest) := by
  change (firstOf [negated (negation depth), grouped (negation depth),
    do return .condition (← condition)]).read s = some (clause, rest) at taken
  simp only [read_firstOf_cons, Option.or_eq_some_iff] at taken
  rcases taken with first | ⟨notNegated, second | ⟨-, third | ⟨-, none⟩⟩⟩
  · exact .inl first
  · exact .inr (.inl second)
  · obtain ⟨⟨c, after⟩, condition, same⟩ := Option.bind_eq_some_iff.mp third
    cases same
    exact .inr (.inr ⟨notNegated, c, rfl, condition⟩)
  · cases none

/-- The induction is on the depth, which bounds the length of the text. -/
theorem yields_negation (depth : Nat) : Yields depth (negation depth) Clause.Parsed := by
  induction depth with
  | zero => exact fun s _ _ short => absurd short (Nat.not_lt_zero _)
  | succ depth ih =>
      intro s clause rest short success
      rcases negation_split success with first | second | ⟨notNegated, c, rfl, taken⟩
      · exact yields_negated ih s clause rest short first
      · exact yields_grouped ih s clause rest short second
      · obtain ⟨shaped, left⟩ := yields_condition s c rest short taken
        refine ⟨⟨shaped, fun other member => ?_⟩, left⟩
        obtain rfl := List.mem_singleton.mp member
        exact notDouble_of_not_negated short notNegated taken

end Clauses

section Queries

variable {bound : Nat}

theorem yields_sortKey : Yields bound sortKey fun key => isFieldName key.field = true := by
  refine .rule .sortKey (.bind (yields_token .field Token.isFieldName_of_field) ?_)
  intro field named
  have direction : Yields bound (do gap; token .direction Token.direction : Parser Rule Direction)
      fun _ => True :=
    .bind yields_gap fun _ _ => yields_word .direction Token.length_direction
  exact .bind (.optional (P := fun _ => True) direction trivial) fun _ _ => .pure named

theorem yields_ordering :
    Yields bound ordering fun keys => ∀ key ∈ keys, isFieldName key.field = true :=
  .rule .ordering (.bind (yields_word .orderKeyword Token.length_keywords) fun _ _ =>
    .bind yields_gap fun _ _ => (yields_commaSeparated yields_sortKey).mono fun _ named => named.2)

theorem yields_query (depth : Nat) : Yields depth (query depth) Query.Parsed := by
  have clause : Yields depth (optional (disjunction (negation depth)))
      fun clause => ∀ c, clause = some c → c.Parsed := by
    refine .optional ((yields_disjunction (yields_negation depth)).mono ?_) (by simp)
    rintro c parsed _ ⟨⟩
    exact parsed
  have keys : Yields depth (optional ordering)
      fun keys => ∀ key ∈ keys.getD [], isFieldName key.field = true :=
    .optional yields_ordering (by simp)
  have atEnd : Yields depth (token Rule.endOfText Grammar.atEnd) fun _ => True := by
    refine yields_word .endOfText fun {s _ rest} taken => ?_
    unfold Grammar.atEnd at taken
    split at taken
    · cases taken
      exact Nat.le_refl _
    · cases taken
  refine .rule .query (.bind yields_gap fun _ _ => .bind clause fun clause parsed =>
    .bind yields_gap fun _ _ => .bind keys fun keys named =>
    .bind yields_gap fun _ _ => .bind atEnd fun _ _ => .pure ⟨?_, ?_⟩)
  · rw [Query.isShaped, Bool.and_eq_true, List.all_eq_true]
    refine ⟨?_, named⟩
    cases clause with
    | none => rfl
    | some c => exact (parsed c rfl).shaped
  · intro c member
    cases clause with
    | none => cases member
    | some clause => exact (parsed clause rfl).notDouble c member

end Queries

end Grammar

/-- What comes out of the parser, whatever the text. -/
theorem Query.parsed_of_ofChars {s : List Char} {query : Query}
    (accepted : Query.ofChars s = .ok query) : query.Parsed := by
  unfold ofChars at accepted
  simp only at accepted
  split at accepted
  · rename_i rest taken
    cases accepted
    exact (Grammar.yields_query (s.length + 1) s _ _ (Nat.lt_succ_self _) taken).1
  · cases accepted

end IssueFilter
