import IssueFilter.Proofs.Query.Arguments
import IssueFilter.Proofs.Query.Shape

/-! The word NOT for the name of a field. In front of a condition on such a field NOT is tried
first, on what stands behind the name: on an operator with its operand. Where this attempt fails, it
fails in front of a closing parenthesis too. Most of these texts begin no condition whatever
follows, and the call of a function by the name IN does if its arguments are a list, which does not
depend on what follows. -/
namespace IssueFilter.Grammar

open IssueFilter.Parser

variable {more : List Char}

section Operators

variable {s text after rest : List Char}

theorem isOperator_of_other (word : Token.keyword "is" s = none) : isOperator.read s = none := by
  cases found : isOperator.read s with
  | none => rfl
  | some answer =>
      rcases operator_cases found with ⟨-, words⟩ | ⟨-, itself⟩
      · obtain ⟨after, first, -⟩ := Token.keyword_of_keywords words
        rw [word] at first
        cases first
      · rw [word] at itself
        cases itself

theorem inOperator_of_other (word : Token.keyword "in" s = none)
    (second : ∀ after, Token.keyword "not" s = some ((), after) →
      Token.keyword "in" (Token.skipGaps after) = none) : inOperator.read s = none := by
  cases found : inOperator.read s with
  | none => rfl
  | some answer =>
      rcases operator_cases found with ⟨-, words⟩ | ⟨-, itself⟩
      · obtain ⟨after, first, later⟩ := Token.keyword_of_keywords words
        rw [second after first] at later
        cases later
      · rw [word] at itself
        cases itself

/-- A word is no comparison if it is none of the operators. -/
theorem comparisons_of_word (first : Token.FirstWord s text after)
    (isNone : isOperator.read s = none) (inNone : inOperator.read s = none) :
    (firstOf comparisons).read s = none := by
  obtain ⟨c, others, rfl, isWord⟩ := first.head
  have signNone : (token Rule.comparison Token.comparison).read (c :: others) = none :=
    Token.comparison_of_word isWord
  have none : (firstOf [] : Parser Rule (Operator × Operand)).read (c :: others) = none := rfl
  simp only [comparisons, read_firstOf_cons, comparing_of_none isNone, comparing_of_none inNone,
    comparing_of_none signNone, none, Option.or_none]

/-- EMPTY and NULL are no other keywords. -/
theorem keyword_of_empty (taken : Token.emptyWord s = some ((), rest)) {word : String}
    (letters : word.toList.all isWordChar = true) (notEmpty : "empty".toList ≠ word.toList)
    (notNull : "null".toList ≠ word.toList) : Token.keyword word (s ++ ')' :: more) = none := by
  obtain ⟨text, first, lowered⟩ := Token.firstWord_of_emptyWord taken
  rw [(first.close more).keyword_eq letters, if_neg]
  rcases lowered with same | same
  · rwa [same]
  · rwa [same]

theorem comparisons_of_empty (taken : Token.emptyWord s = some ((), rest)) :
    (firstOf comparisons).read (s ++ ')' :: more) = none := by
  obtain ⟨text, first, -⟩ := Token.firstWord_of_emptyWord taken
  apply comparisons_of_word (first.close more)
  · exact isOperator_of_other (keyword_of_empty taken rfl (by decide) (by decide))
  · apply inOperator_of_other (keyword_of_empty taken rfl (by decide) (by decide))
    intro behind word
    rw [keyword_of_empty taken rfl (by decide) (by decide)] at word
    cases word

/-- NOT begins a comparison only in front of IN. -/
theorem comparisons_of_not_empty (word : Token.keyword "not" s = some ((), after))
    (taken : Token.emptyWord (Token.skipGaps after) = some ((), rest)) :
    (firstOf comparisons).read (s ++ ')' :: more) = none := by
  obtain ⟨text, first, lowered⟩ := Token.firstWord_of_keyword rfl (by decide) word
  have longer := first.close more
  apply comparisons_of_word longer
  · apply isOperator_of_other
    rw [longer.keyword_eq rfl, if_neg (by rw [lowered]; decide)]
  · apply inOperator_of_other
    · rw [longer.keyword_eq rfl, if_neg (by rw [lowered]; decide)]
    · intro behind itself
      rw [longer.keyword_eq rfl, if_pos lowered] at itself
      cases itself
      rw [Token.skipGaps_close]
      exact keyword_of_empty taken rfl (by decide) (by decide)

end Operators

section Calls

variable {s rest : List Char} {c : Call}

/-- A call begins with a word and a parenthesis behind it. -/
theorem call_split (taken : call.read s = some (c, rest)) : ∃ after inside,
    Token.FirstWord s c.name.toList after ∧ Token.skipGaps after = '(' :: inside ∧
      (parenthesised argument).read ('(' :: inside) = some (c.args, rest) := by
  rw [call, read_rule, read_bind, Option.bind_eq_some_iff] at taken
  obtain ⟨⟨name, after⟩, ofName, taken⟩ := taken
  rw [read_bind, read_gap, Option.bind_some, read_bind, Option.bind_eq_some_iff] at taken
  obtain ⟨⟨args, last⟩, ofArguments, same⟩ := taken
  cases same
  obtain ⟨split, -⟩ := Token.name_split ofName
  obtain ⟨inside, opening⟩ := opening_of_parenthesised ofArguments
  obtain ⟨nonempty, word⟩ := Token.word_of_isCallName (Token.isCallName_of_callName ofName).1
  have wordEnd : Token.atWordEnd after = true := by
    cases after with
    | nil => rfl
    | cons d after =>
        cases isWord : isWordChar d with
        | false => rw [Token.atWordEnd, isWord]; rfl
        | true =>
            rw [Token.skipGaps_word isWord] at opening
            cases opening
            cases isWord
  refine ⟨after, inside, ⟨split, nonempty, word, wordEnd⟩, opening, ?_⟩
  rwa [← opening]

/-- Whether a comparison begins with the name of a function is clear from the call. -/
theorem comparisons_of_call_blindAt (taken : call.read s = some (c, rest)) :
    BlindAt (')' :: more) s (firstOf comparisons).read := by
  obtain ⟨after, inside, first, opening, arguments⟩ := call_split taken
  have operand : ∀ op behind, inOperator.read s = some (op, behind) → behind = after := by
    intro op behind found
    rcases operator_cases found with ⟨-, words⟩ | ⟨-, word⟩
    · obtain ⟨middle, word, second⟩ := Token.keyword_of_keywords words
      obtain ⟨name, again, -⟩ := Token.firstWord_of_keyword rfl (by decide) word
      rw [(again.unique first).2, opening] at second
      cases second
    · obtain ⟨name, again, -⟩ := Token.firstWord_of_keyword rfl (by decide) word
      exact (again.unique first).2
  have members : BlindAt (')' :: more) ('(' :: inside) (firstOf [callOperand, list]).read :=
    .firstOf_cons (.of_fails rfl rfl) (.firstOf_cons (list_blindAt arguments) (Blind.firstOf_nil _))
  have signs : ∀ tail, (token Rule.comparison Token.comparison).read (s ++ tail) = none := by
    obtain ⟨d, others, rfl, isWord⟩ := first.head
    exact fun tail => Token.comparison_of_word isWord
  have inComparing : BlindAt (')' :: more) s (comparing inOperator [callOperand, list]).read := by
    refine .bind (blind_inOperator s) fun op behind found => ?_
    rw [operand op behind found]
    refine .bind (blind_gap after) fun _ middle skipped => ?_
    cases skipped
    rw [opening]
    exact .bind members fun operand last _ => Blind.pure (op, operand) last
  refine .firstOf_cons (blind_isComparing s) (.firstOf_cons inComparing (.firstOf_cons
    (.of_fails ?_ ?_) (Blind.firstOf_nil s)))
  · rw [← List.append_nil s]
    exact comparing_of_none (signs [])
  · exact comparing_of_none (signs _)

end Calls

section Negations

variable {s text after rest : List Char} {depth : Nat}

/-- A word of letters begins a clause as the field of a condition only, if it is not NOT. -/
theorem negation_of_firstWord (first : Token.FirstWord s text after)
    (letters : (text.map Char.toLower).all Char.isLower = true)
    (notNot : text.map Char.toLower ≠ "not".toList) :
    (negation (depth + 1)).read s = ((firstOf comparisons).read (Token.skipGaps after)).bind
      fun compared => some (.condition ⟨String.ofList text, compared.1.1, compared.1.2⟩,
        compared.2) := by
  obtain ⟨c, others, same, isWord⟩ := first.head
  have notWord : Token.notWord s = none := by
    rw [Token.notWord, Token.either, first.keyword_eq rfl, if_neg notNot, same,
      symbol_of_word isWord]
    rfl
  have opening : (char '(' : Parser Rule Unit).read s = none := by
    rw [same]
    refine read_char_other ?_ others
    rintro rfl
    cases isWord
  rw [negation_of_plain notWord opening, read_condition, first.field letters, Option.bind_some,
    Option.bind_assoc]
  rfl

/-- A comparison sign begins no clause, and neither does what is left of it behind a `!`. -/
theorem negation_of_sign {op : Operator} (sign : op ∈ Token.comparisons) :
    (negation depth).read (op.symbol.toList ++ rest) = none := by
  simp only [Token.comparisons, List.mem_cons, List.not_mem_nil, or_false] at sign
  cases depth with
  | zero => rfl
  | succ depth =>
      rcases sign with rfl | rfl | rfl | rfl | rfl | rfl | rfl | rfl
      · cases depth <;> rfl
      · cases depth <;> rfl
      all_goals rfl

/-- The word IS can only be a field, and then it has to be compared with what stands behind it. -/
theorem negation_of_is (word : Token.keyword "is" s = some ((), after))
    (unread : (firstOf comparisons).read (Token.skipGaps after ++ ')' :: more) = none) :
    (negation depth).read (s ++ ')' :: more) = none := by
  cases depth with
  | zero => rfl
  | succ depth =>
      obtain ⟨text, first, lowered⟩ := Token.firstWord_of_keyword rfl (by decide) word
      rw [negation_of_firstWord (first.close more) (by rw [lowered]; rfl) (by rw [lowered]; decide),
        Token.skipGaps_close, unread, Option.bind_none]

theorem negation_of_isComparing {op : Operator} {operand : Operand}
    (taken : (comparing isOperator [empty]).read s = some ((op, operand), rest)) :
    (negation depth).read (s ++ ')' :: more) = none := by
  obtain ⟨after, ofOperator, ofOperand⟩ := comparing_split taken
  have empty : Token.emptyWord (Token.skipGaps after) = some ((), rest) := by
    rw [read_firstOf_single] at ofOperand
    obtain ⟨⟨_, last⟩, word, same⟩ := Option.bind_eq_some_iff.mp ofOperand
    cases same
    exact word
  rcases operator_cases ofOperator with ⟨-, words⟩ | ⟨-, word⟩
  · obtain ⟨middle, word, second⟩ := Token.keyword_of_keywords words
    exact negation_of_is word (comparisons_of_not_empty second empty)
  · exact negation_of_is word (comparisons_of_empty empty)

theorem negation_of_isIn {operand : Operand} (word : Token.keyword "in" s = some ((), after))
    (taken : (firstOf [callOperand, list]).read (Token.skipGaps after) = some (operand, rest))
    (failure : (negation depth).read s = none) :
    (negation depth).read (s ++ ')' :: more) = none := by
  cases depth with
  | zero => rfl
  | succ depth =>
      obtain ⟨text, first, lowered⟩ := Token.firstWord_of_keyword rfl (by decide) word
      have letters : (text.map Char.toLower).all Char.isLower = true := by
        rw [lowered]
        rfl
      have notNot : text.map Char.toLower ≠ "not".toList := by
        rw [lowered]
        decide
      have blind : BlindAt (')' :: more) (Token.skipGaps after) (firstOf comparisons).read := by
        rw [read_firstOf_cons, read_firstOf_single, Option.or_eq_some_iff] at taken
        rcases taken with ofCall | ⟨-, ofList⟩
        · obtain ⟨⟨c, last⟩, called, -⟩ := Option.bind_eq_some_iff.mp ofCall
          exact comparisons_of_call_blindAt called
        · obtain ⟨inside, same⟩ := opening_of_list ofList
          rw [same]
          exact .of_fails rfl rfl
      have unread : (firstOf comparisons).read (Token.skipGaps after) = none := by
        rw [negation_of_firstWord first letters notNot, Option.bind_eq_none_iff] at failure
        cases found : (firstOf comparisons).read (Token.skipGaps after) with
        | none => rfl
        | some compared => cases failure compared found
      rw [negation_of_firstWord (first.close more) letters notNot, Token.skipGaps_close,
        blind.fails unread, Option.bind_none]

/-- What stands behind the name of a field begins no clause in front of a parenthesis either. -/
theorem negation_of_compared {op : Operator} {operand : Operand}
    (taken : (firstOf comparisons).read s = some ((op, operand), rest)) (notNotIn : op ≠ .notIn)
    (failure : (negation depth).read s = none) :
    (negation depth).read (s ++ ')' :: more) = none := by
  simp only [comparisons, read_firstOf_cons, Option.or_eq_some_iff] at taken
  rcases taken with isOne | ⟨-, inOne | ⟨-, otherOne | ⟨-, none⟩⟩⟩
  · exact negation_of_isComparing isOne
  · obtain ⟨after, ofOperator, ofOperand⟩ := comparing_split inOne
    rcases operator_cases ofOperator with ⟨rfl, -⟩ | ⟨-, word⟩
    · exact absurd rfl notNotIn
    · exact negation_of_isIn word ofOperand failure
  · obtain ⟨after, ofOperator, -⟩ := comparing_split otherOne
    obtain ⟨sign, rfl⟩ := Token.comparison_split ofOperator
    rw [List.append_assoc]
    exact negation_of_sign sign
  · cases none

theorem read_negated (part : Parser Rule Clause) (s : List Char) : (negated part).read s =
    (Token.notWord s).bind fun word =>
      (part.read (Token.skipGaps word.2)).bind fun clause => some (.not clause.1, clause.2) := rfl

theorem negated_eq_none_iff {part : Parser Rule Clause} (word : Token.notWord s = some ((), after)) :
    (negated part).read s = none ↔ part.read (Token.skipGaps after) = none := by
  rw [read_negated, word, Option.bind_some]
  cases part.read (Token.skipGaps after) with
  | none => simp
  | some clause => simp

/-- NOT can be read in front of a condition only where it is the name of the field. -/
theorem field_of_notWord {field : String} (ofField : Token.field s = some (field, rest))
    (word : Token.notWord s = some ((), after)) :
    rest = after ∧ field.toList.map Char.toLower = "not".toList := by
  rcases Token.either_cases word with word | sign
  · obtain ⟨text, first, lowered⟩ := Token.firstWord_of_keyword rfl (by decide) word
    rw [first.field (by rw [lowered]; rfl)] at ofField
    cases ofField
    exact ⟨rfl, by rw [String.toList_ofList, lowered]⟩
  · rw [Token.symbol_split sign] at ofField
    cases ofField

/-- The word NOT that was tried in front of a condition fails in front of a parenthesis too. -/
theorem negated_of_condition {c : Condition} (taken : condition.read s = some (c, rest))
    (failure : (negated (negation depth)).read s = none) :
    (negated (negation depth)).read (s ++ ')' :: more) = none := by
  cases word : Token.notWord s with
  | none => rw [read_negated, Token.blind_notWord.fails word, Option.bind_none]
  | some answer =>
      obtain ⟨_, after⟩ := answer
      have longer : Token.notWord (s ++ ')' :: more) = some ((), after ++ ')' :: more) :=
        BlindAt.reads (Token.blind_notWord s) word
      rw [negated_eq_none_iff word] at failure
      rw [negated_eq_none_iff longer, Token.skipGaps_close]
      by_cases double : c.isDoubleNot = true
      · -- Behind NOT the rest of a double NOT is a condition, so only the depth can have failed.
        obtain ⟨behind, inner, again, read⟩ := not_of_isDoubleNot taken double
        cases word.symm.trans again
        cases depth with
        | zero => rfl
        | succ depth =>
            obtain ⟨clause, found⟩ := negation_of_condition read (Nat.succ_ne_zero depth)
            rw [found] at failure
            cases failure
      · rw [read_condition, Option.bind_eq_some_iff] at taken
        obtain ⟨⟨field, behind⟩, ofField, taken⟩ := taken
        obtain ⟨⟨⟨op, operand⟩, last⟩, compared, same⟩ := Option.bind_eq_some_iff.mp taken
        cases same
        obtain ⟨rfl, namesNot⟩ := field_of_notWord ofField word
        refine negation_of_compared compared ?_ failure
        rintro rfl
        apply double
        rw [Condition.isDoubleNot, Condition.namesNot, decide_eq_true namesNot]
        rfl

end Negations

end IssueFilter.Grammar
