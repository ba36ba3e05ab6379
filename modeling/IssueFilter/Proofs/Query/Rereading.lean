import IssueFilter.Proofs.Query.Clauses

/-! What the parser reads where the text of a condition stands. As a rule this is the condition. The
exception is a call of a function by the name IN after the operator `in` and a field that reads as NOT,
as in `not in in("a")`: NOT is tried first, and behind it the parser finds the field `in`, the operator
`in` and a list. No other condition is misread, not even one on the field `not`, since what stands
behind the field is no condition then. -/
namespace IssueFilter

/-- The operand is a call of a function whose name reads as the word IN. -/
def Operand.callsIn : Operand → Bool
  | .call c => c.name.toList.map Char.toLower = "in".toList
  | .single _ | .list _ | .empty => false

theorem Operand.call_of_callsIn {operand : Operand} (callsIn : operand.callsIn = true) :
    ∃ call, operand = .call call ∧ call.name.toList.map Char.toLower = "in".toList := by
  cases operand with
  | call call => exact ⟨call, rfl, of_decide_eq_true callsIn⟩
  | single | list | empty => cases callsIn

theorem Operator.isCallName_of_admits {operator : Operator} {call : Call}
    (admitted : operator.admits (.call call) = true) : isCallName call.name = true := by
  cases operator with
  | is | isNot => cases admitted
  | equals | notEquals | like | notLike | less | lessOrEqual | greater | greaterOrEqual | isIn
  | notIn => simpa [admits, Operand.isSingle, Operand.isEmpty, Operand.isFlatList,
      Operand.isCall] using admitted

/-- The text of the condition is also that of a NOT. -/
def Condition.isAmbiguous (c : Condition) : Bool :=
  c.namesNot && c.operator = .isIn && c.operand.callsIn

/-- What the parser takes the text of the condition for. -/
def Condition.reread (c : Condition) : Clause :=
  match c.operand with
  | .call call =>
    if c.isAmbiguous then
      .not (.condition ⟨"in", .isIn, .list (call.args.map fun arg => .single (.text arg))⟩)
    else .condition c
  | .single _ | .list _ | .empty => .condition c

theorem Condition.reread_eq_iff (c : Condition) :
    c.reread = .condition c ↔ c.isAmbiguous = false := by
  obtain ⟨field, operator, operand⟩ := c
  cases operand with
  | call call =>
      change (if isAmbiguous ⟨field, operator, .call call⟩ = true then _ else _) = _ ↔ _
      cases isAmbiguous ⟨field, operator, .call call⟩ <;> simp
  | single | list | empty => simp [reread, isAmbiguous, Operand.callsIn]

/-- A misread condition is taken for a NOT. -/
theorem Condition.reread_cases (c : Condition) :
    c.reread = .condition c ∨ ∃ d, c.reread = .not (.condition d) ∧ d.field = "in" := by
  obtain ⟨field, operator, operand⟩ := c
  cases operand with
  | call call =>
      change (if isAmbiguous ⟨field, operator, .call call⟩ = true then _ else _) = _ ∨
        ∃ d, (if isAmbiguous ⟨field, operator, .call call⟩ = true then _ else _) = _ ∧ _
      cases isAmbiguous ⟨field, operator, .call call⟩ with
      | true => exact .inr ⟨_, rfl, rfl⟩
      | false => exact .inl rfl
  | single | list | empty => exact .inl rfl

namespace Token

variable {rest : List Char}

theorem symbol_of_other {text : String} {c d : Char} {others : List Char}
    (spelled : text.toList = c :: others) (differ : c ≠ d) : symbol text (d :: rest) = none := by
  have noPrefix : (c :: others).isPrefixOf (d :: rest) = false := by
    rw [List.isPrefixOf, beq_eq_false_iff_ne.mpr differ, Bool.false_and]
  rw [symbol, spelled, noPrefix, if_neg Bool.false_ne_true]

theorem comparison_of_word {d : Char} (isWord : isWordChar d = true) :
    comparison (d :: rest) = none := by
  have differ : ∀ c, isWordChar c = false → c ≠ d := by
    rintro c noWord rfl
    rw [noWord] at isWord
    cases isWord
  rw [comparison, List.findSome?_eq_none_iff]
  intro operator member
  have none : symbol operator.symbol (d :: rest) = none := by
    simp only [comparisons, List.mem_cons, List.not_mem_nil, or_false] at member
    rcases member with rfl | rfl | rfl | rfl | rfl | rfl | rfl | rfl
    all_goals exact symbol_of_other rfl (differ _ rfl)
  rw [none]
  rfl

/-- Two words with blanks between them are not found where a name is followed by a parenthesis. -/
theorem keywords_of_call {first second : String} {text : List Char}
    (letters : first.toList.all isWordChar = true) (all : ∀ c ∈ text, isWordChar c = true) :
    keywords first second (text ++ '(' :: rest) = none := by
  cases found : keywords first second (text ++ '(' :: rest) with
  | none => rfl
  | some answer =>
      obtain ⟨word, d, others, split, lowered, gap, -⟩ := keywords_split found
      have wordChars : ∀ c ∈ word, isWordChar c = true := by
        intro c member
        rw [← isWordChar_toLower]
        exact List.all_eq_true.mp letters _ (lowered ▸ List.mem_map_of_mem member)
      have noWord : isWordChar d = false := by
        cases isWord : isWordChar d with
        | false => rfl
        | true => rw [not_isGap_of_isWordChar isWord] at gap; cases gap
      have left : (text ++ '(' :: rest).dropWhile isWordChar = '(' :: rest :=
        dropWhile_append all (by rintro _ ⟨⟩; rfl)
      have right : (word ++ d :: others).dropWhile isWordChar = d :: others :=
        dropWhile_append wordChars (by rintro _ ⟨⟩; exact noWord)
      rw [split, right] at left
      cases left
      cases gap

end Token

namespace Grammar

open IssueFilter.Parser

section Behind

variable {rest : List Char}

/-- The name of a function with a parenthesis behind it is no operator, unless it is the word IN. -/
theorem comparisons_of_call {c : Call} (named : isCallName c.name = true)
    (notIn : c.name.toList.map Char.toLower ≠ "in".toList) :
    (firstOf comparisons).read (c.chars ++ rest) = none := by
  obtain ⟨nonempty, all⟩ := Token.word_of_isCallName named
  have printed : c.chars ++ rest = c.name.toList ++ '(' :: (", ".toList.intercalate
      (c.args.map fun arg => Quoted.chars arg.toList) ++ ')' :: rest) := by simp [Call.chars]
  rw [printed]
  generalize ", ".toList.intercalate (c.args.map fun arg => Quoted.chars arg.toList) ++
    ')' :: rest = others
  have isComparison : (comparing isOperator [empty]).read (c.name.toList ++ '(' :: others) = none := by
    rw [read_comparing, isOperator, read_firstOf_cons, read_firstOf_cons, read_operator,
      read_operator, Token.keywords_of_call rfl all, Token.keyword_append rfl all rfl]
    split <;> rfl
  have inComparison : (comparing inOperator [callOperand, list]).read
      (c.name.toList ++ '(' :: others) = none := by
    rw [read_comparing, inOperator, read_firstOf_cons, read_firstOf_cons, read_operator,
      read_operator, Token.keywords_of_call rfl all, Token.keyword_append rfl all rfl, if_neg notIn]
    rfl
  have otherComparison : (comparing (token .comparison Token.comparison)
      [callOperand, empty, value]).read (c.name.toList ++ '(' :: others) = none := by
    obtain ⟨d, name, split⟩ := List.exists_cons_of_ne_nil nonempty
    rw [read_comparing, read_token, split, List.cons_append,
      Token.comparison_of_word (all d (split ▸ List.mem_cons_self))]
    rfl
  rw [comparisons, read_firstOf_cons, read_firstOf_cons, read_firstOf_cons, isComparison,
    inComparison, otherComparison]
  rfl

/-- What stands behind the field of a condition begins no clause of its own, but for the words
`not in` and for `in` with a call of a function IN. -/
theorem negation_of_symbol {operator : Operator} {operand : Operand}
    (admitted : operator.admits operand = true) (notNotIn : operator ≠ .notIn)
    (notIn : operator = .isIn → operand.callsIn = false) (depth : Nat) :
    (negation depth).read (operator.symbol.toList ++ ' ' :: (operand.chars ++ rest)) = none := by
  cases depth with
  | zero => rfl
  | succ depth =>
      cases operator with
      | equals | like | less | lessOrEqual | greater | greaterOrEqual => rfl
      | notEquals | notLike => cases depth <;> rfl
      | is | isNot =>
          cases operand with
          | empty => rfl
          | single literal => cases admitted
          | list items => cases admitted
          | call c => cases admitted
      | notIn => exact absurd rfl notNotIn
      | isIn =>
          cases operand with
          | single literal => cases admitted
          | empty => cases admitted
          | list items => rfl
          | call c =>
              have named := Operator.isCallName_of_admits admitted
              have other := of_decide_eq_false (notIn rfl)
              have unread : (firstOf comparisons).read (c.chars ++ rest) = none :=
                comparisons_of_call named other
              have field : Token.field ("in".toList ++ ' ' :: (c.chars ++ rest)) =
                  some ("in", ' ' :: (c.chars ++ rest)) := rfl
              have begins := (call_readsBack named).begins rest
              rw [negation_of_plain rfl rfl, read_condition]
              change ((Token.field ("in".toList ++ ' ' :: (c.chars ++ rest))).bind _).bind _ = none
              rw [field, Option.bind_some, skipGaps_blank, begins, unread]
              rfl

end Behind

section Conditions

variable {c : Condition} {depth : Nat}

theorem chars_eq (c : Condition) (rest : List Char) : c.chars ++ rest =
    c.field.toList ++ ' ' :: (c.operator.symbol.toList ++ ' ' :: (c.operand.chars ++ rest)) := by
  simp [Condition.chars]

theorem notWord_of_namesNot (shaped : c.isShaped = true) (namesNot : c.namesNot = true)
    (rest : List Char) : Token.notWord (c.chars ++ rest) =
      some ((), ' ' :: (c.operator.symbol.toList ++ ' ' :: (c.operand.chars ++ rest))) := by
  rw [Condition.isShaped, Bool.and_eq_true] at shaped
  rw [chars_eq, Token.notWord, Token.either, Token.keyword_append rfl
    (Token.word_of_isFieldName shaped.1).2 rfl, if_pos (of_decide_eq_true namesNot)]
  rfl

/-- NOT is tried first, and given up. -/
theorem negation_of_namesNot (shaped : c.isShaped = true) (namesNot : c.namesNot = true)
    (notDouble : c.isDoubleNot = false) (clear : c.isAmbiguous = false) :
    ReadsBack (negation (depth + 1)) EndsOperand c.chars (.condition c) where
  begins := (condition_readsBack shaped).begins
  reads rest ends := by
    have notNotIn : c.operator ≠ .notIn := by
      simpa [Condition.isDoubleNot, namesNot] using notDouble
    have notIn : c.operator = .isIn → c.operand.callsIn = false := by
      simpa [Condition.isAmbiguous, namesNot] using clear
    have admitted : c.operator.admits c.operand = true := by
      rw [Condition.isShaped, Bool.and_eq_true] at shaped
      exact shaped.2
    have behind : (negation depth).read
        (c.operator.symbol.toList ++ ' ' :: (c.operand.chars ++ rest)) = none :=
      negation_of_symbol admitted notNotIn notIn depth
    simp only [negation, read_rule, read_firstOf_cons, read_bind, read_token,
      notWord_of_namesNot shaped namesNot, Option.bind_some, read_gap, skipGaps_symbol, behind,
      Option.bind_none, Option.none_or, opening_of_condition shaped rest,
      (condition_readsBack shaped).reads rest ends, read_pure, Option.some_or]

/-- The arguments of the call are read as the texts of a list. -/
theorem list_of_arguments (args : List String) (rest : List Char) :
    list.read ('(' :: (", ".toList.intercalate (args.map fun arg => Quoted.chars arg.toList) ++
      ')' :: rest)) = some (.list (args.map fun arg => .single (.text arg)), rest) := by
  have item : ∀ arg ∈ args, ReadsBack (firstOf [callOperand, value]) EndsOperand
      (Quoted.chars arg.toList) (.single (.text arg)) := by
    intro arg _
    refine ⟨fun _ => rfl, fun after _ => ?_⟩
    have noCall : callOperand.read (Quoted.chars arg.toList ++ after) = none := rfl
    simp only [read_firstOf_cons, noCall, Option.none_or, value, read_bind, read_token,
      Token.string_quoted, Option.bind_some, read_pure, Option.some_or, String.ofList_toList]
  have items := read_parenthesised endsOperand_comma args item endsOperand_close (fun _ => rfl) rest
  simp only [list, read_rule, read_bind, items, Option.bind_some, read_pure]

/-- Behind the field that reads as NOT stand a field `in`, an operator `in` and a list. -/
theorem condition_of_call {call : Call} (named : isCallName call.name = true)
    (callsIn : call.name.toList.map Char.toLower = "in".toList) (rest : List Char) :
    condition.read ("in".toList ++ ' ' :: (call.chars ++ rest)) =
      some (⟨"in", .isIn, .list (call.args.map fun arg => .single (.text arg))⟩, rest) := by
  have field : Token.field ("in".toList ++ ' ' :: (call.chars ++ rest)) =
      some ("in", ' ' :: (call.chars ++ rest)) := rfl
  have begins := (call_readsBack named).begins rest
  have printed : call.chars ++ rest = call.name.toList ++ '(' :: (", ".toList.intercalate
      (call.args.map fun arg => Quoted.chars arg.toList) ++ ')' :: rest) := by simp [Call.chars]
  rw [read_condition, field, Option.bind_some, skipGaps_blank, begins, printed]
  generalize skipped : '(' :: (", ".toList.intercalate
    (call.args.map fun arg => Quoted.chars arg.toList) ++ ')' :: rest) = others
  have wordEnd : Token.atWordEnd others = true := by rw [← skipped]; rfl
  have word : Token.keyword "in" (call.name.toList ++ others) = some ((), others) := by
    rw [Token.keyword_append rfl (Token.word_of_isCallName named).2 wordEnd, if_pos callsIn]
  have ofOperand : (firstOf [callOperand, list]).read (Token.skipGaps others) =
      some (.list (call.args.map fun arg => .single (.text arg)), rest) := by
    have noCall : callOperand.read (Token.skipGaps others) = none := by rw [← skipped]; rfl
    have same : Token.skipGaps others = others := by rw [← skipped]; rfl
    rw [read_firstOf_cons, noCall, Option.none_or, read_firstOf_cons, same, ← skipped,
      list_of_arguments call.args rest, Option.some_or]
  rw [isIn_of_keyword word ofOperand]
  rfl

theorem negation_of_ambiguous (shaped : c.isShaped = true) (ambiguous : c.isAmbiguous = true) :
    ReadsBack (negation (depth + 2)) EndsOperand c.chars c.reread where
  begins := (condition_readsBack shaped).begins
  reads rest _ := by
    have names : c.namesNot = true ∧ c.operator = .isIn ∧ c.operand.callsIn = true := by
      simpa [Condition.isAmbiguous, and_assoc] using ambiguous
    have notWord := notWord_of_namesNot shaped names.1 rest
    obtain ⟨field, operator, operand⟩ := c
    obtain ⟨-, rfl, callsIn⟩ := names
    obtain ⟨call, rfl, word⟩ := Operand.call_of_callsIn callsIn
    rw [Condition.isShaped, Bool.and_eq_true] at shaped
    have named := Operator.isCallName_of_admits shaped.2
    have reread : (⟨field, .isIn, .call call⟩ : Condition).reread = .not (.condition
        ⟨"in", .isIn, .list (call.args.map fun arg => .single (.text arg))⟩) :=
      if_pos ambiguous
    have behind : (negation (depth + 1)).read
        ("in".toList ++ ' ' :: (call.chars ++ rest)) = some (.condition
          ⟨"in", .isIn, .list (call.args.map fun arg => .single (.text arg))⟩, rest) := by
      rw [negation_of_plain rfl rfl, condition_of_call named word rest, Option.bind_some]
    have skipped : Token.skipGaps (' ' :: ("in".toList ++ ' ' :: (call.chars ++ rest))) =
        "in".toList ++ ' ' :: (call.chars ++ rest) := rfl
    rw [reread, negation, read_rule, read_firstOf_cons, read_bind, read_token, notWord]
    change ((gap >>= fun _ => negation (depth + 1) >>= fun child => pure (Clause.not child)).read
      (' ' :: ("in".toList ++ ' ' :: (call.chars ++ rest)))).or _ = _
    rw [read_bind, read_gap, skipped, Option.bind_some, read_bind, behind, Option.bind_some,
      read_pure, Option.some_or]

/-- The parser of the language reads what its conditions are taken for. -/
theorem negation_readsParts : ReadsParts negation Condition.reread where
  condition {c} shaped notDouble {depth} long := by
    cases namesNot : c.namesNot with
    | false =>
        have clear : c.isAmbiguous = false := by rw [Condition.isAmbiguous, namesNot]; rfl
        rw [c.reread_eq_iff.mpr clear]
        exact negation_condition shaped (of_decide_eq_false namesNot)
    | true =>
        cases ambiguous : c.isAmbiguous with
        | false =>
            rw [c.reread_eq_iff.mpr ambiguous]
            exact negation_of_namesNot shaped namesNot notDouble ambiguous
        | true =>
            obtain ⟨d, others, split, -⟩ := head_of_condition shaped
            rw [split] at long
            obtain ⟨depth, rfl⟩ := Nat.exists_eq_succ_of_ne_zero (Nat.ne_zero_of_lt long)
            exact negation_of_ambiguous shaped ambiguous
  not _ := negation_not
  group := negation_group
  nothing _ := rfl
  -- BY is no operator.
  ordering _ _ := rfl

end Conditions

end Grammar

end IssueFilter
