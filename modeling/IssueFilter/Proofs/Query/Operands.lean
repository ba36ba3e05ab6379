import IssueFilter.Proofs.Query.Sequences

/-! Reading conditions back. Whether a text was written bare or quoted decides which alternative of
an operand reads it: a quoted text is a string, a numeral a number, and a bare text, which is no
numeral and not reserved, a word. No literal passes for a call as long as no parenthesis follows. -/
namespace IssueFilter

/-- A word that the grammar gives no meaning of its own. -/
structure IsPlainWord (text : List Char) : Prop where
  nonempty : text ≠ []
  word : ∀ c ∈ text, isWordChar c = true
  unreserved : text.map Char.toLower ∉ reservedWords

theorem isPlainWord_chars (n : UInt64) : IsPlainWord (Numeral.chars n) where
  nonempty := Numeral.chars_ne_nil n
  word _ member := isWordChar_of_isDigit (Numeral.isDigit_of_mem_chars member)
  unreserved reserved := by
    have letter : ∀ word ∈ reservedWords, word.all Char.isDigit = false := by decide
    have lowered : (Numeral.chars n).map Char.toLower = Numeral.chars n := by
      rw [List.map_congr_left fun c member =>
        toLower_of_isDigit (Numeral.isDigit_of_mem_chars member), List.map_id']
    have digits : (Numeral.chars n).all Char.isDigit = true :=
      List.all_eq_true.mpr fun _ => Numeral.isDigit_of_mem_chars
    rw [lowered] at reserved
    rw [letter _ reserved] at digits
    cases digits

theorem isBareText_iff (text : List Char) :
    isBareText text = true ↔ IsPlainWord text ∧ text.all Char.isDigit = false := by
  simp only [isBareText, Bool.and_eq_true, Bool.not_eq_true', List.isEmpty_eq_false_iff,
    List.all_eq_true, List.contains_eq_mem, decide_eq_false_iff_not]
  constructor
  · rintro ⟨⟨⟨nonempty, word⟩, unreserved⟩, notDigits⟩
    exact ⟨⟨nonempty, word, unreserved⟩, notDigits⟩
  · rintro ⟨⟨nonempty, word, unreserved⟩, notDigits⟩
    exact ⟨⟨⟨nonempty, word⟩, unreserved⟩, notDigits⟩

/-- A literal is written as a plain word or quoted. -/
theorem Literal.chars_cases (literal : Literal) :
    IsPlainWord literal.chars ∨ ∃ text, literal.chars = Quoted.chars text := by
  cases literal with
  | number n => exact .inl (isPlainWord_chars n)
  | text s =>
      by_cases bare : isBareText s.toList = true
      · rw [Literal.chars, textChars, if_pos bare]
        exact .inl ((isBareText_iff _).mp bare).1
      · rw [Literal.chars, textChars, if_neg bare]
        exact .inr ⟨s.toList, rfl⟩

namespace Grammar

open IssueFilter.Parser

/-- What an operand needs of the text after it: nothing that prolongs a word or makes it a call. -/
structure EndsOperand (rest : List Char) : Prop where
  wordEnd : Token.atWordEnd rest = true
  noCall : Token.NoCall rest

theorem endsOperand_comma (rest : List Char) : EndsOperand (',' :: rest) :=
  ⟨rfl, by rintro ⟨⟩⟩

theorem endsOperand_close (rest : List Char) : EndsOperand (')' :: rest) :=
  ⟨rfl, by rintro ⟨⟩⟩

section Calls

theorem argument_readsBack (arg : String) :
    ReadsBack argument (fun _ => True) (Quoted.chars arg.toList) arg where
  begins _ := rfl
  reads rest _ := by
    simp only [argument, read_firstOf_cons, read_token, Token.string_quoted, Option.some_or,
      String.ofList_toList]

theorem call_readsBack {c : Call} (named : isCallName c.name = true) :
    ReadsBack call (fun _ => True) c.chars c where
  begins rest := by
    obtain ⟨nonempty, all⟩ := Token.word_of_isCallName named
    rw [Call.chars, List.append_assoc]
    exact Token.skipGaps_append nonempty all _
  reads rest _ := by
    have arguments : (parenthesised argument).read
        ('(' :: (", ".toList.intercalate (c.args.map fun arg => Quoted.chars arg.toList) ++
          ')' :: rest)) = some (c.args, rest) := by
      have read := read_parenthesised (fun _ => trivial) c.args
        (fun arg _ => argument_readsBack arg) (fun _ => trivial) (fun _ => rfl) rest
      rwa [List.map_id'] at read
    have printed : c.chars ++ rest = c.name.toList ++
        '(' :: (", ".toList.intercalate (c.args.map fun arg => Quoted.chars arg.toList) ++
          ')' :: rest) := by simp [Call.chars]
    have opening : ∀ s, Token.skipGaps ('(' :: s) = '(' :: s := fun _ => rfl
    rw [printed]
    simp only [call, read_rule, read_bind, read_token, Token.callName_open named,
      Option.bind_some, read_gap, opening, arguments, read_pure]

theorem parenthesised_of_noCall {α : Type} (item : Parser Rule α) {rest : List Char}
    (noCall : Token.NoCall rest) : (parenthesised item).read (Token.skipGaps rest) = none := by
  have failure : (char '(' : Parser Rule Unit).read (Token.skipGaps rest) = none := by
    unfold Token.NoCall at noCall
    cases after : Token.skipGaps rest with
    | nil => rfl
    | cons c rest =>
        rw [after] at noCall
        exact read_char_other (fun same => noCall (congrArg some same)) rest
  rw [parenthesised, read_bind, failure]
  rfl

/-- A text without quotes and parentheses is no call unless a parenthesis comes next. -/
theorem call_of_bare {text rest : List Char} (nonempty : text ≠ [])
    (all : ∀ c ∈ text, Token.isBareArgumentChar c = true)
    (stops : Token.Stops (fun c => c.isAlphanum || c = '_') rest) (noCall : Token.NoCall rest) :
    call.read (text ++ rest) = none := by
  cases text with
  | nil => exact absurd rfl nonempty
  | cons c text =>
      have others : ∀ d ∈ text, Token.isBareArgumentChar d = true :=
        fun d member => all d (List.mem_cons_of_mem c member)
      have failure := parenthesised_of_noCall argument (Token.noCall_dropWhile others stops noCall)
      rw [List.cons_append, call, read_rule, read_bind, read_token, Token.callName, Token.name]
      split
      · simp only [Option.bind_some, read_bind, read_gap, failure, Option.bind_none]
      · rfl

theorem call_of_word {text rest : List Char} (nonempty : text ≠ [])
    (all : ∀ c ∈ text, isWordChar c = true) (ends : EndsOperand rest) :
    call.read (text ++ rest) = none := by
  refine call_of_bare nonempty (fun c member => isBareArgumentChar_of_isWordChar (all c member)) ?_
    ends.noCall
  exact (Token.stops_of_atWordEnd ends.wordEnd).mono fun _ => isWordChar_of_callNameChar

theorem callOperand_readsBack {c : Call} (named : isCallName c.name = true) :
    ReadsBack callOperand EndsOperand c.chars (.call c) where
  begins := (call_readsBack named).begins
  reads rest _ := by
    simp only [callOperand, read_bind, (call_readsBack named).reads rest trivial, Option.bind_some,
      read_pure]

theorem callOperand_of_call {s : List Char} (failure : call.read s = none) :
    callOperand.read s = none := by rw [callOperand, read_bind, failure, Option.bind_none]

end Calls

section Literals

variable {rest : List Char}

theorem skipGaps_literal (literal : Literal) (rest : List Char) :
    Token.skipGaps (literal.chars ++ rest) = literal.chars ++ rest := by
  rcases literal.chars_cases with plain | ⟨text, quoted⟩
  · exact Token.skipGaps_append plain.nonempty plain.word rest
  · rw [quoted]
    rfl

theorem callOperand_of_literal (literal : Literal) (ends : EndsOperand rest) :
    callOperand.read (literal.chars ++ rest) = none := by
  refine callOperand_of_call ?_
  rcases literal.chars_cases with plain | ⟨text, quoted⟩
  · exact call_of_word plain.nonempty plain.word ends
  · rw [quoted]
    rfl

theorem empty_of_literal (literal : Literal) (ends : EndsOperand rest) :
    empty.read (literal.chars ++ rest) = none := by
  have scanned : Token.emptyWord (literal.chars ++ rest) = none := by
    rcases literal.chars_cases with plain | ⟨text, quoted⟩
    · exact Token.emptyWord_of_word plain.word plain.unreserved ends.wordEnd
    · rw [quoted]
      rfl
  rw [empty, read_bind, read_token, scanned]
  rfl

theorem string_of_plain {text : List Char} (plain : IsPlainWord text) :
    Token.string (text ++ rest) = none := by
  have nonempty := plain.nonempty
  cases text with
  | nil => exact absurd rfl nonempty
  | cons c text =>
      have bare := isBareArgumentChar_of_isWordChar (plain.word c List.mem_cons_self)
      exact Token.string_of_bare bare (text ++ rest)

theorem value_readsBack (literal : Literal) :
    ReadsBack value EndsOperand literal.chars (.single literal) where
  begins := skipGaps_literal literal
  reads rest ends := by
    cases literal with
    | number n =>
        simp only [value, Literal.chars, read_bind, read_firstOf_cons, read_token,
          string_of_plain (isPlainWord_chars n), Option.bind_none, Option.none_or,
          Token.number_chars n ends.wordEnd, Option.some_or, Option.bind_some, read_pure]
    | text s =>
        by_cases bare : isBareText s.toList = true
        · rw [Literal.chars, textChars, if_pos bare]
          obtain ⟨plain, notDigits⟩ := (isBareText_iff _).mp bare
          simp only [value, read_bind, read_firstOf_cons, read_token, string_of_plain plain,
            Option.bind_none, Option.none_or, Token.number_of_word plain.word notDigits,
            Token.word_append plain.nonempty plain.word ends.wordEnd, Option.some_or,
            Option.bind_some, read_pure, String.ofList_toList]
        · rw [Literal.chars, textChars, if_neg bare]
          simp only [value, read_bind, read_firstOf_cons, read_token, Token.string_quoted,
            Option.bind_some, read_pure, Option.some_or, String.ofList_toList]

end Literals

section Operands

variable {operand : Operand}

theorem charsOfList_eq_map (items : List Operand) :
    Operand.charsOfList items = items.map Operand.chars := by
  induction items with
  | nil => rfl
  | cons item items ih => rw [Operand.charsOfList, ih, List.map_cons]

theorem item_readsBack (shaped : (operand.isSingle || operand.isCall) = true) :
    ReadsBack (firstOf [callOperand, value]) EndsOperand operand.chars operand := by
  cases operand with
  | single literal =>
      exact (value_readsBack literal).first.later fun _ => callOperand_of_literal literal
  | call c =>
      have named : isCallName c.name = true := shaped
      exact (callOperand_readsBack named).first
  | list items => cases shaped
  | empty => cases shaped

theorem list_readsBack {items : List Operand} (flat : (Operand.list items).isFlatList = true) :
    ReadsBack list EndsOperand (Operand.list items).chars (.list items) where
  begins _ := rfl
  reads rest _ := by
    have each : ∀ item ∈ items,
        ReadsBack (firstOf [callOperand, value]) EndsOperand item.chars item :=
      fun item member => item_readsBack (List.all_eq_true.mp flat item member)
    have parenthesised := read_parenthesised endsOperand_comma items each endsOperand_close
      (fun _ => rfl) rest
    have printed : (Operand.list items).chars ++ rest =
        '(' :: (", ".toList.intercalate (items.map Operand.chars) ++ ')' :: rest) := by
      simp [Operand.chars, charsOfList_eq_map]
    rw [printed]
    simp only [list, read_rule, read_bind, parenthesised, List.map_id', Option.bind_some, read_pure]

theorem empty_readsBack : ReadsBack empty EndsOperand Operand.empty.chars .empty where
  begins _ := rfl
  reads rest ends := by
    have scanned : Token.emptyWord ("EMPTY".toList ++ rest) = some ((), rest) := by
      rw [Token.emptyWord, Token.either,
        Token.keyword_append rfl (List.all_eq_true.mp rfl) ends.wordEnd, if_pos (by decide)]
      rfl
    simp only [Operand.chars, empty, read_bind, read_token, scanned, Option.bind_some, read_pure]

theorem callOperand_of_empty {rest : List Char} (ends : EndsOperand rest) :
    callOperand.read (Operand.empty.chars ++ rest) = none :=
  callOperand_of_call (call_of_word (by decide) (List.all_eq_true.mp rfl) ends)

/-- The alternatives of the operand of an operator, in the order of the grammar. -/
def operandsOf : Operator → List (Parser Rule Operand)
  | .is | .isNot => [empty]
  | .isIn | .notIn => [callOperand, list]
  | .equals | .notEquals | .like | .notLike | .less | .lessOrEqual | .greater | .greaterOrEqual =>
    [callOperand, empty, value]

theorem compared_readsBack
    (admitted : (operand.isSingle || operand.isCall || operand.isEmpty) = true) :
    ReadsBack (firstOf [callOperand, empty, value]) EndsOperand operand.chars operand := by
  cases operand with
  | single literal =>
      have afterEmpty : ReadsBack (firstOf [empty, value]) EndsOperand literal.chars
          (.single literal) :=
        (value_readsBack literal).first.later fun _ => empty_of_literal literal
      exact afterEmpty.later fun _ => callOperand_of_literal literal
  | call c =>
      have named : isCallName c.name = true := by
        simpa [Operand.isSingle, Operand.isEmpty, Operand.isCall] using admitted
      exact (callOperand_readsBack named).first
  | list items => cases admitted
  | empty => exact empty_readsBack.first.later fun _ => callOperand_of_empty

theorem member_readsBack (admitted : (operand.isCall || operand.isFlatList) = true) :
    ReadsBack (firstOf [callOperand, list]) EndsOperand operand.chars operand := by
  cases operand with
  | single literal => cases admitted
  | call c =>
      have named : isCallName c.name = true := by
        simpa [Operand.isFlatList, Operand.isCall] using admitted
      exact (callOperand_readsBack named).first
  | list items => exact (list_readsBack admitted).first.later fun _ _ => rfl
  | empty => cases admitted

theorem operand_readsBack {operator : Operator} (admitted : operator.admits operand = true) :
    ReadsBack (firstOf (operandsOf operator)) EndsOperand operand.chars operand := by
  cases operator with
  | isIn | notIn => exact member_readsBack admitted
  | is | isNot =>
      cases operand with
      | empty => exact empty_readsBack.first
      | single literal => cases admitted
      | list items => cases admitted
      | call c => cases admitted
  | equals | notEquals | like | notLike | less | lessOrEqual | greater | greaterOrEqual =>
      exact compared_readsBack admitted

end Operands

section Conditions

theorem skipGaps_symbol (operator : Operator) (rest : List Char) :
    Token.skipGaps (' ' :: (operator.symbol.toList ++ rest)) = operator.symbol.toList ++ rest := by
  cases operator <;> rfl

theorem comparing_readsBack {operators : Parser Rule Operator}
    {operands : List (Parser Rule Operand)} {operator : Operator} {operand : Operand}
    {text : List Char}
    (reads : ∀ rest, operators.read (operator.symbol.toList ++ ' ' :: (text ++ rest)) =
      some (operator, ' ' :: (text ++ rest)))
    (readsBack : ReadsBack (firstOf operands) EndsOperand text operand) :
    ReadsBack (comparing operators operands) EndsOperand
      (operator.symbol.toList ++ ' ' :: text) (operator, operand) where
  begins rest := by
    rw [List.append_assoc, List.cons_append, ← skipGaps_blank]
    exact skipGaps_symbol operator _
  reads rest ends := by
    rw [List.append_assoc, List.cons_append]
    simp only [comparing, read_bind, reads, Option.bind_some, read_gap, skipGaps_blank,
      readsBack.begins, readsBack.reads rest ends, read_pure]

theorem comparing_of_none {operators : Parser Rule Operator}
    {operands : List (Parser Rule Operand)} {s : List Char} (fails : operators.read s = none) :
    (comparing operators operands).read s = none := by
  rw [comparing, read_bind, fails, Option.bind_none]

/-- The kinds of comparison that a condition can consist in. -/
def comparisons : List (Parser Rule (Operator × Operand)) :=
  [comparing isOperator [empty], comparing inOperator [callOperand, list],
    comparing (token .comparison Token.comparison) [callOperand, empty, value]]

/-- A comparison operator is read by the last alternative, however its operand is written. -/
theorem comparison_readsBack {operator : Operator} (compares : operator ∈ Token.comparisons)
    {operand : Operand} {text : List Char}
    (readsBack : ReadsBack (firstOf [callOperand, empty, value]) EndsOperand text operand) :
    ReadsBack (firstOf comparisons) EndsOperand (operator.symbol.toList ++ ' ' :: text)
      (operator, operand) := by
  simp only [Token.comparisons, List.mem_cons, List.not_mem_nil, or_false] at compares
  rcases compares with rfl | rfl | rfl | rfl | rfl | rfl | rfl | rfl
  all_goals
    refine .later (.later (.first (comparing_readsBack (fun _ => rfl) readsBack)) ?_) ?_
    · exact fun _ _ => comparing_of_none rfl
    · exact fun _ _ => comparing_of_none rfl

/-- A symbol is read by the alternative that has its operands, after those before it failed: `is`
could begin `is not`, but is not followed by that word. -/
theorem comparisons_readsBack {operator : Operator} {operand : Operand}
    (admitted : operator.admits operand = true) :
    ReadsBack (firstOf comparisons) EndsOperand
      (operator.symbol.toList ++ ' ' :: operand.chars) (operator, operand) := by
  have readsBack := operand_readsBack admitted
  cases operator with
  | is =>
      cases operand with
      | empty => exact (comparing_readsBack (fun _ => rfl) readsBack).first
      | single literal => cases admitted
      | list items => cases admitted
      | call c => cases admitted
  | isNot => exact (comparing_readsBack (fun _ => rfl) readsBack).first
  | isIn | notIn =>
      refine .later (.first (comparing_readsBack (fun _ => rfl) readsBack)) ?_
      exact fun _ _ => comparing_of_none rfl
  | equals | notEquals | like | notLike | less | lessOrEqual | greater | greaterOrEqual =>
      exact comparison_readsBack (by decide) readsBack

/-- A field, a blank and what is read as a comparison. -/
theorem condition_of_compared {field : String} (named : isFieldName field = true)
    {operator : Operator} {operand : Operand} {text : List Char}
    (compared : ReadsBack (firstOf comparisons) EndsOperand text (operator, operand)) :
    ReadsBack condition EndsOperand (field.toList ++ ' ' :: text) ⟨field, operator, operand⟩ where
  begins rest := by
    obtain ⟨nonempty, all⟩ := Token.word_of_isFieldName named
    rw [List.append_assoc]
    exact Token.skipGaps_append nonempty all _
  reads rest ends := by
    rw [List.append_assoc, List.cons_append]
    simp only [condition, read_rule, read_bind, read_token, Token.field_blank named,
      Option.bind_some, read_gap, skipGaps_blank, compared.begins]
    have found := compared.reads rest ends
    rw [comparisons] at found
    rw [found]
    rfl

theorem condition_readsBack {c : Condition} (shaped : c.isShaped = true) :
    ReadsBack condition EndsOperand c.chars c := by
  rw [Condition.isShaped, Bool.and_eq_true] at shaped
  exact condition_of_compared shaped.1 (comparisons_readsBack shaped.2)

end Conditions

end Grammar

end IssueFilter
