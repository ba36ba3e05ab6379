import IssueFilter.Proofs.Parser.Yielding
import IssueFilter.Proofs.Query.Operands
import IssueFilter.Proofs.Query.Scanning

/-! What the grammar can read as an operand and as a condition: an operator with an operand that it
admits, names that are names of the grammar. A field that reads as the word NOT and the operator
`not in` are never read as one condition, unless the same text can be read as the word NOT in front of
a condition with the operator `in`. -/
namespace IssueFilter

/-- The field reads as the word NOT. -/
def Condition.namesNot (condition : Condition) : Bool :=
  condition.field.toList.map Char.toLower = "not".toList

/-- The texts of such a condition begin `not not in`. -/
def Condition.isDoubleNot (condition : Condition) : Bool :=
  condition.namesNot && condition.operator = .notIn

namespace Grammar

open IssueFilter.Parser

section Operands

variable {α : Type} {bound : Nat}

theorem yields_token (name : Rule) {f : List Char → Option (α × List Char)} {P : α → Prop}
    (takes : ∀ {s a rest}, f s = some (a, rest) → P a ∧ rest.length ≤ s.length) :
    Yields bound (token name f) P := by
  intro s a rest short success
  obtain ⟨holds, left⟩ := takes success
  exact ⟨holds, Nat.lt_of_le_of_lt left short⟩

theorem yields_word (name : Rule) {f : List Char → Option (α × List Char)}
    (takes : ∀ {s a rest}, f s = some (a, rest) → rest.length ≤ s.length) :
    Yields bound (token name f) fun _ => True :=
  yields_token name fun success => ⟨trivial, takes success⟩

theorem yields_gap : Yields bound gap fun _ => True := by
  rintro s _ _ short ⟨⟩
  exact ⟨trivial, Nat.lt_of_le_of_lt (Token.length_skipGaps s) short⟩

theorem char_split {c : Char} {s rest : List Char} {a : Unit}
    (taken : (char c : Parser Rule Unit).read s = some (a, rest)) : s = c :: rest := by
  cases s with
  | nil => cases taken
  | cons d s =>
      by_cases same : d = c
      · subst same
        rw [read_char_self] at taken
        cases taken
        rfl
      · rw [read_char_other same] at taken
        cases taken

theorem yields_char (c : Char) : Yields bound (char c : Parser Rule Unit) fun _ => True := by
  intro s a rest short success
  rw [char_split success] at short
  exact ⟨trivial, Nat.lt_of_succ_lt short⟩

theorem yields_commaSeparated {item : Parser Rule α} {P : α → Prop} (each : Yields bound item P) :
    Yields bound (commaSeparated item) fun items => items ≠ [] ∧ ∀ a ∈ items, P a := by
  have next : Yields bound (do gap; char ','; gap; item : Parser Rule α) P :=
    .bind yields_gap fun _ _ => .bind (yields_char ',') fun _ _ =>
      .bind yields_gap fun _ _ => each
  refine .bind each fun first holds => .bind (.many next) fun others all => .pure ?_
  exact ⟨List.cons_ne_nil first others, List.forall_mem_cons.mpr ⟨holds, all⟩⟩

theorem yields_parenthesised {item : Parser Rule α} {P : α → Prop} (each : Yields bound item P) :
    Yields bound (parenthesised item) fun items => ∀ a ∈ items, P a := by
  have inside : Yields bound (optional (commaSeparated item))
      fun items => ∀ a ∈ items.getD [], P a :=
    .optional ((yields_commaSeparated each).mono fun _ all => all.2) (by simp)
  refine .bind (yields_char '(') fun _ _ => .bind yields_gap fun _ _ => .bind inside ?_
  exact fun _ all => .bind yields_gap fun _ _ => .bind (yields_char ')') fun _ _ => .pure all

theorem yields_argument : Yields bound argument fun _ => True :=
  .firstOf_cons (yields_word .string Token.length_string)
    (.firstOf_cons (yields_word .bareArgument Token.length_bareArgument) .firstOf_nil)

theorem yields_call : Yields bound call fun c => isCallName c.name = true := by
  refine .rule .call (.bind (yields_token .callName Token.isCallName_of_callName) ?_)
  exact fun name named => .bind yields_gap fun _ _ =>
    .bind (yields_parenthesised yields_argument) fun _ _ => .pure named

theorem yields_callOperand : Yields bound callOperand fun operand => operand.isCall = true :=
  .bind yields_call fun _ named => .pure named

theorem yields_value : Yields bound value fun operand => operand.isSingle = true := by
  refine .bind (P := fun _ => True) ?_ fun _ _ => .pure rfl
  refine .firstOf_cons (.bind (yields_word .string Token.length_string) fun _ _ => .pure trivial) ?_
  exact .firstOf_cons (yields_word .number Token.length_number)
    (.firstOf_cons (yields_word .word Token.length_word) .firstOf_nil)

theorem yields_item : Yields bound (firstOf [callOperand, value])
    fun operand => (operand.isSingle || operand.isCall) = true :=
  .firstOf_cons (yields_callOperand.mono fun _ call => by rw [call, Bool.or_true])
    (.firstOf_cons (yields_value.mono fun _ single => by rw [single, Bool.true_or]) .firstOf_nil)

theorem yields_list : Yields bound list fun operand => operand.isFlatList = true := by
  refine .rule .list (.bind (yields_parenthesised yields_item) fun items all => .pure ?_)
  exact List.all_eq_true.mpr all

theorem yields_empty : Yields bound empty fun operand => operand.isEmpty = true :=
  .bind (yields_word Rule.emptyKeyword Token.length_emptyWord) fun _ _ => .pure rfl

end Operands

section Conditions

variable {bound : Nat}

theorem yields_operator (name : Rule) (op : Operator) {scanner : List Char → Option (Unit × List Char)}
    (takes : ∀ {s a rest}, scanner s = some (a, rest) → rest.length ≤ s.length) :
    Yields bound (operator name op scanner) fun read => read = op :=
  .bind (yields_word name takes) fun _ _ => .pure rfl

theorem yields_isOperator : Yields bound isOperator fun op => op = .isNot ∨ op = .is :=
  .firstOf_cons ((yields_operator _ .isNot Token.length_keywords).mono fun _ => .inl)
    (.firstOf_cons ((yields_operator _ .is Token.shorter_keyword).mono fun _ => .inr) .firstOf_nil)

theorem yields_inOperator : Yields bound inOperator fun op => op = .notIn ∨ op = .isIn :=
  .firstOf_cons ((yields_operator _ .notIn Token.length_keywords).mono fun _ => .inl)
    (.firstOf_cons ((yields_operator _ .isIn Token.shorter_keyword).mono fun _ => .inr) .firstOf_nil)

theorem yields_comparing {operators : Parser Rule Operator} {operands : List (Parser Rule Operand)}
    {O : Operator → Prop} {D : Operand → Prop} (op : Yields bound operators O)
    (operand : Yields bound (firstOf operands) D) :
    Yields bound (comparing operators operands) fun read => O read.1 ∧ D read.2 :=
  .bind op fun _ ofOp => .bind yields_gap fun _ _ => .bind operand fun _ ofOperand =>
    .pure ⟨ofOp, ofOperand⟩

/-- Each kind of comparison has the operands that its operators admit. -/
theorem yields_comparisons :
    Yields bound (firstOf comparisons) fun read => read.1.admits read.2 = true := by
  have isComparison : Yields bound (comparing isOperator [empty])
      fun read => read.1.admits read.2 = true := by
    refine (yields_comparing yields_isOperator (.firstOf_cons yields_empty .firstOf_nil)).mono ?_
    rintro ⟨op, operand⟩ ⟨rfl | rfl, holds⟩ <;> exact holds
  have inComparison : Yields bound (comparing inOperator [callOperand, list])
      fun read => read.1.admits read.2 = true := by
    have operands : Yields bound (firstOf [callOperand, list])
        fun operand => (operand.isCall || operand.isFlatList) = true :=
      .firstOf_cons (yields_callOperand.mono fun _ call => by rw [call, Bool.true_or])
        (.firstOf_cons (yields_list.mono fun _ flat => by rw [flat, Bool.or_true]) .firstOf_nil)
    refine (yields_comparing yields_inOperator operands).mono ?_
    rintro ⟨op, operand⟩ ⟨rfl | rfl, holds⟩ <;> exact holds
  have otherComparison : Yields bound
      (comparing (token .comparison Token.comparison) [callOperand, empty, value])
      fun read => read.1.admits read.2 = true := by
    have operands : Yields bound (firstOf [callOperand, empty, value])
        fun operand => (operand.isSingle || operand.isCall || operand.isEmpty) = true := by
      refine .firstOf_cons (yields_callOperand.mono fun _ call => by simp [call]) ?_
      refine .firstOf_cons (yields_empty.mono fun _ empty => by simp [empty]) ?_
      exact .firstOf_cons (yields_value.mono fun _ single => by simp [single]) .firstOf_nil
    refine (yields_comparing (yields_token _ Token.mem_comparisons) operands).mono ?_
    rintro ⟨op, operand⟩ ⟨member, holds⟩
    simp only [Token.comparisons, List.mem_cons, List.not_mem_nil, or_false] at member
    rcases member with rfl | rfl | rfl | rfl | rfl | rfl | rfl | rfl <;> exact holds
  exact .firstOf_cons isComparison (.firstOf_cons inComparison
    (.firstOf_cons otherComparison .firstOf_nil))

theorem yields_condition : Yields bound condition fun c => c.isShaped = true := by
  refine .rule .condition (.bind (yields_token .field Token.isFieldName_of_field) ?_)
  intro field named
  refine .bind yields_gap fun _ _ => .bind yields_comparisons fun read admitted => .pure ?_
  rw [Condition.isShaped, named, admitted, Bool.and_self]

end Conditions

end Grammar

namespace Grammar

open IssueFilter.Parser

section DoubleNot

variable {s rest : List Char} {c : Condition} {operand : Operand}

theorem read_condition (s : List Char) : condition.read s =
    (Token.field s).bind fun field =>
      ((firstOf comparisons).read (Token.skipGaps field.2)).bind fun compared =>
        some (⟨field.1, compared.1.1, compared.1.2⟩, compared.2) := rfl

theorem read_comparing (operators : Parser Rule Operator) (operands : List (Parser Rule Operand))
    (s : List Char) : (comparing operators operands).read s =
    (operators.read s).bind fun op =>
      ((firstOf operands).read (Token.skipGaps op.2)).bind fun operand =>
        some ((op.1, operand.1), operand.2) := rfl

theorem read_operator (name : Rule) (op : Operator) (scanner : List Char → Option (Unit × List Char))
    (s : List Char) : (operator name op scanner).read s =
    (scanner s).bind fun answer => some (op, answer.2) := rfl

theorem comparing_split {operators : Parser Rule Operator} {operands : List (Parser Rule Operand)}
    {op : Operator} (taken : (comparing operators operands).read s = some ((op, operand), rest)) :
    ∃ after, operators.read s = some (op, after) ∧
      (firstOf operands).read (Token.skipGaps after) = some (operand, rest) := by
  rw [read_comparing, Option.bind_eq_some_iff] at taken
  obtain ⟨⟨op', after⟩, ofOperator, taken⟩ := taken
  obtain ⟨⟨operand', rest'⟩, ofOperand, same⟩ := Option.bind_eq_some_iff.mp taken
  cases same
  exact ⟨after, ofOperator, ofOperand⟩

theorem notIn_split (taken : (firstOf comparisons).read s = some ((.notIn, operand), rest)) :
    ∃ after, Token.keywords "not" "in" s = some ((), after) ∧
      (firstOf [callOperand, list]).read (Token.skipGaps after) = some (operand, rest) := by
  have short : s.length < s.length + 1 := Nat.lt_succ_self _
  simp only [comparisons, read_firstOf_cons, Option.or_eq_some_iff] at taken
  rcases taken with isOne | ⟨-, inOne | ⟨-, otherOne | ⟨-, none⟩⟩⟩
  · obtain ⟨after, ofOperator, -⟩ := comparing_split isOne
    rcases (yields_isOperator s _ after short ofOperator).1 with same | same <;> cases same
  · obtain ⟨after, ofOperator, ofOperand⟩ := comparing_split inOne
    refine ⟨after, ?_, ofOperand⟩
    rw [inOperator, read_firstOf_cons, Option.or_eq_some_iff] at ofOperator
    rcases ofOperator with first | ⟨-, second⟩
    · obtain ⟨⟨_, after'⟩, words, same⟩ := Option.bind_eq_some_iff.mp first
      cases same
      exact words
    · have one := Yields.firstOf_cons (yields_operator .inOperator .isIn Token.shorter_keyword)
        .firstOf_nil s _ after short second
      cases one.1
  · obtain ⟨after, ofOperator, -⟩ := comparing_split otherOne
    have member := (Token.mem_comparisons ofOperator).1
    simp [Token.comparisons] at member
  · cases none

/-- What begins with the word IN begins with none of the other words for an operator. -/
theorem isIn_of_keyword {after : List Char} (word : Token.keyword "in" s = some ((), after))
    (ofOperand : (firstOf [callOperand, list]).read (Token.skipGaps after) = some (operand, rest)) :
    (firstOf comparisons).read s = some ((.isIn, operand), rest) := by
  obtain ⟨text, split, lowered⟩ := Token.keyword_split word
  have letters : "in".toList = ['i', 'n'] := rfl
  rw [letters] at lowered
  obtain ⟨c, more, rfl, first, lowered⟩ := List.map_eq_cons_iff.mp lowered
  obtain ⟨d, none, rfl, second, lowered⟩ := List.map_eq_cons_iff.mp lowered
  cases List.map_eq_nil_iff.mp lowered
  have noIs : Token.afterWord "is".toList s = none := by
    change Token.afterWord ['i', 's'] s = none
    simp [split, Token.afterWord, first, second]
  have noNot : Token.afterWord "not".toList s = none := by
    change Token.afterWord ['n', 'o', 't'] s = none
    simp [split, Token.afterWord, first]
  have isOne : isOperator.read s = none := by
    rw [isOperator, read_firstOf_cons, read_firstOf_cons, read_operator, read_operator,
      Token.keywords, Token.keyword, noIs]
    rfl
  have inOne : inOperator.read s = some (.isIn, after) := by
    rw [inOperator, read_firstOf_cons, read_operator, Token.keywords, noNot, read_firstOf_cons,
      read_operator, word]
    rfl
  have isComparison : (comparing isOperator [empty]).read s = none := by
    rw [read_comparing, isOne, Option.bind_none]
  have inComparison : (comparing inOperator [callOperand, list]).read s =
      some ((.isIn, operand), rest) := by
    rw [read_comparing, inOne, Option.bind_some, ofOperand, Option.bind_some]
  rw [comparisons, read_firstOf_cons, isComparison, Option.none_or, read_firstOf_cons, inComparison,
    Option.some_or]

/-- Where a condition reads as a double NOT, so does the word NOT, and another condition after it. -/
theorem not_of_isDoubleNot (taken : condition.read s = some (c, rest))
    (double : c.isDoubleNot = true) : ∃ after inner, Token.notWord s = some ((), after) ∧
      condition.read (Token.skipGaps after) = some (inner, rest) := by
  simp only [Condition.isDoubleNot, Condition.namesNot, Bool.and_eq_true, decide_eq_true_eq]
    at double
  rw [read_condition, Option.bind_eq_some_iff] at taken
  obtain ⟨⟨field, after⟩, ofField, taken⟩ := taken
  obtain ⟨⟨⟨op, operand⟩, rest'⟩, compared, same⟩ := Option.bind_eq_some_iff.mp taken
  cases same
  obtain ⟨namesNot, rfl⟩ := double
  obtain ⟨words, keywords, ofOperand⟩ := notIn_split compared
  obtain ⟨rfl, stops⟩ := Token.field_split ofField
  have wordEnd := Token.atWordEnd_of_keywords ⟨'n', ['o', 't'], rfl, rfl⟩ stops keywords
  have named := Token.word_of_isFieldName (Token.isFieldName_of_field ofField).1
  have notWord : Token.notWord (field.toList ++ after) = some ((), after) := by
    rw [Token.notWord, Token.either, Token.keyword_append rfl named.2 wordEnd, if_pos namesNot]
    rfl
  obtain ⟨text, d, others, split, lowered, gap, word⟩ := Token.keywords_split keywords
  have letters : ∀ c ∈ text, c.toLower.isLower = true := by
    have lower : "not".toList.all Char.isLower = true := rfl
    exact fun c member => List.all_eq_true.mp lower _ (lowered ▸ List.mem_map_of_mem member)
  have nonempty : text ≠ [] := by
    rintro rfl
    cases lowered
  have innerField : Token.field (text ++ d :: others) = some (String.ofList text, d :: others) :=
    Token.field_of_letters letters nonempty (by
      rintro _ ⟨⟩
      exact Token.not_isFieldChar_of_isGap gap)
  refine ⟨after, ⟨String.ofList text, .isIn, operand⟩, notWord, ?_⟩
  rw [read_condition, split, innerField, Option.bind_some, isIn_of_keyword word ofOperand]
  rfl

end DoubleNot

end Grammar

end IssueFilter
