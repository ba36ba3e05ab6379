import IssueFilter.Proofs.Query.Composition
import IssueFilter.Search.Field

/-! Filters that are a single condition: a field of the index, an operator and a value with blanks between
them. Where the operator compares, a word may stand for the value without quotes, also one that is reserved elsewhere; if
it is all digits it is a number, provided that the number fits into 64 bits, and a text otherwise. -/
namespace IssueFilter

/-- The value that a word without quotes stands for. -/
def Literal.ofWord (word : List Char) : Literal :=
  if word.all Char.isDigit then
    match Numeral.unsigned? word with
    | some n => .number n
    | none => .text (String.ofList word)
  else .text (String.ofList word)

section Names

/-- The names of fields are letters in lower case. -/
theorem Field.letters_of_names {name : String} {field : Field} (member : (name, field) ∈ names) :
    name.toList ≠ [] ∧ name.toList ≠ "not".toList ∧ ∀ c ∈ name.toList, c.isLower = true := by
  have all : ∀ entry ∈ names, entry.1.toList ≠ [] ∧ entry.1.toList ≠ "not".toList ∧
      entry.1.toList.all Char.isLower = true := by decide
  obtain ⟨nonempty, notNot, lower⟩ := all _ member
  exact ⟨nonempty, notNot, List.all_eq_true.mp lower⟩

/-- Whatever case it is in, the name of a field is a name of the grammar, and not the word NOT. -/
theorem Field.isFieldName_of_ofName? {name : String} {field : Field} (known : ofName? name = some field) :
    isFieldName name = true ∧ name.toList.map Char.toLower ≠ "not".toList := by
  have member : (Ascii.lower name, field) ∈ names :=
    (Table.mem_iff_lookup (by decide) (Ascii.lower name) field).mpr known
  obtain ⟨nonempty, notNot, lower⟩ := letters_of_names member
  rw [Ascii.lower, String.toList_ofList] at nonempty notNot lower
  refine ⟨?_, notNot⟩
  have start : ∀ c ∈ name.toList, Token.isFieldStart c = true := by
    intro c member
    rw [Token.isFieldStart, isAlpha_of_toLower (lower _ (List.mem_map_of_mem member)), Bool.true_or]
  unfold isFieldName
  split
  · rename_i empty
    rw [empty] at nonempty
    exact absurd rfl nonempty
  · rename_i c others split
    rw [split] at start
    rw [start c List.mem_cons_self, Bool.true_and, List.all_eq_true]
    exact fun d member => isFieldChar_of_isFieldStart (start d (List.mem_cons_of_mem c member))

end Names

section Words

variable {word : List Char}

/-- What the grammar calls a word. -/
structure IsWord (word : List Char) : Prop where
  nonempty : word ≠ []
  chars : ∀ c ∈ word, isWordChar c = true

theorem IsWord.encode_eq (isWord : IsWord word) : Quoted.encode word = word := by
  have all := isWord.chars
  clear isWord
  induction word with
  | nil => rfl
  | cons c word ih =>
      rw [List.forall_mem_cons] at all
      have plain : ¬(c = '\\' ∨ c = '"') := by
        rintro (rfl | rfl) <;> exact absurd all.1 (by decide)
      rw [Quoted.encode, if_neg plain, ih all.2]

theorem IsWord.quoted_eq (isWord : IsWord word) : Quoted.chars word = '"' :: (word ++ ['"']) := by
  rw [Quoted.chars, isWord.encode_eq]

end Words

namespace Token

variable {word rest : List Char}

theorem number_of_digits (isWord : IsWord word) (digits : word.all Char.isDigit = true)
    (wordEnd : atWordEnd rest = true) : number (word ++ rest) = some (Literal.ofWord word, rest) := by
  have stops : Stops Char.isDigit rest :=
    (stops_of_atWordEnd wordEnd).mono fun _ => isWordChar_of_isDigit
  rw [number, run_append isWord.nonempty (List.all_eq_true.mp digits) stops, Literal.ofWord,
    if_pos digits]
  exact if_pos wordEnd

end Token

namespace Grammar

open IssueFilter.Parser

variable {word : List Char}

/-- A word is read as a value, unless it is one of those that stand for the empty operand. -/
theorem word_readsBack (isWord : IsWord word) (notEmpty : word.map Char.toLower ≠ "empty".toList)
    (notNull : word.map Char.toLower ≠ "null".toList) :
    ReadsBack (firstOf [callOperand, empty, value]) EndsOperand word
      (.single (Literal.ofWord word)) := by
  have isValue : ReadsBack value EndsOperand word (.single (Literal.ofWord word)) := by
    constructor
    · exact Token.skipGaps_append isWord.nonempty isWord.chars
    · intro rest ends
      have noString : Token.string (word ++ rest) = none := by
        obtain ⟨c, others, rfl⟩ := List.exists_cons_of_ne_nil isWord.nonempty
        exact Token.string_of_bare
          (isBareArgumentChar_of_isWordChar (isWord.chars c List.mem_cons_self)) _
      cases digits : word.all Char.isDigit with
      | true =>
          simp only [value, read_bind, read_firstOf_cons, read_token, noString, Option.bind_none,
            Option.none_or, Token.number_of_digits isWord digits ends.wordEnd, Option.some_or,
            Option.bind_some, read_pure]
      | false =>
          have isText : Literal.ofWord word = .text (String.ofList word) :=
            if_neg (by rw [digits]; exact Bool.false_ne_true)
          simp only [value, read_bind, read_firstOf_cons, read_token, noString, Option.bind_none,
            Option.none_or, Token.number_of_word isWord.chars digits,
            Token.word_append isWord.nonempty isWord.chars ends.wordEnd, Option.some_or,
            Option.bind_some, read_pure, isText]
  have afterEmpty : ReadsBack (firstOf [empty, value]) EndsOperand word
      (.single (Literal.ofWord word)) := by
    refine isValue.first.later fun rest ends => ?_
    rw [empty, read_bind, read_token,
      Token.emptyWord_of_other isWord.chars notEmpty notNull ends.wordEnd, Option.bind_none]
  refine afterEmpty.later fun rest ends => ?_
  exact callOperand_of_call (call_of_word isWord.nonempty isWord.chars ends)

/-- In quotes any text is read as itself. -/
theorem quoted_readsBack (text : List Char) :
    ReadsBack (firstOf [callOperand, empty, value]) EndsOperand (Quoted.chars text)
      (.single (.text (String.ofList text))) := by
  have isValue : ReadsBack value EndsOperand (Quoted.chars text)
      (.single (.text (String.ofList text))) := by
    constructor
    · exact fun _ => rfl
    · intro rest _
      simp only [value, read_bind, read_firstOf_cons, read_token, Token.string_quoted,
        Option.bind_some, read_pure, Option.some_or]
  have afterEmpty : ReadsBack (firstOf [empty, value]) EndsOperand (Quoted.chars text)
      (.single (.text (String.ofList text))) := isValue.first.later fun _ _ => rfl
  exact afterEmpty.later fun _ _ => rfl

theorem literal_readsBack (literal : Literal) :
    ReadsBack (firstOf [callOperand, empty, value]) EndsOperand literal.chars (.single literal) :=
  @compared_readsBack (.single literal) rfl

end Grammar

namespace Query

open IssueFilter.Parser Grammar

/-- The query for the issues that compare so with a value. -/
def ofComparison (name : String) (operator : Operator) (literal : Literal) : Query :=
  ⟨some (.condition ⟨name, operator, .single literal⟩), []⟩

/-- The query for the other issues. -/
def ofNegation (name : String) (operator : Operator) (literal : Literal) : Query :=
  ⟨some (.not (.condition ⟨name, operator, .single literal⟩)), []⟩

variable {name : String} {field : Field} {operator : Operator}

/-- The query for the issues that satisfy a condition. -/
def ofCondition (condition : Condition) : Query := ⟨some (.condition condition), []⟩

theorem parse_condition {condition : Condition} (shaped : condition.isShaped = true)
    (notNot : condition.field.toList.map Char.toLower ≠ "not".toList) :
    parse condition.text = .ok (ofCondition condition) := by
  rw [parse, Condition.text, String.toList_ofList]
  apply ofChars_of_readsBack
  apply disjunction_of_conjunction
  apply conjunction_of_part
  exact negation_condition shaped notNot

/-- A comparison is accepted in whatever way its value can be written. -/
theorem parse_comparison (known : Field.ofName? name = some field)
    (compares : operator ∈ Token.comparisons) {text : List Char} {literal : Literal}
    (readsBack : ReadsBack (firstOf [callOperand, empty, value]) EndsOperand text
      (.single literal)) :
    parse (name ++ " " ++ operator.symbol ++ " " ++ String.ofList text) =
      .ok (ofComparison name operator literal) := by
  obtain ⟨named, notNot⟩ := Field.isFieldName_of_ofName? known
  have written : (name ++ " " ++ operator.symbol ++ " " ++ String.ofList text).toList =
      name.toList ++ ' ' :: (operator.symbol.toList ++ ' ' :: text) := by
    simp
  rw [parse, written]
  apply ofChars_of_readsBack
  apply disjunction_of_conjunction
  apply conjunction_of_part
  exact negation_of_field named notNot (comparison_readsBack compares readsBack)

theorem parse_word (known : Field.ofName? name = some field)
    (compares : operator ∈ Token.comparisons) {word : List Char} (isWord : IsWord word)
    (notEmpty : word.map Char.toLower ≠ "empty".toList)
    (notNull : word.map Char.toLower ≠ "null".toList) :
    parse (name ++ " " ++ operator.symbol ++ " " ++ String.ofList word) =
      .ok (ofComparison name operator (Literal.ofWord word)) :=
  parse_comparison known compares (word_readsBack isWord notEmpty notNull)

theorem parse_quotedWord (known : Field.ofName? name = some field)
    (compares : operator ∈ Token.comparisons) {word : List Char} (isWord : IsWord word) :
    parse (name ++ " " ++ operator.symbol ++ " \"" ++ String.ofList word ++ "\"") =
      .ok (ofComparison name operator (.text (String.ofList word))) := by
  have written : name ++ " " ++ operator.symbol ++ " \"" ++ String.ofList word ++ "\"" =
      name ++ " " ++ operator.symbol ++ " " ++ String.ofList (Quoted.chars word) := by
    apply String.toList_inj.mp
    simp [isWord.quoted_eq]
  rw [written]
  exact parse_comparison known compares (quoted_readsBack word)

/-- A value is read back as it is printed. -/
theorem parse_literal (known : Field.ofName? name = some field)
    (compares : operator ∈ Token.comparisons) (literal : Literal) :
    parse (name ++ " " ++ operator.symbol ++ " " ++ String.ofList literal.chars) =
      .ok (ofComparison name operator literal) :=
  parse_comparison known compares (literal_readsBack literal)

theorem parse_negation (known : Field.ofName? name = some field)
    (compares : operator ∈ Token.comparisons) (literal : Literal) :
    parse ("NOT " ++ name ++ " " ++ operator.symbol ++ " " ++ String.ofList literal.chars) =
      .ok (ofNegation name operator literal) := by
  obtain ⟨named, notNot⟩ := Field.isFieldName_of_ofName? known
  have written :
      ("NOT " ++ name ++ " " ++ operator.symbol ++ " " ++ String.ofList literal.chars).toList =
        "NOT ".toList ++ (name.toList ++ ' ' :: (operator.symbol.toList ++ ' ' :: literal.chars)) := by
    simp
  rw [parse, written]
  apply ofChars_of_readsBack
  apply disjunction_of_conjunction
  apply conjunction_of_part
  apply negation_not
  exact negation_of_field named notNot (comparison_readsBack compares (literal_readsBack literal))

end Query

end IssueFilter
