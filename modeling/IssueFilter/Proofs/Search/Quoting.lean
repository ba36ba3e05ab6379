import IssueFilter.Proofs.Search.Dates
import IssueFilter.Proofs.Search.Ids
import IssueFilter.Proofs.Function.Transparency
import IssueFilter.Proofs.Text.Numerals

/-! A value without quotes and the same value in quotes. A comparison asks a literal for its number and for
its text. The numbers agree, and so do the texts, unless the value is a number with leading zeros: its text
is the numeral without them. -/
namespace IssueFilter

/-- Literals that are the same as a number and as a text. -/
structure Literal.Alike (a b : Literal) : Prop where
  number : a.asNumber? = b.asNumber?
  text : a.asText = b.asText

section Words

variable {word : List Char}

/-- A word is a number just if it consists of digits and fits into 64 bits. -/
theorem Literal.ofWord_cases (word : List Char) :
    ofWord word = .text (String.ofList word) ∧ Numeral.isPadded word = false ∨
      word.all Char.isDigit = true ∧
        ∃ n, Numeral.unsigned? word = some n ∧ ofWord word = .number n := by
  cases digits : word.all Char.isDigit with
  | false =>
      left
      rw [ofWord, Numeral.isPadded, digits]
      exact ⟨rfl, rfl⟩
  | true =>
      cases read : Numeral.unsigned? word with
      | none =>
          left
          rw [ofWord, Numeral.isPadded, digits, read]
          exact ⟨rfl, rfl⟩
      | some n =>
          right
          refine ⟨rfl, n, rfl, ?_⟩
          rw [ofWord, if_pos digits, read]

theorem Literal.ofWord_of_isPadded (padded : Numeral.isPadded word = true) :
    ∃ n, Numeral.unsigned? word = some n ∧ ofWord word = .number n := by
  obtain ⟨-, unpadded⟩ | ⟨-, number⟩ := ofWord_cases word
  · rw [unpadded] at padded
    cases padded
  · exact number

theorem Literal.asNumber?_ofWord (word : List Char) :
    (ofWord word).asNumber? = (text (String.ofList word)).asNumber? := by
  obtain ⟨isText, -⟩ | ⟨-, n, read, isNumber⟩ := ofWord_cases word
  · rw [isText]
  · rw [isNumber, asNumber?, asNumber?, Numeral.ofText?, String.toList_ofList, read]

theorem Literal.asText_ofWord (unpadded : Numeral.isPadded word = false) :
    (ofWord word).asText = String.ofList word := by
  obtain ⟨isText, -⟩ | ⟨digits, n, read, isNumber⟩ := ofWord_cases word
  · rw [isText, asText]
  · rw [isNumber, asText, Numeral.text, Numeral.chars_of_unpadded digits read unpadded]

theorem Literal.alike_ofWord (unpadded : Numeral.isPadded word = false) :
    Alike (ofWord word) (.text (String.ofList word)) :=
  ⟨asNumber?_ofWord word, asText_ofWord unpadded⟩

/-- Any literal is like its text. -/
theorem Literal.alike_asText (literal : Literal) : Alike literal (.text literal.asText) := by
  cases literal with
  | number n => exact ⟨(Numeral.ofText?_text n).symm, rfl⟩
  | text s => exact ⟨rfl, rfl⟩

end Words

section Values

variable {a b : Literal} {name : String} {operator : Operator} {values : List FieldValue}

/-- What a condition says of its values depends on three comparisons only. -/
theorem Condition.holdsOf_same
    (equal : values.any (·.equals a) = values.any (·.equals b))
    (resembling : values.any (·.resembles a) = values.any (·.resembles b))
    (ordered : operator.isOrdering = true →
      someOrdered name operator a values = someOrdered name operator b values) :
    holdsOf ⟨name, operator, .single a⟩ values = holdsOf ⟨name, operator, .single b⟩ values := by
  cases operator with
  | is | isNot => rfl
  | equals | isIn | notEquals | notIn => simp only [holdsOf, someRelated_single, equal]
  | like | notLike => simp only [holdsOf, someRelated_single, resembling]
  | less | lessOrEqual | greater | greaterOrEqual => exact ordered rfl

/-- Some value is equal and similar to the one literal, and none is to the other. -/
structure Tells (values : List FieldValue) (a b : Literal) : Prop where
  equal : values.any (·.equals a) = true
  similar : values.any (·.resembles a) = true
  notEqual : values.any (·.equals b) = false
  notSimilar : values.any (·.resembles b) = false

theorem Tells.holdsOf_ne (tells : Tells values a b) (compares : operator ∈ Token.comparisons)
    (unordered : operator.isOrdering = false) :
    Condition.holdsOf ⟨name, operator, .single a⟩ values ≠
      Condition.holdsOf ⟨name, operator, .single b⟩ values := by
  have some : values.isEmpty = false := by
    obtain ⟨value, member, -⟩ := List.any_eq_true.mp tells.equal
    simpa using List.ne_nil_of_mem member
  cases operator with
  | equals | notEquals =>
      simp only [Condition.holdsOf, someRelated_single, tells.equal, tells.notEqual, some]
      decide
  | like | notLike =>
      simp only [Condition.holdsOf, someRelated_single, tells.similar, tells.notSimilar, some]
      decide
  | less | lessOrEqual | greater | greaterOrEqual => cases unordered
  | is | isNot | isIn | notIn => exact absurd compares (by decide)

section Alike

variable (alike : a.Alike b)
include alike

theorem FieldValue.equals_alike (value : FieldValue) : value.equals a = value.equals b := by
  cases value with
  | number n => rw [equals, equals, alike.number]
  | text s => rw [equals, equals, alike.text]
  | date d => rw [equals, equals, alike.text]

theorem FieldValue.resembles_alike (value : FieldValue) : value.resembles a = value.resembles b := by
  cases value with
  | text s => rw [resembles, resembles, alike.text]
  | number n => rfl
  | date d => rfl

theorem FieldValue.compareWith_alike (value : FieldValue) :
    value.compareWith name operator a = value.compareWith name operator b := by
  cases value with
  | number n => rw [compareWith, compareWith, alike.number]
  | date d => rw [compareWith, compareWith, alike.text]
  | text s => rfl

theorem someOrdered_alike : someOrdered name operator a values = someOrdered name operator b values := by
  induction values with
  | nil => rfl
  | cons value values ih => rw [someOrdered, someOrdered, FieldValue.compareWith_alike alike, ih]

theorem Condition.holdsOf_alike :
    holdsOf ⟨name, operator, .single a⟩ values = holdsOf ⟨name, operator, .single b⟩ values := by
  apply holdsOf_same
  · exact congrArg values.any (funext (FieldValue.equals_alike alike))
  · exact congrArg values.any (funext (FieldValue.resembles_alike alike))
  · exact fun _ => someOrdered_alike alike

end Alike

end Values

section Containing

variable {s : List Char}

theorem occursIn_self (s : List Char) : occursIn s s = true := by
  cases s with
  | nil => rfl
  | cons c s => rw [occursIn, List.isPrefixOf_iff_prefix.mpr (List.prefix_refl _), Bool.true_or]

theorem length_of_occursIn {part : List Char} (occurs : occursIn part s = true) :
    part.length ≤ s.length := by
  induction s with
  | nil =>
      rw [occursIn, List.isEmpty_iff] at occurs
      rw [occurs]
  | cons c s ih =>
      rw [occursIn, Bool.or_eq_true] at occurs
      rcases occurs with first | later
      · exact (List.isPrefixOf_iff_prefix.mp first).length_le
      · exact (ih later).trans (Nat.le_succ s.length)

end Containing

section Padded

variable {word : List Char} {n : UInt64}

/-- The numeral of a number is too short to be the same as the padded word or to contain it. -/
theorem tells_numeral {values : List FieldValue} {id : UInt64} (padded : Numeral.isPadded word = true)
    (read : Numeral.unsigned? word = some n) (other : id ≠ n)
    (isValue : .text (Numeral.text n) ∈ values)
    (all : ∀ value ∈ values, value = .text (Numeral.text n) ∨ value = .number id) :
    Tells values (.number n) (.text (String.ofList word)) where
  equal := List.any_eq_true.mpr ⟨_, isValue, beq_self_eq_true _⟩
  similar := List.any_eq_true.mpr ⟨_, isValue, occursIn_self _⟩
  notEqual := by
    rw [List.any_eq_false]
    intro value member equal
    rcases all value member with rfl | rfl
    · rw [FieldValue.equals, Literal.asText, Ascii.sameText, beq_iff_eq, Numeral.text,
        String.toList_ofList, String.toList_ofList] at equal
      have lengths := congrArg List.length equal
      rw [List.length_map, List.length_map] at lengths
      exact Nat.ne_of_lt (Numeral.length_chars_of_isPadded padded read) lengths
    · rw [FieldValue.equals, Literal.asNumber?, Numeral.ofText?, String.toList_ofList, read,
        decide_eq_true_eq] at equal
      exact other (Option.some.inj equal).symm
  notSimilar := by
    rw [List.any_eq_false]
    intro value member similar
    rcases all value member with rfl | rfl
    · rw [FieldValue.resembles, Literal.asText, Numeral.text, String.toList_ofList,
        String.toList_ofList, Lowercase.chars_of_digits (Numeral.isDigit_of_isPadded padded),
        Lowercase.chars_of_digits fun _ => Numeral.isDigit_of_mem_chars] at similar
      exact Nat.not_lt_of_le (length_of_occursIn similar)
        (Numeral.length_chars_of_isPadded padded read)
    · cases similar

end Padded

/-- Whether it matters with which digits a number is written: not to dates, unless an error names the
digits, and to texts only if they are not asked for an order. -/
def Field.readsDigits (field : Field) (operator : Operator) : Bool :=
  if field = .created then operator.isOrdering else !operator.isOrdering

namespace Index

section Issues

variable (index : Index) (issue : Issue) {name : String} {field : Field} {operator : Operator}
  {a b : Literal}

theorem selects_alike (known : Field.ofName? name = some field) (alike : a.Alike b) :
    index.selects (Query.ofComparison name operator a) issue =
      index.selects (Query.ofComparison name operator b) issue := by
  rw [index.selects_comparison issue known, index.selects_comparison issue known]
  exact Condition.holdsOf_alike alike

theorem selects_undated (known : Field.ofName? name = some field)
    (unread : field.readsDigits operator = false) (undated : Date.parse? a.asText = none)
    (undatedToo : Date.parse? b.asText = none) :
    index.selects (Query.ofComparison name operator a) issue =
      index.selects (Query.ofComparison name operator b) issue := by
  by_cases created : field = .created
  · rw [Field.readsDigits, if_pos created] at unread
    rw [index.selects_comparison issue known, index.selects_comparison issue known, created,
      fieldValues]
    apply Condition.holdsOf_same
    · rw [List.any_cons, List.any_cons, FieldValue.equals_date_of_none undated,
        FieldValue.equals_date_of_none undatedToo]
      rfl
    · rfl
    · intro ordering
      rw [unread] at ordering
      cases ordering
  · rw [Field.readsDigits, if_neg created, Bool.not_eq_false'] at unread
    rw [index.selects_ordering issue known created unread,
      index.selects_ordering issue known created unread]

end Issues

section Telling

variable {index : Index} {viewer : Viewer} {issue : Issue} {query other : Query}

/-- With one issue only, the search tells what the query says of it. -/
theorem search_ne_of_selects (h : index.Consistent) (only : index.browsableIssues viewer = [issue])
    (unordered : query.orderBy = []) (unorderedToo : other.orderBy = [])
    (different : index.selects query issue ≠ index.selects other issue) :
    index.search viewer query .unlimited ≠ index.search viewer other .unlimited := by
  have recovered : ∀ query : Query, query.orderBy = [] →
      (index.search viewer query .unlimited).map (fun results => results.total == 1) =
        index.selects query issue := by
    intro query unordered
    cases selected : index.selects query issue with
    | error e =>
        have each : ∀ found ∈ index.browsableIssues viewer, index.selects query found = .error e := by
          rwa [only, List.forall_mem_singleton]
        rw [h.search_of_fails unordered each, only]
        rfl
    | ok holds =>
        have each : ∀ found ∈ index.browsableIssues viewer, index.selects query found = .ok holds := by
          rwa [only, List.forall_mem_singleton]
        rw [h.search_of_selects unordered each, only]
        cases holds <;> rfl
  intro same
  apply different
  rw [← recovered query unordered, same, recovered other unorderedToo]

/-- An issue of a project with its id; whatever is a text of theirs is the numeral of a number. -/
def numeralIssue (id n : UInt64) : Issue :=
  let text := Numeral.text n
  ⟨id, text, id, text, text, text, some text, some text, some text, [text], sampleDay⟩

def numeralProject (id n : UInt64) : Project := ⟨id, Numeral.text n, Numeral.text n⟩

def numeralChanges (id n : UInt64) : List Change :=
  [.addProject (numeralProject id n), .grantBrowseToAnyone (Numeral.text n),
    .addIssue (numeralIssue id n)]

theorem run_numeralChanges (id n : UInt64) :
    let index := empty.run (numeralChanges id n)
    index.projects.get? id = some (numeralProject id n) ∧
      index.browsableIssues .anonymous = [numeralIssue id n] := by
  have numeral := Ascii.upper_numeral n
  simp [run, numeralChanges, numeralProject, numeralIssue, step_eq, Change.perform, run_addProject,
    grantBrowseToAnyone, run_changeGrant, run_addIssue, Table.contains, empty, withProject, withGrant,
    withIssue, kept, browsableIssues, canBrowse, Grant.allows, numeral]

theorem fieldValues_numeralIssue {id n : UInt64}
    (stored : index.projects.get? id = some (numeralProject id n)) {field : Field}
    (notCreated : field ≠ .created) :
    let values := index.fieldValues (numeralIssue id n) field
    .text (Numeral.text n) ∈ values ∧
      ∀ value ∈ values, value = .text (Numeral.text n) ∨ value = .number id := by
  intro values
  cases field with
  | created => exact absurd rfl notCreated
  | project =>
      have all : values = [.number id, .text (Numeral.text n), .text (Numeral.text n)] := by
        have found : index.projects.get? (numeralIssue id n).projectId =
          some (numeralProject id n) := stored
        simp only [values, fieldValues, found]
        rfl
      simp [all]
  | issue | summary | status | kind | priority | assignee | reporter | labels =>
      simp [values, fieldValues, numeralIssue]

/-- Where the digits are read, there are an index and a viewer who is not shown the same. -/
theorem told_apart {name : String} {field : Field} {operator : Operator} {word : List Char} {n : UInt64}
    (known : Field.ofName? name = some field) (compares : operator ∈ Token.comparisons)
    (padded : Numeral.isPadded word = true) (read : Numeral.unsigned? word = some n)
    (reads : field.readsDigits operator = true) :
    ∃ index : Index, index.Reachable ∧
      index.search .anonymous (Query.ofComparison name operator (.number n)) .unlimited ≠
        index.search .anonymous (Query.ofComparison name operator (.text (String.ofList word)))
          .unlimited := by
  obtain ⟨id, otherId⟩ : ∃ id, id ≠ n := ⟨n + 1, by simp⟩
  obtain ⟨stored, only⟩ := run_numeralChanges id n
  have reachable : (empty.run (numeralChanges id n)).Reachable := ⟨_, rfl⟩
  refine ⟨_, reachable, search_ne_of_selects reachable.consistent only rfl rfl ?_⟩
  by_cases created : field = .created
  · rw [Field.readsDigits, if_pos created] at reads
    rw [created] at known
    have undated : Date.parse? (Literal.number n).asText = none :=
      Date.parse?_of_digits fun _ => Numeral.isDigit_of_mem_chars
    have undatedToo : Date.parse? (Literal.text (String.ofList word)).asText = none :=
      Date.parse?_of_digits (Numeral.isDigit_of_isPadded padded)
    rw [selects_unparsed_ordering _ _ known undated reads,
      selects_unparsed_ordering _ _ known undatedToo reads]
    intro same
    exact Numeral.text_ne_of_isPadded padded read
      (SearchError.invalidValue.inj (Except.error.inj same)).2
  · rw [Field.readsDigits, if_neg created, Bool.not_eq_true'] at reads
    rw [selects_comparison _ _ known, selects_comparison _ _ known]
    obtain ⟨isValue, all⟩ := fieldValues_numeralIssue stored created
    exact (tells_numeral padded read otherId isValue all).holdsOf_ne compares reads

end Telling

section Quotes

variable {name : String} {field : Field} {operator : Operator} {word : List Char}

theorem search_comparison_same {a b : Literal} {index : Index}
    (same : ∀ issue, index.selects (Query.ofComparison name operator a) issue =
      index.selects (Query.ofComparison name operator b) issue) (viewer : Viewer) (page : Page) :
    index.search viewer (Query.ofComparison name operator a) page =
      index.search viewer (Query.ofComparison name operator b) page := by
  have ordering : (Query.ofComparison name operator a).orderBy =
      (Query.ofComparison name operator b).orderBy := rfl
  exact search_same ordering (fun issue _ => same issue) page

/-- Zeros in front are not seen where the digits are not read. -/
theorem selects_padded (known : Field.ofName? name = some field)
    (unread : field.readsDigits operator = false) (padded : Numeral.isPadded word = true)
    (index : Index) (issue : Issue) :
    index.selects (Query.ofComparison name operator (Literal.ofWord word)) issue =
      index.selects (Query.ofComparison name operator (.text (String.ofList word))) issue := by
  obtain ⟨n, -, isNumber⟩ := Literal.ofWord_of_isPadded padded
  rw [isNumber]
  exact index.selects_undated issue known unread
    (Date.parse?_of_digits fun _ => Numeral.isDigit_of_mem_chars)
    (Date.parse?_of_digits (Numeral.isDigit_of_isPadded padded))

/-- A word without quotes and the same word in quotes, compared with any field. Both texts are accepted.
Without quotes the word finds what its text as a value finds in quotes; this is the word itself, except
that leading zeros of a number are gone. So the quotes make a difference just for numbers with leading
zeros, where the operator reads the digits. -/
theorem quoted_search_same_iff (known : Field.ofName? name = some field)
    (compares : operator ∈ Token.comparisons) (isWord : IsWord word)
    (notEmpty : word.map Char.toLower ≠ "empty".toList)
    (notNull : word.map Char.toLower ≠ "null".toList) :
    let bare := Query.ofComparison name operator (Literal.ofWord word)
    let quoted := fun text : String => Query.ofComparison name operator (.text text)
    Query.parse (name ++ " " ++ operator.symbol ++ " " ++ String.ofList word) = .ok bare ∧
      Query.parse (name ++ " " ++ operator.symbol ++ " \"" ++ String.ofList word ++ "\"") =
        .ok (quoted (String.ofList word)) ∧
      (∀ (index : Index) viewer page, index.search viewer bare page =
        index.search viewer (quoted (Literal.ofWord word).asText) page) ∧
      ((∀ index : Index, index.Reachable → ∀ viewer page, index.search viewer bare page =
          index.search viewer (quoted (String.ofList word)) page) ↔
        ¬(Numeral.isPadded word = true ∧ field.readsDigits operator = true)) := by
  intro bare quoted
  refine ⟨Query.parse_word known compares isWord notEmpty notNull,
    Query.parse_quotedWord known compares isWord, ?_, ?_, ?_⟩
  · intro index viewer page
    refine search_comparison_same (fun issue => ?_) viewer page
    exact index.selects_alike issue known (Literal.alike_asText _)
  · rintro same ⟨padded, reads⟩
    obtain ⟨n, read, isNumber⟩ := Literal.ofWord_of_isPadded padded
    obtain ⟨index, reachable, different⟩ := told_apart known compares padded read reads
    rw [← isNumber] at different
    exact different (same index reachable .anonymous .unlimited)
  · intro unseen index _ viewer page
    refine search_comparison_same (fun issue => ?_) viewer page
    cases padded : Numeral.isPadded word with
    | false => exact index.selects_alike issue known (Literal.alike_ofWord padded)
    | true =>
        have unread : field.readsDigits operator = false :=
          Bool.eq_false_iff.mpr fun reads => unseen ⟨padded, reads⟩
        exact selects_padded known unread padded index issue

/-- A date is compared with neither of the two numbers. -/
theorem created_quoted_search_same :
    let word := "007".toList
    Field.ofName? "Created" = some .created ∧ IsWord word ∧ Numeral.isPadded word = true ∧
      Query.parse "Created !~ 007" = .ok (Query.ofComparison "Created" .notLike (.number 7)) ∧
      Query.parse "Created !~ \"007\"" = .ok (Query.ofComparison "Created" .notLike (.text "007")) ∧
      ∀ index : Index, index.Reachable → ∀ viewer page,
        index.search viewer (Query.ofComparison "Created" .notLike (.number 7)) page =
          index.search viewer (Query.ofComparison "Created" .notLike (.text "007")) page := by
  intro word
  have known : Field.ofName? "Created" = some .created := rfl
  have isWord : IsWord word := ⟨by decide, List.all_eq_true.mp rfl⟩
  obtain ⟨bare, quoted, -, same⟩ := quoted_search_same_iff known
    (show Operator.notLike ∈ Token.comparisons by decide) isWord (by decide) (by decide)
  exact ⟨known, isWord, rfl, bare, quoted, same.mpr (by decide)⟩

/-- A public issue that is summed up by a number with leading zeros. -/
def paddedChanges : List Change :=
  [.addProject ⟨1, "PUB", "Public"⟩, .grantBrowseToAnyone "PUB",
    .addIssue ⟨10, "PUB-1", 1, "007", "Open", "Task", none, none, none, [], sampleDay⟩]

/-- The issue is found with quotes only. -/
theorem padded_search_differs :
    let index := empty.run paddedChanges
    let bare := Query.ofComparison "summary" .equals (.number 7)
    let quoted := Query.ofComparison "summary" .equals (.text "007")
    index.Reachable ∧ IsWord "007".toList ∧
      Query.parse "summary = 007" = .ok bare ∧ Query.parse "summary = \"007\"" = .ok quoted ∧
      index.search .anonymous bare .unlimited = .ok ⟨[], 0⟩ ∧
      index.search .anonymous quoted .unlimited = .ok ⟨index.issues, 1⟩ ∧
      index.issues.map Issue.id = [10] := by
  intro index bare quoted
  exact ⟨⟨paddedChanges, rfl⟩, ⟨by decide, List.all_eq_true.mp rfl⟩, rfl, rfl, rfl, rfl, rfl⟩

end Quotes

end Index

end IssueFilter
