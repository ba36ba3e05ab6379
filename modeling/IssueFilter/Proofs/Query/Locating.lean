import IssueFilter.Proofs.Parser.Locating
import IssueFilter.Proofs.Query.Conditions

/-! Every part of the grammar keeps the farthest failure inside the text. So a text that is no query
fails at one of its places, and something was expected there. -/
namespace IssueFilter

theorem splitOn_newline_cons (c : Char) (s : List Char) : (c :: s).splitOn '\n' =
    if c = '\n' then [] :: s.splitOn '\n' else (s.splitOn '\n').modifyHead (c :: ·) := by
  unfold List.splitOn
  rw [List.splitOnP_cons_eq_if_modifyHead]
  simp only [beq_iff_eq]

namespace Position

/-- The place is on a line of the text, on one of its characters or right behind the last one. -/
structure Inside (position : Position) (s : List Char) : Prop where
  line_pos : 1 ≤ position.line
  line_le : position.line ≤ 1 + s.count '\n'
  column_pos : 1 ≤ position.column
  column_le : ∃ line, (s.splitOn '\n')[position.line - 1]? = some line ∧
    position.column ≤ 1 + line.length

/-- A character in front of a line feed, or a line feed, leaves the last line as it is. -/
theorem column_cons_of_mem {c : Char} {s : List Char} (ends : '\n' ∈ c :: s) :
    (after (c :: s)).column = (after s).column := by
  simp only [after, List.reverse_cons, List.takeWhile_append]
  split
  · rename_i whole
    have unbroken : '\n' ∉ s := by
      intro member
      have same := (List.takeWhile_prefix fun c => decide (c ≠ '\n')).eq_of_length whole
      rw [← List.mem_reverse, ← same] at member
      exact absurd rfl (of_decide_eq_true (List.all_eq_true.mp List.all_takeWhile '\n' member))
    obtain rfl : '\n' = c := (List.mem_cons.mp ends).resolve_right unbroken
    rw [whole, List.takeWhile_cons_of_neg (by decide), List.append_nil]
  · rfl

theorem column_cons_le (c : Char) (s : List Char) :
    (after (c :: s)).column ≤ (after s).column + 1 := by
  simp only [after, List.reverse_cons, List.takeWhile_append]
  split
  · rename_i whole
    have one : (List.takeWhile (fun x => decide (x ≠ '\n')) [c]).length ≤ 1 :=
      (List.takeWhile_prefix _).length_le
    rw [whole, List.length_append]
    omega
  · exact Nat.le_succ _

/-- The place stands on a line of the text. By induction on what comes before it: a character in front
of the text either makes the first line longer or is a line of its own. -/
theorem line_of_prefix (before rest : List Char) : ∃ line,
    ((before ++ rest).splitOn '\n')[before.count '\n']? = some line ∧
      (after before).column ≤ 1 + line.length := by
  induction before with
  | nil =>
      obtain ⟨line, others, same⟩ := List.exists_cons_of_ne_nil (List.splitOn_ne_nil '\n' rest)
      exact ⟨line, congrArg (·[0]?) same, Nat.le_add_right 1 _⟩
  | cons c before ih =>
      obtain ⟨line, found, fits⟩ := ih
      rw [List.cons_append, splitOn_newline_cons]
      by_cases ends : c = '\n'
      · subst ends
        rw [if_pos rfl, List.count_cons_self, List.getElem?_cons_succ]
        exact ⟨line, found, (column_cons_of_mem List.mem_cons_self).symm ▸ fits⟩
      · rw [if_neg ends, List.count_cons_of_ne ends, List.getElem?_modifyHead]
        by_cases broken : '\n' ∈ before
        · have later : before.count '\n' ≠ 0 := Nat.ne_of_gt (List.count_pos_iff.mpr broken)
          rw [if_neg later]
          exact ⟨line, found, (column_cons_of_mem (List.mem_cons_of_mem c broken)).symm ▸ fits⟩
        · rw [List.count_eq_zero.mpr broken] at found
          rw [List.count_eq_zero.mpr broken, if_pos rfl, found]
          refine ⟨c :: line, rfl, ?_⟩
          have longer := column_cons_le c before
          rw [List.length_cons]
          omega

/-- The place behind a first part of the text. -/
theorem inside_of_prefix (before rest : List Char) : (after before).Inside (before ++ rest) where
  line_pos := Nat.le_add_right 1 _
  line_le := by
    rw [List.count_append, ← Nat.add_assoc]
    exact Nat.le_add_right _ _
  column_pos := Nat.le_add_right 1 _
  column_le := by
    have index : (after before).line - 1 = before.count '\n' := Nat.add_sub_cancel_left 1 _
    rw [index]
    exact line_of_prefix before rest

end Position

namespace Grammar

open IssueFilter.Parser

section Operands

variable {α : Type} {bound : Nat}

theorem tracks_word (name : Rule) {f : List Char → Option (α × List Char)}
    (takes : ∀ {s a rest}, f s = some (a, rest) → rest.length ≤ s.length) :
    Tracks bound (token name f) :=
  .rule name (.scan (yields_word name takes))

theorem tracks_gap : Tracks bound gap := .scan yields_gap

theorem tracks_char (c : Char) : Tracks bound (char c : Parser Rule Unit) := .scan (yields_char c)

theorem tracks_commaSeparated {item : Parser Rule α} (each : Tracks bound item) :
    Tracks bound (commaSeparated item) := by
  have next : Tracks bound (do gap; char ','; gap; item : Parser Rule α) :=
    .bind tracks_gap fun _ => .bind (tracks_char ',') fun _ => .bind tracks_gap fun _ => each
  exact .bind each fun first => .bind (.many next) fun others => .pure (first :: others)

theorem tracks_parenthesised {item : Parser Rule α} (each : Tracks bound item) :
    Tracks bound (parenthesised item) := by
  refine .bind (tracks_char '(') fun _ => .bind tracks_gap fun _ => ?_
  refine .bind (.optional (tracks_commaSeparated each)) fun items => .bind tracks_gap fun _ => ?_
  exact .bind (tracks_char ')') fun _ => .pure (items.getD [])

theorem tracks_argument : Tracks bound argument :=
  .firstOf_cons (tracks_word .string Token.length_string)
    (.firstOf_cons (tracks_word .bareArgument Token.length_bareArgument) .firstOf_nil)

theorem tracks_call : Tracks bound call := by
  have name : Tracks bound (token Rule.callName Token.callName) :=
    tracks_word .callName fun taken => (Token.isCallName_of_callName taken).2
  exact .rule .call (.bind name fun _ => .bind tracks_gap fun _ =>
    .bind (tracks_parenthesised tracks_argument) fun _ => .pure _)

theorem tracks_callOperand : Tracks bound callOperand := .bind tracks_call fun _ => .pure _

theorem tracks_value : Tracks bound value := by
  have text : Tracks bound (do return Literal.text (← token Rule.string Token.string)) :=
    .bind (tracks_word .string Token.length_string) fun _ => .pure _
  have number : Tracks bound (token Rule.number Token.number) := tracks_word _ Token.length_number
  have word : Tracks bound (token Rule.word Token.word) := tracks_word _ Token.length_word
  exact .bind (.firstOf_cons text (.firstOf_cons number (.firstOf_cons word .firstOf_nil)))
    fun _ => .pure _

theorem tracks_list : Tracks bound list := by
  have item : Tracks bound (firstOf [callOperand, value]) :=
    .firstOf_cons tracks_callOperand (.firstOf_cons tracks_value .firstOf_nil)
  exact .rule .list (.bind (tracks_parenthesised item) fun _ => .pure _)

theorem tracks_empty : Tracks bound empty :=
  .bind (tracks_word Rule.emptyKeyword Token.length_emptyWord) fun _ => .pure _

end Operands

section Conditions

variable {bound : Nat}

theorem tracks_operator (name : Rule) (op : Operator) {scanner : List Char → Option (Unit × List Char)}
    (takes : ∀ {s a rest}, scanner s = some (a, rest) → rest.length ≤ s.length) :
    Tracks bound (operator name op scanner) :=
  .bind (tracks_word name takes) fun _ => .pure op

theorem tracks_isOperator : Tracks bound isOperator :=
  .firstOf_cons (tracks_operator _ _ Token.length_keywords)
    (.firstOf_cons (tracks_operator _ _ Token.shorter_keyword) .firstOf_nil)

theorem tracks_inOperator : Tracks bound inOperator :=
  .firstOf_cons (tracks_operator _ _ Token.length_keywords)
    (.firstOf_cons (tracks_operator _ _ Token.shorter_keyword) .firstOf_nil)

theorem tracks_comparing {operators : Parser Rule Operator} {operands : List (Parser Rule Operand)}
    (op : Tracks bound operators) (operand : Tracks bound (firstOf operands)) :
    Tracks bound (comparing operators operands) :=
  .bind op fun _ => .bind tracks_gap fun _ => .bind operand fun _ => .pure _

theorem tracks_comparisons : Tracks bound (firstOf comparisons) := by
  have isComparison : Tracks bound (comparing isOperator [empty]) :=
    tracks_comparing tracks_isOperator (.firstOf_cons tracks_empty .firstOf_nil)
  have inComparison : Tracks bound (comparing inOperator [callOperand, list]) :=
    tracks_comparing tracks_inOperator
      (.firstOf_cons tracks_callOperand (.firstOf_cons tracks_list .firstOf_nil))
  have sign : Tracks bound (token Rule.comparison Token.comparison) :=
    tracks_word .comparison fun taken => (Token.mem_comparisons taken).2
  have otherComparison := tracks_comparing sign (.firstOf_cons tracks_callOperand
    (.firstOf_cons tracks_empty (.firstOf_cons tracks_value .firstOf_nil)))
  exact .firstOf_cons isComparison (.firstOf_cons inComparison
    (.firstOf_cons otherComparison .firstOf_nil))

theorem tracks_field : Tracks bound (token Rule.field Token.field) :=
  tracks_word .field fun taken => (Token.isFieldName_of_field taken).2

theorem tracks_condition : Tracks bound condition :=
  .rule .condition (.bind tracks_field fun _ => .bind tracks_gap fun _ =>
    .bind tracks_comparisons fun _ => .pure _)

end Conditions

section Clauses

variable {bound : Nat} {part : Parser Rule Clause}

theorem tracks_chain {node : List Clause → Clause} {word : Parser Rule Unit}
    (separator : Tracks bound word) (each : Tracks bound part) :
    Tracks bound (chain node word part) := by
  have next : Tracks bound (do gap; word; gap; part : Parser Rule Clause) :=
    .bind tracks_gap fun _ => .bind separator fun _ => .bind tracks_gap fun _ => each
  exact .bind each fun _ => .bind (.many next) fun _ => .pure _

theorem tracks_disjunction (each : Tracks bound part) : Tracks bound (disjunction part) := by
  have conjunction : Tracks bound (conjunction part) :=
    .rule _ (tracks_chain (tracks_word .andKeyword Token.length_andWord) each)
  exact .rule _ (tracks_chain (tracks_word .orKeyword Token.length_orWord) conjunction)

/-- The levels of NOT and parentheses may go as deep as they like. -/
theorem tracks_negation (depth : Nat) : Tracks bound (negation depth) := by
  induction depth with
  | zero => exact .firstOf_nil
  | succ depth ih =>
      have word : Tracks bound (token Rule.notKeyword Token.notWord) :=
        tracks_word .notKeyword fun taken => Nat.le_of_succ_le (Token.length_notWord taken)
      refine .rule _ (.firstOf_cons ?negated (.firstOf_cons ?grouped
        (.firstOf_cons ?one .firstOf_nil)))
      case negated =>
        exact .bind word fun _ => .bind tracks_gap fun _ => .bind ih fun _ => .pure _
      case grouped =>
        refine .bind (tracks_char '(') fun _ => .bind tracks_gap fun _ => ?_
        refine .bind (tracks_disjunction ih) fun clause => .bind tracks_gap fun _ => ?_
        exact .bind (tracks_char ')') fun _ => .pure clause
      case one => exact .bind tracks_condition fun _ => .pure _

end Clauses

section Queries

variable {bound : Nat}

theorem tracks_sortKey : Tracks bound sortKey := by
  have direction : Tracks bound (do gap; token .direction Token.direction : Parser Rule Direction) :=
    .bind tracks_gap fun _ => tracks_word .direction Token.length_direction
  exact .rule .sortKey (.bind tracks_field fun _ => .bind (.optional direction) fun _ => .pure _)

theorem tracks_ordering : Tracks bound ordering :=
  .rule .ordering (.bind (tracks_word .orderKeyword Token.length_keywords) fun _ =>
    .bind tracks_gap fun _ => tracks_commaSeparated tracks_sortKey)

theorem length_atEnd {s rest : List Char} {a : Unit} (taken : atEnd s = some (a, rest)) :
    rest.length ≤ s.length := by
  unfold atEnd at taken
  split at taken
  · cases taken
    exact Nat.le_refl _
  · cases taken

/-- A query is read by a single rule around parts that keep the farthest failure inside the text. -/
theorem tracks_query (bound depth : Nat) :
    ∃ inside, query depth = rule .query inside ∧ Tracks bound inside := by
  refine ⟨_, rfl, .bind tracks_gap fun _ => ?_⟩
  refine .bind (.optional (tracks_disjunction (tracks_negation depth))) fun clause => ?_
  refine .bind tracks_gap fun _ => .bind (.optional tracks_ordering) fun keys => ?_
  exact .bind tracks_gap fun _ => .bind (tracks_word .endOfText length_atEnd) fun _ => .pure _

end Queries

end Grammar

/-- Where a text is no query, something was expected behind a first part of it. -/
theorem Query.expected_of_ofChars {s : List Char} {error : ParseError}
    (failed : Query.ofChars s = .error error) : ∃ rules before rest,
      rules ≠ [] ∧ s = before ++ rest ∧ error = .expected rules (.after before) := by
  obtain ⟨inside, same, tracks⟩ := Grammar.tracks_query (s.length + 1) (s.length + 1)
  unfold ofChars at failed
  simp only [same] at failed
  split at failed
  · cases failed
  · rename_i nothing
    rw [Parser.read_rule] at nothing
    have located := tracks.keeps s (.start s) (Nat.lt_succ_self _) (Trace.located_start s)
    have farthest : ((Parser.rule .query inside).run s (.start s)).2 =
        Trace.fail .query s.length (.start s) (inside.trace s (.start s)) := by
      rw [Parser.run_eq, Parser.trace_rule, nothing]
    cases failed
    rw [farthest, Trace.toParseError]
    exact ⟨_, s.take _, s.drop _, located.expected_of_fail .query, (List.take_append_drop _ s).symm, rfl⟩

theorem Rule.mem_all (rule : Rule) : rule ∈ all := by
  cases rule <;> decide

/-- The message names at least one rule. -/
theorem ParseError.message_expected {rules : List Rule} (nonempty : rules ≠ []) (position : Position) :
    ∃ named, named ≠ [] ∧ (expected rules position).message =
      "expected " ++ Rule.enumerate (named.map Rule.name) := by
  obtain ⟨rule, others, same⟩ := List.exists_cons_of_ne_nil nonempty
  have named : rule ∈ Rule.arranged rules := by
    rw [Rule.arranged, List.mem_filter, same]
    exact ⟨Rule.mem_all rule, List.contains_iff_mem.mpr List.mem_cons_self⟩
  exact ⟨Rule.arranged rules, List.ne_nil_of_mem named, rfl⟩

end IssueFilter
