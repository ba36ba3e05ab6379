import IssueFilter.Proofs.Query.Closing
import IssueFilter.Proofs.Query.Rereading

/-! Operands and conditions in front of a closing parenthesis. What is read as one of them off a
text is read off it in front of a parenthesis too, if no parenthesis opens behind it: then a word
was not taken for a call, and it is not taken for one now. -/
namespace IssueFilter.Grammar

open IssueFilter.Parser

variable {more : List Char}

section Sequences

variable {α β γ : Type} {tail : List Char}

theorem blind_gap : Blind (')' :: more) gap.read := by
  intro s
  rw [read_gap, Token.skipGaps_close]
  rfl

theorem blind_char {c : Char} (other : c ≠ ')') :
    Blind (')' :: more) (char c : Parser Rule Unit).read := by
  intro s
  cases s with
  | nil => exact read_char_other (Ne.symm other) more
  | cons d s =>
      by_cases same : d = c
      · subst same
        rw [List.cons_append, read_char_self, read_char_self]
        rfl
      · rw [List.cons_append, read_char_other same, read_char_other same]
        rfl

theorem keeps_char (c : Char) (Q : List Char → Prop) :
    Keeps tail Q (char c : Parser Rule Unit).read := by
  intro s a rest taken _
  rw [char_split taken, List.cons_append, read_char_self]

/-- Another item of a sequence, behind the separator. -/
def another (separator : Parser Rule Unit) (item : Parser Rule α) : Parser Rule α := do
  gap
  separator
  gap
  item

theorem read_another (separator : Parser Rule Unit) (item : Parser Rule α) (s : List Char) :
    (another separator item).read s = (separator.read (Token.skipGaps s)).bind fun answer =>
      item.read (Token.skipGaps answer.2) := rfl

theorem another_split {separator : Parser Rule Unit} {item : Parser Rule α} {s rest : List Char}
    {a : α} (taken : (another separator item).read s = some (a, rest)) :
    ∃ after, separator.read (Token.skipGaps s) = some ((), after) ∧
      item.read (Token.skipGaps after) = some (a, rest) := by
  rw [read_another, Option.bind_eq_some_iff] at taken
  obtain ⟨⟨_, after⟩, separated, read⟩ := taken
  exact ⟨after, separated, read⟩

/-- A chain is kept by a separator that is blind, if it is clear from the text whether one comes
next. -/
theorem keeps_separated {item : Parser Rule α} {separator : Parser Rule Unit}
    {Q R : List Char → Prop} (each : Keeps (')' :: more) R item.read)
    (blind : Blind (')' :: more) separator.read)
    (goesOn : ∀ s a rest, separator.read (Token.skipGaps s) = some (a, rest) → R s)
    (ends : ∀ s, Q s → R s) (stops : ∀ s, Q s → separator.read (Token.skipGaps s) = none)
    (f : List α → γ) :
    Keeps (')' :: more) Q (do
      let first ← item
      let others ← many (another separator item)
      return f (first :: others) : Parser Rule γ).read := by
  have step : Keeps (')' :: more) R (another separator item).read :=
    .after blind_gap fun _ => .after blind fun _ => .after blind_gap fun _ => each
  have next : ∀ s a rest, (another separator item).read s = some (a, rest) → R s := by
    intro s a rest taken
    obtain ⟨after, separated, -⟩ := another_split taken
    exact goesOn s () after separated
  have stuck : ∀ s, Q s → (another separator item).read (s ++ ')' :: more) = none := by
    intro s holds
    rw [read_another, Token.skipGaps_close, blind.fails (stops s holds), Option.bind_none]
  have others := Keeps.many step next ends stuck
  refine .bind each (fun first => .bind others (fun items => (Blind.pure _).keeps) ?_) ?_
  · rintro _ s _ _ ⟨⟩ holds
    exact holds
  · intro first s b rest taken holds
    rw [read_bind, Option.bind_eq_some_iff] at taken
    obtain ⟨⟨items, after⟩, repeated, same⟩ := taken
    cases same
    exact Keeps.many_begins next ends repeated holds

/-- A closing parenthesis comes next. -/
def Closes (s : List Char) : Prop := ∃ rest, Token.skipGaps s = ')' :: rest

theorem Closes.noCall {s : List Char} (closes : Closes s) : Token.NoCall s := by
  obtain ⟨rest, next⟩ := closes
  rw [Token.NoCall, next]
  rintro ⟨⟩

theorem Closes.head {s : List Char} (closes : Closes s) :
    ∃ c rest, s = c :: rest ∧ (c = ' ' ∨ c = '\t' ∨ c = '\r' ∨ c = '\n' ∨ c = ')') := by
  obtain ⟨rest, next⟩ := closes
  cases s with
  | nil => cases next
  | cons c s =>
      refine ⟨c, s, rfl, ?_⟩
      cases gap : Token.isGap c with
      | true =>
          simp only [Token.isGap, Bool.or_eq_true, decide_eq_true_eq] at gap
          rcases gap with ((rfl | rfl) | rfl) | rfl <;> simp
      | false =>
          rw [Token.skipGaps, List.dropWhile_cons, gap, if_neg Bool.false_ne_true] at next
          cases next
          simp

theorem closes_of_closing {s rest : List Char} {b : β} {f : Unit → Parser Rule β}
    (taken : (gap >>= fun _ => char ')' >>= f).read s = some (b, rest)) : Closes s := by
  rw [read_bind, read_gap, Option.bind_some, read_bind, Option.bind_eq_some_iff] at taken
  obtain ⟨answer, closing, -⟩ := taken
  exact ⟨answer.2, char_split closing⟩

theorem noCall_close {s : List Char} (noCall : Token.NoCall s) : Token.NoCall (s ++ ')' :: more) := by
  rw [Token.NoCall, Token.skipGaps_close]
  unfold Token.NoCall at noCall
  cases after : Token.skipGaps s with
  | nil => rintro ⟨⟩
  | cons c rest =>
      rw [after] at noCall
      exact noCall

theorem keeps_commaSeparated {item : Parser Rule α}
    (each : Keeps (')' :: more) Token.NoCall item.read) :
    Keeps (')' :: more) Closes (commaSeparated item).read := by
  refine keeps_separated each (blind_char (by decide)) ?_ (fun s => Closes.noCall) ?_ id
  · intro s a rest comma
    rw [Token.NoCall, char_split comma]
    rintro ⟨⟩
  · rintro s ⟨rest, next⟩
    rw [next]
    exact read_char_other (by decide) rest

theorem keeps_parenthesised {item : Parser Rule α}
    (each : Keeps (')' :: more) Token.NoCall item.read)
    (stuck : ∀ s, Closes s → item.read s = none) (Q : List Char → Prop) :
    Keeps (')' :: more) Q (parenthesised item).read := by
  have absent : ∀ s, (commaSeparated item).read s = none → Closes s →
      (commaSeparated item).read (s ++ ')' :: more) = none := by
    rintro s - ⟨rest, next⟩
    have closes : Closes (s ++ ')' :: more) :=
      ⟨rest ++ ')' :: more, by rw [Token.skipGaps_close, next]; rfl⟩
    rw [commaSeparated, read_bind, stuck _ closes, Option.bind_none]
  refine .after (blind_char (by decide)) fun _ => .after blind_gap fun _ =>
    .bind (.optional (keeps_commaSeparated each) absent) (fun items => ?_) ?_
  · exact .after blind_gap fun _ => .map (keeps_char ')' _) fun _ => items.getD []
  · intro items s b rest taken _
    exact closes_of_closing taken

end Sequences

section Operands

variable {Q : List Char → Prop}

theorem keeps_argument (Q : List Char → Prop) : Keeps (')' :: more) Q argument.read := by
  refine .firstOf_cons (Token.keeps_string _ Q) (.single Token.blind_bareArgument.keeps) ?_
  intro s a rest _ taken _
  rw [read_firstOf_single] at taken
  obtain ⟨⟨text, after⟩, found, -⟩ := Option.map_eq_some_iff.mp taken
  obtain ⟨rfl, nonempty, all, -⟩ := Token.run_split found
  cases text with
  | nil => exact absurd rfl nonempty
  | cons c text => exact Token.string_of_bare (all c List.mem_cons_self) _

theorem argument_of_closes (s : List Char) (closes : Closes s) : argument.read s = none := by
  obtain ⟨c, rest, rfl, rfl | rfl | rfl | rfl | rfl⟩ := closes.head <;> rfl

theorem keeps_call (Q : List Char → Prop) : Keeps (')' :: more) Q call.read := by
  have arguments : Keeps (')' :: more) Q (parenthesised argument).read :=
    keeps_parenthesised (keeps_argument _) argument_of_closes Q
  exact .rule .call (.after Token.blind_callName fun name => .after blind_gap fun _ =>
    .map arguments (Call.mk name))

theorem keeps_callOperand (Q : List Char → Prop) : Keeps (')' :: more) Q callOperand.read :=
  .map (keeps_call Q) Operand.call

theorem firstWord_of_literal {s rest : List Char} {literal : Literal}
    (taken : (firstOf [token Rule.number Token.number, token Rule.word Token.word]).read s =
      some (literal, rest)) : ∃ text, Token.FirstWord s text rest := by
  simp only [read_firstOf_cons, Option.or_eq_some_iff] at taken
  rcases taken with number | ⟨-, word | ⟨-, none⟩⟩
  · exact Token.firstWord_of_number number
  · exact Token.firstWord_of_word word
  · cases none

theorem blind_literal : Blind (')' :: more)
    (firstOf [token Rule.number Token.number, token Rule.word Token.word]).read :=
  .firstOf_cons Token.blind_number (.firstOf_cons Token.blind_word .firstOf_nil)

theorem keeps_value (Q : List Char → Prop) : Keeps (')' :: more) Q value.read := by
  have quoted : Keeps (')' :: more) Q
      (do return Literal.text (← token .string Token.string) : Parser Rule Literal).read :=
    .map (Token.keeps_string _ Q) Literal.text
  refine .map (.firstOf_cons quoted blind_literal.keeps ?_) Operand.single
  intro s literal rest _ taken _
  obtain ⟨text, first⟩ := firstWord_of_literal taken
  obtain ⟨c, others, rfl, isWord⟩ := first.head
  rw [read_bind, read_token, List.cons_append,
    Token.string_of_bare (isBareArgumentChar_of_isWordChar isWord), Option.bind_none]

/-- A literal is a quoted text or a word. -/
theorem value_split {s rest : List Char} {operand : Operand}
    (taken : value.read s = some (operand, rest)) :
    (∃ text, Token.string s = some (text, rest)) ∨ ∃ text, Token.FirstWord s text rest := by
  rw [value, read_bind, Option.bind_eq_some_iff] at taken
  obtain ⟨⟨literal, after⟩, found, same⟩ := taken
  cases same
  rw [read_firstOf_cons, Option.or_eq_some_iff] at found
  rcases found with quoted | ⟨-, bare⟩
  · obtain ⟨⟨text, after⟩, string, same⟩ := Option.bind_eq_some_iff.mp quoted
    cases same
    exact .inl ⟨text, string⟩
  · exact .inr (firstWord_of_literal bare)

/-- A word is not taken for a call if no parenthesis opens behind it. -/
theorem callOperand_of_firstWord {s text rest : List Char} (first : Token.FirstWord s text rest)
    (noCall : Token.NoCall rest) : callOperand.read (s ++ ')' :: more) = none := by
  have ends : EndsOperand (rest ++ ')' :: more) :=
    ⟨(Token.atWordEnd_close rest more).trans first.wordEnd, noCall_close noCall⟩
  rw [first.split, List.append_assoc]
  exact callOperand_of_call (call_of_word first.nonempty first.word ends)

theorem callOperand_of_string {s rest : List Char} {text : String}
    (quoted : Token.string s = some (text, rest)) : callOperand.read s = none := by
  unfold Token.string at quoted
  split at quoted
  · rfl
  · rfl
  · cases quoted

theorem callOperand_of_value {s rest : List Char} {operand : Operand}
    (taken : value.read s = some (operand, rest)) (noCall : Token.NoCall rest) :
    callOperand.read (s ++ ')' :: more) = none := by
  rcases value_split taken with ⟨text, quoted⟩ | ⟨text, first⟩
  · exact callOperand_of_string (Token.keeps_string _ (fun _ => True) s text rest quoted trivial)
  · exact callOperand_of_firstWord first noCall

theorem blind_empty : Blind (')' :: more) empty.read :=
  .bind Token.blind_emptyWord fun _ => .pure _

theorem keeps_item : Keeps (')' :: more) Token.NoCall (firstOf [callOperand, value]).read := by
  refine .firstOf_cons (keeps_callOperand _) (.single (keeps_value _)) ?_
  intro s operand rest _ taken noCall
  rw [read_firstOf_single] at taken
  exact callOperand_of_value taken noCall

theorem item_of_closes (s : List Char) (closes : Closes s) :
    (firstOf [callOperand, value]).read s = none := by
  obtain ⟨c, rest, rfl, rfl | rfl | rfl | rfl | rfl⟩ := closes.head <;> rfl

theorem keeps_list (Q : List Char → Prop) : Keeps (')' :: more) Q list.read :=
  .rule .list (.map (keeps_parenthesised keeps_item item_of_closes Q) Operand.list)

theorem opening_of_parenthesised {α : Type} {item : Parser Rule α} {s rest : List Char}
    {items : List α} (taken : (parenthesised item).read s = some (items, rest)) :
    ∃ inside, s = '(' :: inside := by
  rw [parenthesised, read_bind, Option.bind_eq_some_iff] at taken
  obtain ⟨⟨_, inside⟩, opening, -⟩ := taken
  exact ⟨inside, char_split opening⟩

theorem opening_of_list {s rest : List Char} {operand : Operand}
    (taken : list.read s = some (operand, rest)) : ∃ inside, s = '(' :: inside := by
  rw [list, read_rule, read_bind, Option.bind_eq_some_iff] at taken
  obtain ⟨answer, items, -⟩ := taken
  exact opening_of_parenthesised items

theorem keeps_members (Q : List Char → Prop) :
    Keeps (')' :: more) Q (firstOf [callOperand, list]).read := by
  refine .firstOf_cons (keeps_callOperand _) (.single (keeps_list _)) ?_
  intro s operand rest _ taken _
  rw [read_firstOf_single] at taken
  obtain ⟨inside, rfl⟩ := opening_of_list taken
  rfl

theorem keeps_compared :
    Keeps (')' :: more) Token.NoCall (firstOf [callOperand, empty, value]).read := by
  have afterCall : Keeps (')' :: more) Token.NoCall (firstOf [empty, value]).read :=
    .firstOf_cons blind_empty.keeps (.single (keeps_value _)) fun _ _ _ failure _ _ =>
      blind_empty.fails failure
  refine .firstOf_cons (keeps_callOperand _) afterCall ?_
  intro s operand rest _ taken noCall
  rw [read_firstOf_cons, read_firstOf_single, Option.or_eq_some_iff] at taken
  rcases taken with taken | ⟨-, taken⟩
  · obtain ⟨⟨_, after⟩, word, same⟩ := Option.bind_eq_some_iff.mp taken
    cases same
    obtain ⟨text, first, -⟩ := Token.firstWord_of_emptyWord word
    exact callOperand_of_firstWord first noCall
  · exact callOperand_of_value taken noCall

end Operands

section Conditions

theorem blind_operators {first second : Rule} {negative positive : Operator}
    {words word : List Char → Option (Unit × List Char)} (negated : Blind (')' :: more) words)
    (plain : Blind (')' :: more) word) :
    Blind (')' :: more)
      (firstOf [operator first negative words, operator second positive word]).read :=
  .firstOf_cons (.bind negated fun _ => .pure negative)
    (.firstOf_cons (.bind plain fun _ => .pure positive) .firstOf_nil)

theorem blind_isOperator : Blind (')' :: more) isOperator.read :=
  blind_operators (Token.blind_keywords (by decide) (by decide)) (Token.blind_keyword (by decide))

theorem blind_inOperator : Blind (')' :: more) inOperator.read :=
  blind_operators (Token.blind_keywords (by decide) (by decide)) (Token.blind_keyword (by decide))

theorem keeps_comparing {operators : Parser Rule Operator} {operands : List (Parser Rule Operand)}
    {Q : List Char → Prop} (op : Blind (')' :: more) operators.read)
    (operand : Keeps (')' :: more) Q (firstOf operands).read) :
    Keeps (')' :: more) Q (comparing operators operands).read :=
  .after op fun op => .after blind_gap fun _ => .map operand fun operand => (op, operand)

theorem blind_isComparing : Blind (')' :: more) (comparing isOperator [empty]).read :=
  .bind blind_isOperator fun op => .bind blind_gap fun _ =>
    .bind (.firstOf_cons blind_empty .firstOf_nil) fun operand => .pure (op, operand)

/-- The operators that are words come in pairs: one with NOT and one without. -/
theorem operator_cases {first second : Rule} {negative positive op : Operator}
    {words word : List Char → Option (Unit × List Char)} {s rest : List Char}
    (taken : (firstOf [operator first negative words, operator second positive word]).read s =
      some (op, rest)) :
    (op = negative ∧ words s = some ((), rest)) ∨ op = positive ∧ word s = some ((), rest) := by
  rw [read_firstOf_cons, read_firstOf_single, Option.or_eq_some_iff] at taken
  rcases taken with taken | ⟨-, taken⟩
  · obtain ⟨⟨_, after⟩, found, same⟩ := Option.bind_eq_some_iff.mp taken
    cases same
    exact .inl ⟨rfl, found⟩
  · obtain ⟨⟨_, after⟩, found, same⟩ := Option.bind_eq_some_iff.mp taken
    cases same
    exact .inr ⟨rfl, found⟩

theorem firstWord_of_inOperator {s rest : List Char} {op : Operator}
    (taken : inOperator.read s = some (op, rest)) : ∃ text after, Token.FirstWord s text after := by
  rcases operator_cases taken with ⟨-, words⟩ | ⟨-, word⟩
  · obtain ⟨after, word, -⟩ := Token.keyword_of_keywords words
    obtain ⟨text, first, -⟩ := Token.firstWord_of_keyword rfl (by decide) word
    exact ⟨text, after, first⟩
  · obtain ⟨text, first, -⟩ := Token.firstWord_of_keyword rfl (by decide) word
    exact ⟨text, rest, first⟩

/-- A comparison sign is not the beginning of a word. -/
theorem inOperator_of_comparison {s rest : List Char} {op : Operator}
    (taken : Token.comparison s = some (op, rest)) : inOperator.read s = none := by
  cases word : inOperator.read s with
  | none => rfl
  | some answer =>
      obtain ⟨text, after, first⟩ := firstWord_of_inOperator word
      obtain ⟨c, others, rfl, isWord⟩ := first.head
      rw [Token.comparison_of_word isWord] at taken
      cases taken

theorem keeps_comparisons : Keeps (')' :: more) Token.NoCall (firstOf comparisons).read := by
  have signs : Keeps (')' :: more) Token.NoCall (comparing (token .comparison Token.comparison)
      [callOperand, empty, value]).read :=
    keeps_comparing Token.blind_comparison keeps_compared
  refine .firstOf_cons blind_isComparing.keeps (.firstOf_cons
    (keeps_comparing blind_inOperator (keeps_members _)) (.single signs) ?_) ?_
  · intro s compared rest _ taken _
    obtain ⟨op, operand⟩ := compared
    rw [read_firstOf_single] at taken
    obtain ⟨after, sign, -⟩ := comparing_split taken
    exact comparing_of_none (blind_inOperator.fails (inOperator_of_comparison sign))
  · exact fun s compared rest failure _ _ => blind_isComparing.fails failure

theorem keeps_condition : Keeps (')' :: more) Token.NoCall condition.read := by
  change Keeps (')' :: more) Token.NoCall (token Rule.field Token.field >>= fun field =>
    gap >>= fun _ => firstOf comparisons >>= fun compared =>
      pure (Condition.mk field compared.1 compared.2)).read
  exact .after Token.blind_field fun field => .after blind_gap fun _ => .map keeps_comparisons _

end Conditions

end IssueFilter.Grammar
