import IssueFilter.Proofs.Query.Enclosing

/-! The arguments of a call read as the items of a list. Both are separated by commas and closed by
a parenthesis, and a quoted text is read in the same way as either; so an attempt to read a list
where the arguments of a call stand ends within them. It fails in front of more text if it fails
without. -/
namespace IssueFilter.Grammar

open IssueFilter.Parser

variable {more : List Char}

/-- Where the reading of a list can be after an item, if the items are the arguments of a call:
behind an argument, or within an argument that is no word. -/
inductive AfterItem : List Char → Prop
  | close {s rest : List Char} : Token.skipGaps s = ')' :: rest → AfterItem s
  | next {s rest after : List Char} {arg : String} : Token.skipGaps s = ',' :: rest →
      argument.read (Token.skipGaps rest) = some (arg, after) → AfterItem after → AfterItem s
  | within {c : Char} {rest : List Char} : Token.isBareArgumentChar c = true →
      AfterItem (c :: rest)

theorem AfterItem.skipGaps {s : List Char} (h : AfterItem s) :
    ∃ c rest, Token.skipGaps s = c :: rest ∧ c ≠ '(' := by
  cases h with
  | close next => exact ⟨_, _, next, by decide⟩
  | next next => exact ⟨_, _, next, by decide⟩
  | within bare =>
      refine ⟨_, _, Token.skipGaps_bare bare _, ?_⟩
      rintro rfl
      cases bare

theorem AfterItem.noCall {s : List Char} (h : AfterItem s) : Token.NoCall s := by
  obtain ⟨c, rest, next, other⟩ := h.skipGaps
  rw [Token.NoCall, next]
  rintro ⟨⟩
  exact other rfl

section Commas

variable {α : Type} {item : Parser Rule α} {s rest inside : List Char}

theorem another_of_comma (next : Token.skipGaps s = ',' :: inside) :
    (another (char ',') item).read s = item.read (Token.skipGaps inside) := by
  rw [read_another, next, read_char_self, Option.bind_some]

theorem another_of_other {c : Char} (next : Token.skipGaps s = c :: rest) (other : c ≠ ',') :
    (another (char ',') item).read s = none := by
  rw [read_another, next, read_char_other other, Option.bind_none]

theorem comma_of_another {a : α} (taken : (another (char ',') item).read s = some (a, rest)) :
    ∃ inside, Token.skipGaps s = ',' :: inside ∧
      item.read (Token.skipGaps inside) = some (a, rest) := by
  obtain ⟨inside, comma, read⟩ := another_split taken
  exact ⟨inside, char_split comma, read⟩

theorem commaSeparated_split {items : List α}
    (taken : (commaSeparated item).read s = some (items, rest)) :
    ∃ first others after, item.read s = some (first, after) ∧
      (many (another (char ',') item)).read after = some (others, rest) := by
  rw [commaSeparated, read_bind, Option.bind_eq_some_iff] at taken
  obtain ⟨⟨first, after⟩, one, taken⟩ := taken
  rw [read_bind, Option.bind_eq_some_iff] at taken
  obtain ⟨⟨others, last⟩, repeated, same⟩ := taken
  cases same
  exact ⟨first, others, after, one, repeated⟩

theorem parenthesised_split {items : List α}
    (taken : (parenthesised item).read s = some (items, rest)) :
    ∃ inside found after, s = '(' :: inside ∧
      (optional (commaSeparated item)).read (Token.skipGaps inside) = some (found, after) ∧
      Token.skipGaps after = ')' :: rest := by
  rw [parenthesised, read_bind, Option.bind_eq_some_iff] at taken
  obtain ⟨⟨_, inside⟩, opening, taken⟩ := taken
  rw [read_bind, read_gap, Option.bind_some, read_bind, Option.bind_eq_some_iff] at taken
  obtain ⟨⟨found, after⟩, separated, taken⟩ := taken
  rw [read_bind, read_gap, Option.bind_some, read_bind, Option.bind_eq_some_iff] at taken
  obtain ⟨⟨_, last⟩, closing, same⟩ := taken
  cases same
  exact ⟨inside, found, after, char_split opening, separated, char_split closing⟩

end Commas

theorem afterItem_of_repeated (bound : List Char) : ∀ s args rest,
    (another (char ',') argument).repeated bound s = (args, rest) → Closes rest → AfterItem s := by
  induction bound with
  | nil =>
      rintro s _ _ ⟨⟩ ⟨rest, next⟩
      exact .close next
  | cons _ bound ih =>
      intro s args rest repeated closes
      rw [Parser.repeated] at repeated
      cases taken : (another (char ',') argument).read s with
      | none =>
          rw [taken] at repeated
          cases repeated
          obtain ⟨rest, next⟩ := closes
          exact .close next
      | some answer =>
          rw [taken] at repeated
          cases repeated
          obtain ⟨inside, next, read⟩ := comma_of_another taken
          exact .next next read (ih answer.2 _ _ rfl closes)

/-- The arguments as they stand in the text. -/
theorem arguments_split {s rest : List Char} {args : List String}
    (taken : (parenthesised argument).read s = some (args, rest)) :
    ∃ inside, s = '(' :: inside ∧ (Closes inside ∨ ∃ arg after,
      argument.read (Token.skipGaps inside) = some (arg, after) ∧ AfterItem after) := by
  obtain ⟨inside, found, after, rfl, separated, closing⟩ := parenthesised_split taken
  refine ⟨inside, rfl, ?_⟩
  rw [read_optional, Option.or_eq_some_iff, Option.map_eq_some_iff] at separated
  rcases separated with ⟨⟨items, last⟩, present, same⟩ | ⟨-, same⟩
  · cases same
    obtain ⟨arg, others, middle, first, repeated⟩ := commaSeparated_split present
    exact .inr ⟨arg, middle, first, afterItem_of_repeated _ middle others last
      (Option.some.inj repeated) ⟨rest, closing⟩⟩
  · cases same
    rw [Token.skipGaps_skipGaps] at closing
    exact .inl ⟨rest, closing⟩

section Items

variable {s after : List Char} {arg : String}

theorem value_of_unquoted (unquoted : Token.string s = none) : value.read s =
    ((firstOf [token Rule.number Token.number, token Rule.word Token.word]).read s).bind
      fun answer => some (.single answer.1, answer.2) := by
  rw [value, read_bind, read_firstOf_cons, read_bind, read_token, unquoted, Option.bind_none,
    Option.none_or]
  rfl

theorem item_of_string (quoted : Token.string s = some (arg, after)) :
    (firstOf [callOperand, value]).read s = some (.single (.text arg), after) := by
  have noCall : callOperand.read s = none := callOperand_of_string quoted
  simp only [read_firstOf_cons, noCall, Option.none_or, value, read_bind, read_token, quoted,
    Option.bind_some, read_pure, Option.some_or]

/-- The end of an argument without quotes. -/
theorem stops_close (more : List Char) (stops : Token.Stops Token.isBareArgumentChar after) :
    Token.Stops Token.isBareArgumentChar (after ++ ')' :: more) := by
  cases after with
  | nil =>
      rintro c ⟨⟩
      rfl
  | cons d after => exact stops

theorem item_of_bare {text : List Char} (nonempty : text ≠ [])
    (all : ∀ c ∈ text, Token.isBareArgumentChar c = true)
    (stops : Token.Stops Token.isBareArgumentChar after) (noCall : Token.NoCall after) :
    (firstOf [callOperand, value]).read (text ++ after) =
      ((firstOf [token Rule.number Token.number, token Rule.word Token.word]).read
        (text ++ after)).bind fun answer => some (.single answer.1, answer.2) := by
  have ends : Token.Stops (fun c => c.isAlphanum || c = '_') after := stops.mono fun c inName =>
    isBareArgumentChar_of_isWordChar (isWordChar_of_callNameChar inName)
  have unquoted : Token.string (text ++ after) = none := by
    obtain ⟨c, others, rfl⟩ := List.exists_cons_of_ne_nil nonempty
    exact Token.string_of_bare (all c List.mem_cons_self) _
  rw [read_firstOf_cons, callOperand_of_call (call_of_bare nonempty all ends noCall), Option.none_or,
    read_firstOf_single, value_of_unquoted unquoted]

/-- An item is read off the text of an argument without regard to what follows, and up to the end of
the argument or less. -/
theorem item_of_argument (more : List Char) (taken : argument.read s = some (arg, after))
    (noCall : Token.NoCall after) :
    BlindAt (')' :: more) s (firstOf [callOperand, value]).read ∧
      ∀ operand rest, (firstOf [callOperand, value]).read s = some (operand, rest) →
        rest = after ∨ ∃ c others, rest = c :: others ∧ Token.isBareArgumentChar c = true := by
  rw [argument, read_firstOf_cons, read_firstOf_single, Option.or_eq_some_iff] at taken
  rcases taken with quoted | ⟨-, bare⟩
  · have read := item_of_string quoted
    have again := item_of_string (Token.keeps_string (')' :: more) (fun _ => True) s arg after quoted
      trivial)
    refine ⟨.of_reads read again, fun operand rest item => ?_⟩
    cases read.symm.trans item
    exact .inl rfl
  · obtain ⟨⟨text, after⟩, found, same⟩ := Option.map_eq_some_iff.mp bare
    cases same
    obtain ⟨rfl, nonempty, all, stops⟩ := Token.run_split found
    have read := item_of_bare nonempty all stops noCall
    have again := item_of_bare nonempty all (stops_close more stops) (noCall_close noCall)
    constructor
    · rw [BlindAt, read, List.append_assoc, again, ← List.append_assoc, blind_literal]
      cases (firstOf [token Rule.number Token.number, token Rule.word Token.word]).read
        (text ++ after) with
      | none => rfl
      | some answer => rfl
    · intro operand rest item
      obtain ⟨⟨literal, rest⟩, taken, same⟩ := Option.bind_eq_some_iff.mp (read.symm.trans item)
      cases same
      obtain ⟨word, first⟩ := firstWord_of_literal taken
      have inWord : ∀ c ∈ word, Token.isBareArgumentChar c = true :=
        fun c member => isBareArgumentChar_of_isWordChar (first.word c member)
      -- The argument goes on to the first character that no argument has.
      have ends : rest.dropWhile Token.isBareArgumentChar = after := by
        rw [← List.dropWhile_append_of_pos inWord, ← first.split, Token.dropWhile_append all stops]
      cases rest with
      | nil => exact .inl ends
      | cons c others =>
          cases isBare : Token.isBareArgumentChar c with
          | true => exact .inr ⟨c, others, rfl, isBare⟩
          | false =>
              rw [List.dropWhile_cons, isBare, if_neg Bool.false_ne_true] at ends
              exact .inl ends

/-- Another item where another argument may stand. -/
theorem another_blindAt (more : List Char) (h : AfterItem s) :
    BlindAt (')' :: more) s (another (char ',') (firstOf [callOperand, value])).read ∧
      ∀ operand rest, (another (char ',') (firstOf [callOperand, value])).read s =
        some (operand, rest) → AfterItem rest := by
  have stuck : ∀ {c others}, Token.skipGaps s = c :: others → c ≠ ',' →
      BlindAt (')' :: more) s (another (char ',') (firstOf [callOperand, value])).read ∧
        ∀ operand rest, (another (char ',') (firstOf [callOperand, value])).read s =
          some (operand, rest) → AfterItem rest := by
    intro c others next other
    have failure : (another (char ',') (firstOf [callOperand, value])).read s = none :=
      another_of_other next other
    have longer : Token.skipGaps (s ++ ')' :: more) = c :: (others ++ ')' :: more) := by
      rw [Token.skipGaps_close, next, List.cons_append]
    refine ⟨.of_fails failure (another_of_other longer other), fun operand rest taken => ?_⟩
    rw [failure] at taken
    cases taken
  cases h with
  | close next => exact stuck next (by decide)
  | @within c rest bare =>
      refine stuck (Token.skipGaps_bare bare rest) ?_
      rintro rfl
      cases bare
  | @next _ inside after arg comma taken follows =>
      obtain ⟨blind, ends⟩ := item_of_argument more taken follows.noCall
      have read : (another (char ',') (firstOf [callOperand, value])).read s =
          (firstOf [callOperand, value]).read (Token.skipGaps inside) := another_of_comma comma
      have longer : Token.skipGaps (s ++ ')' :: more) = ',' :: (inside ++ ')' :: more) := by
        rw [Token.skipGaps_close, comma, List.cons_append]
      constructor
      · rw [BlindAt, another_of_comma longer, read, Token.skipGaps_close, blind]
      · intro operand rest item
        rcases ends operand rest (read.symm.trans item) with rfl | ⟨c, others, rfl, isBare⟩
        · exact follows
        · exact .within isBare

theorem length_another (s : List Char) (operand : Operand) (rest : List Char)
    (taken : (another (char ',') (firstOf [callOperand, value])).read s = some (operand, rest)) :
    rest.length < s.length := by
  obtain ⟨inside, comma, item⟩ := comma_of_another taken
  have shorter := (yields_item _ _ _ (Nat.lt_succ_self _) item).2
  have before := Token.length_skipGaps s
  have between := Token.length_skipGaps inside
  rw [comma, List.length_cons] at before
  omega

theorem commaSeparated_blindAt (more : List Char) (taken : argument.read s = some (arg, after))
    (follows : AfterItem after) :
    BlindAt (')' :: more) s (commaSeparated (firstOf [callOperand, value])).read ∧
      ∀ items rest, (commaSeparated (firstOf [callOperand, value])).read s = some (items, rest) →
        AfterItem rest := by
  obtain ⟨blind, ends⟩ := item_of_argument more taken follows.noCall
  have behind : ∀ operand rest, (firstOf [callOperand, value]).read s = some (operand, rest) →
      AfterItem rest := by
    intro operand rest item
    rcases ends operand rest item with rfl | ⟨c, others, rfl, isBare⟩
    · exact follows
    · exact .within isBare
  have others : ∀ rest, AfterItem rest →
      BlindAt (')' :: more) rest (many (another (char ',') (firstOf [callOperand, value]))).read ∧
        ∀ items last, (many (another (char ',') (firstOf [callOperand, value]))).read rest =
          some (items, last) → AfterItem last := fun rest holds =>
    BlindAt.many length_another (fun _ holds => (another_blindAt more holds).1)
      (fun _ operand last holds => (another_blindAt more holds).2 operand last) holds
  constructor
  · exact .bind blind fun first rest item =>
      .bind (others rest (behind first rest item)).1 fun _ last _ => Blind.pure _ last
  · intro items rest separated
    obtain ⟨first, later, middle, item, repeated⟩ := commaSeparated_split separated
    exact (others middle (behind first middle item)).2 later rest repeated

end Items

theorem closing_blindAt {α : Type} {s others : List Char} {c : Char}
    (next : Token.skipGaps s = c :: others) (a : α) :
    BlindAt (')' :: more) s (do gap; char ')'; return a : Parser Rule α).read := by
  refine .bind (blind_gap s) fun _ rest skipped => ?_
  cases skipped
  refine .bind ?_ fun _ last _ => Blind.pure _ last
  rw [next]
  by_cases closes : c = ')'
  · subst closes
    exact .of_reads (read_char_self ')' others) (read_char_self ')' _)
  · exact .of_fails (read_char_other closes others) (read_char_other closes _)

/-- What a list has in common with the arguments of a call: something stands behind the items. -/
theorem list_blindAt_of_items {inside : List Char}
    (items : BlindAt (')' :: more) (Token.skipGaps inside)
      (optional (commaSeparated (firstOf [callOperand, value]))).read)
    (behind : ∀ found middle, (optional (commaSeparated (firstOf [callOperand, value]))).read
      (Token.skipGaps inside) = some (found, middle) →
        ∃ c others, Token.skipGaps middle = c :: others) :
    BlindAt (')' :: more) ('(' :: inside) list.read := by
  refine .bind (.bind (blind_char (by decide) _) fun _ after opening => ?_) fun _ last _ =>
    Blind.pure _ last
  cases opening
  refine .bind (blind_gap inside) fun _ after skipped => ?_
  cases skipped
  refine .bind items fun found middle read => ?_
  obtain ⟨c, others, next⟩ := behind found middle read
  exact closing_blindAt next _

theorem list_blindAt_of_closes {inside : List Char} (closes : Closes inside) :
    BlindAt (')' :: more) ('(' :: inside) list.read := by
  obtain ⟨last, next⟩ := closes
  have absent : ∀ tail, (commaSeparated (firstOf [callOperand, value])).read (')' :: tail) = none := by
    intro tail
    rw [commaSeparated, read_bind, item_of_closes _ ⟨tail, rfl⟩, Option.bind_none]
  apply list_blindAt_of_items
  · rw [next]
    exact .optional (.of_fails (absent last) (absent _))
  · intro found middle read
    rw [next, read_optional_of_none (absent last)] at read
    cases read
    exact ⟨')', last, rfl⟩

theorem list_blindAt_of_argument {inside after : List Char} {arg : String}
    (taken : argument.read (Token.skipGaps inside) = some (arg, after)) (follows : AfterItem after) :
    BlindAt (')' :: more) ('(' :: inside) list.read := by
  obtain ⟨blind, ends⟩ := commaSeparated_blindAt more taken follows
  apply list_blindAt_of_items (.optional blind)
  intro found middle read
  rw [read_optional, Option.or_eq_some_iff, Option.map_eq_some_iff] at read
  rcases read with ⟨⟨items, last⟩, separated, same⟩ | ⟨-, same⟩
  · cases same
    obtain ⟨c, others, next, -⟩ := (ends items last separated).skipGaps
    exact ⟨c, others, next⟩
  · cases same
    rw [Token.skipGaps_skipGaps]
    apply List.exists_cons_of_ne_nil
    intro nothing
    rw [nothing] at taken
    cases taken

/-- A list is read, or not read, where the arguments of a call stand without regard to what follows
these. -/
theorem list_blindAt {s rest : List Char} {args : List String}
    (taken : (parenthesised argument).read s = some (args, rest)) :
    BlindAt (')' :: more) s list.read := by
  obtain ⟨inside, rfl, closes | ⟨arg, after, first, follows⟩⟩ := arguments_split taken
  · exact list_blindAt_of_closes closes
  · exact list_blindAt_of_argument first follows

end IssueFilter.Grammar
