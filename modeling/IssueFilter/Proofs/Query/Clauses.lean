import IssueFilter.Proofs.Query.Conditions

/-! Reading clauses back. A clause is printed for one of three places: alone, which is with
parentheses if it is an AND or an OR; as a part of an OR; and as a whole. For each place a parser
reads it back, provided that the text after it does not go on with the words the parser looks for.
The induction is on the clause, and the depth of the parser is bounded by the length of the text. It
is the same for every family of parsers that reads conditions, negations and groups, and whatever the
parsers take a condition for. -/
namespace IssueFilter

/-- The clauses of the parser in which no AND stands directly in an AND and no OR in an OR. -/
inductive Clause.Canonical : Clause → Prop
  | condition {c : Condition} : c.isShaped = true → c.isDoubleNot = false →
      Canonical (.condition c)
  | not {child : Clause} : Canonical child → Canonical (.not child)
  | and {first second : Clause} {others : List Clause} :
      (∀ child ∈ first :: second :: others, Canonical child) →
      (∀ child ∈ first :: second :: others, child.precedence ≠ 1) →
      Canonical (.and (first :: second :: others))
  | or {first second : Clause} {others : List Clause} :
      (∀ child ∈ first :: second :: others, Canonical child) →
      (∀ child ∈ first :: second :: others, child.precedence ≠ 0) →
      Canonical (.or (first :: second :: others))

mutual

/-- The clause with another clause in the place of each condition. -/
def Clause.expand (f : Condition → Clause) : Clause → Clause
  | .and children => .and (Clause.expandList f children)
  | .or children => .or (Clause.expandList f children)
  | .not child => .not (child.expand f)
  | .condition c => f c

def Clause.expandList (f : Condition → Clause) : List Clause → List Clause
  | [] => []
  | child :: children => child.expand f :: Clause.expandList f children

end

theorem Clause.expandList_eq_map (f : Condition → Clause) (children : List Clause) :
    Clause.expandList f children = children.map (Clause.expand f) := by
  induction children with
  | nil => rfl
  | cons child children ih => rw [Clause.expandList, ih, List.map_cons]

mutual

/-- The clause stays as it is if and only if each of its conditions does. -/
theorem Clause.expand_eq_self_iff (f : Condition → Clause) : ∀ clause : Clause,
    clause.expand f = clause ↔ ∀ c ∈ clause.conditions, f c = .condition c
  | .and children | .or children => by
      rw [Clause.expand, Clause.conditions, ← Clause.expandList_eq_self_iff]
      simp
  | .not child => by
      rw [Clause.expand, Clause.conditions, ← child.expand_eq_self_iff]
      simp
  | .condition c => by simp [Clause.expand, Clause.conditions]

theorem Clause.expandList_eq_self_iff (f : Condition → Clause) : ∀ children : List Clause,
    Clause.expandList f children = children ↔
      ∀ c ∈ Clause.conditionsOfList children, f c = .condition c
  | [] => by simp [Clause.expandList, Clause.conditionsOfList]
  | child :: children => by
      simp only [Clause.expandList, Clause.conditionsOfList, List.cons.injEq,
        child.expand_eq_self_iff, Clause.expandList_eq_self_iff f children, List.mem_append, or_imp,
        forall_and]

end

mutual

theorem Clause.conditions_expand (f : Condition → Clause) : ∀ clause : Clause,
    (clause.expand f).conditions = clause.conditions.flatMap fun c => (f c).conditions
  | .and children | .or children => Clause.conditions_expandList f children
  | .not child => Clause.conditions_expand f child
  | .condition c => by simp [Clause.expand, Clause.conditions]

theorem Clause.conditions_expandList (f : Condition → Clause) : ∀ children : List Clause,
    Clause.conditionsOfList (Clause.expandList f children) =
      (Clause.conditionsOfList children).flatMap fun c => (f c).conditions
  | [] => rfl
  | child :: children => by
      rw [Clause.expandList, Clause.conditionsOfList, Clause.conditionsOfList,
        Clause.conditions_expand f child, Clause.conditions_expandList f children,
        List.flatMap_append]

end

/-- The query with another clause in the place of each condition. -/
def Query.expand (f : Condition → Clause) (query : Query) : Query where
  clause := query.clause.map (Clause.expand f)
  orderBy := query.orderBy

theorem Query.expand_eq_self_iff (f : Condition → Clause) (query : Query) :
    query.expand f = query ↔ ∀ c ∈ query.conditions, f c = .condition c := by
  obtain ⟨clause, orderBy⟩ := query
  cases clause with
  | none => simp [expand, conditions]
  | some clause => simp [expand, conditions, clause.expand_eq_self_iff]

theorem Query.conditions_expand (f : Condition → Clause) (query : Query) :
    (query.expand f).conditions = query.conditions.flatMap fun c => (f c).conditions := by
  obtain ⟨clause, orderBy⟩ := query
  cases clause with
  | none => rfl
  | some clause => exact clause.conditions_expand f

/-- The text of a clause where only NOT and parentheses may stand. -/
def Clause.alone (c : Clause) : List Char := enclosed 2 c.precedence c.chars

namespace Grammar

open IssueFilter.Parser

structure EndsConjunction (rest : List Char) : Prop extends EndsOperand rest where
  noAnd : Token.andWord (Token.skipGaps rest) = none

structure EndsClause (rest : List Char) : Prop extends EndsConjunction rest where
  noOr : Token.orWord (Token.skipGaps rest) = none

theorem endsClause_close (rest : List Char) : EndsClause (')' :: rest) where
  toEndsOperand := endsOperand_close rest
  noAnd := rfl
  noOr := rfl

theorem endsClause_nil : EndsClause [] where
  wordEnd := rfl
  noCall := by rintro ⟨⟩
  noAnd := rfl
  noOr := rfl

theorem endsClause_ordering (rest : List Char) :
    EndsClause (' ' :: ("ORDER BY ".toList ++ rest)) where
  wordEnd := rfl
  noCall := by rintro ⟨⟩
  noAnd := rfl
  noOr := rfl

theorem and_separates :
    Separates (token .andKeyword Token.andWord) EndsOperand " AND ".toList where
  nonempty := by decide
  reads _ := rfl
  follows _ := ⟨rfl, by rintro ⟨⟩⟩

theorem or_separates :
    Separates (token .orKeyword Token.orWord) EndsConjunction " OR ".toList where
  nonempty := by decide
  reads _ := rfl
  follows _ := ⟨⟨rfl, by rintro ⟨⟩⟩, rfl⟩

/-- Parts with the word between them are read as a chain, if the word does not come once more. -/
theorem chain_readsBack {β : Type} {node : List Clause → Clause} {word : Parser Rule Unit}
    {part : Parser Rule Clause} {Follows Ends : List Char → Prop} {text : List Char}
    {print : β → List Char} {value : β → Clause}
    (separates : Separates word Follows text) (ends : ∀ rest, Ends rest → Follows rest)
    (stops : ∀ rest, Ends rest → word.read (Token.skipGaps rest) = none)
    {first : β} {others : List β}
    (each : ∀ b ∈ first :: others, ReadsBack part Follows (print b) (value b)) :
    ReadsBack (chain node word part) Ends (text.intercalate ((first :: others).map print))
      (joined node ((first :: others).map value)) where
  begins rest := by
    rw [List.map_cons, intercalate_cons, List.append_assoc]
    exact (each first List.mem_cons_self).begins _
  reads rest follows :=
    read_separated separates first others each (ends rest follows) (stops rest follows)
      (joined node)

section

variable {β : Type} {part : Parser Rule Clause} {value : β → Clause}

theorem conjunction_readsBack (print : β → List Char) {first : β} {others : List β}
    (each : ∀ b ∈ first :: others, ReadsBack part EndsOperand (print b) (value b)) :
    ReadsBack (conjunction part) EndsConjunction
      (" AND ".toList.intercalate ((first :: others).map print))
      (joined .and ((first :: others).map value)) := by
  have ends : ∀ rest, EndsConjunction rest → EndsOperand rest := fun _ h => h.toEndsOperand
  have stops : ∀ rest, EndsConjunction rest → Token.andWord (Token.skipGaps rest) = none :=
    fun _ h => h.noAnd
  exact (chain_readsBack and_separates ends stops each).rule _

theorem disjunction_readsBack (print : β → List Char) {first : β} {others : List β}
    (each : ∀ b ∈ first :: others,
      ReadsBack (conjunction part) EndsConjunction (print b) (value b)) :
    ReadsBack (disjunction part) EndsClause
      (" OR ".toList.intercalate ((first :: others).map print))
      (joined .or ((first :: others).map value)) := by
  have ends : ∀ rest, EndsClause rest → EndsConjunction rest := fun _ h => h.toEndsConjunction
  have stops : ∀ rest, EndsClause rest → Token.orWord (Token.skipGaps rest) = none :=
    fun _ h => h.noOr
  exact (chain_readsBack or_separates ends stops each).rule _

/-- A single part is the chain. -/
theorem conjunction_of_part {text : List Char} {c : Clause}
    (readsBack : ReadsBack part EndsOperand text c) :
    ReadsBack (conjunction part) EndsConjunction text c := by
  have single : ∀ child ∈ [c], ReadsBack part EndsOperand text c := fun _ _ => readsBack
  simpa [joined] using conjunction_readsBack (fun _ => text) single

theorem disjunction_of_conjunction {text : List Char} {c : Clause}
    (readsBack : ReadsBack (conjunction part) EndsConjunction text c) :
    ReadsBack (disjunction part) EndsClause text c := by
  have single : ∀ child ∈ [c], ReadsBack (conjunction part) EndsConjunction text c :=
    fun _ _ => readsBack
  simpa [joined] using disjunction_readsBack (fun _ => text) single

end

section Alone

variable {depth : Nat} {text : List Char} {c : Clause}

theorem head_of_condition {c : Condition} (shaped : c.isShaped = true) :
    ∃ d others, c.chars = d :: others ∧ isWordChar d = true := by
  rw [Condition.isShaped, Bool.and_eq_true] at shaped
  obtain ⟨nonempty, all⟩ := Token.word_of_isFieldName shaped.1
  obtain ⟨d, others, split⟩ := List.exists_cons_of_ne_nil nonempty
  have printed : c.chars = d :: (others ++ ' ' ::
      (c.operator.symbol.toList ++ ' ' :: c.operand.chars)) := by
    rw [Condition.chars, split, List.cons_append]
  exact ⟨d, _, printed, all d (split ▸ List.mem_cons_self)⟩

theorem symbol_of_word {d : Char} (isWord : isWordChar d = true) (rest : List Char) :
    Token.symbol "!" (d :: rest) = none := by
  have differ : ('!' == d) = false := by
    rw [beq_eq_false_iff_ne]
    rintro rfl
    cases isWord
  have noPrefix : "!".toList.isPrefixOf (d :: rest) = false := by
    change ('!' == d && _) = false
    rw [differ, Bool.false_and]
  rw [Token.symbol, noPrefix, if_neg Bool.false_ne_true]

theorem notWord_of_field {field : String} (named : isFieldName field = true)
    (notNot : field.toList.map Char.toLower ≠ "not".toList) (rest : List Char) :
    Token.notWord (field.toList ++ ' ' :: rest) = none := by
  obtain ⟨nonempty, all⟩ := Token.word_of_isFieldName named
  have keyword : Token.keyword "not" (field.toList ++ ' ' :: rest) = none := by
    rw [Token.keyword_append rfl all rfl, if_neg notNot]
  obtain ⟨d, others, split⟩ := List.exists_cons_of_ne_nil nonempty
  have symbol : Token.symbol "!" (field.toList ++ ' ' :: rest) = none := by
    rw [split]
    exact symbol_of_word (all d (split ▸ List.mem_cons_self)) (others ++ ' ' :: rest)
  rw [Token.notWord, Token.either, keyword, symbol]
  rfl

theorem opening_of_field {field : String} (named : isFieldName field = true) (rest : List Char) :
    (char '(' : Parser Rule Unit).read (field.toList ++ rest) = none := by
  obtain ⟨nonempty, all⟩ := Token.word_of_isFieldName named
  obtain ⟨d, others, split⟩ := List.exists_cons_of_ne_nil nonempty
  have isWord : isWordChar d = true := all d (split ▸ List.mem_cons_self)
  rw [split]
  refine read_char_other ?_ (others ++ rest)
  rintro rfl
  cases isWord

/-- Only a condition can be read where neither NOT nor a parenthesis stands. -/
theorem negation_of_plain {s : List Char} (notWord : Token.notWord s = none)
    (opening : (char '(' : Parser Rule Unit).read s = none) :
    (negation (depth + 1)).read s =
      (condition.read s).bind fun answer => some (.condition answer.1, answer.2) := by
  have none : (firstOf [] : Parser Rule Clause).read s = none := rfl
  simp only [negation, read_rule, read_firstOf_cons, read_bind, read_token, notWord, opening,
    Option.bind_none, Option.none_or, none, Option.or_none, read_pure]

theorem opening_of_condition {c : Condition} (shaped : c.isShaped = true) (rest : List Char) :
    (char '(' : Parser Rule Unit).read (c.chars ++ rest) = none := by
  rw [Condition.isShaped, Bool.and_eq_true] at shaped
  rw [Condition.chars, List.append_assoc]
  exact opening_of_field shaped.1 _

/-- A field other than NOT and what is read as a comparison. -/
theorem negation_of_field {field : String} (named : isFieldName field = true)
    (notNot : field.toList.map Char.toLower ≠ "not".toList) {operator : Operator}
    {operand : Operand} {text : List Char}
    (compared : ReadsBack (firstOf comparisons) EndsOperand text (operator, operand)) :
    ReadsBack (negation (depth + 1)) EndsOperand (field.toList ++ ' ' :: text)
      (.condition ⟨field, operator, operand⟩) where
  begins := (condition_of_compared named compared).begins
  reads rest ends := by
    have found := (condition_of_compared named compared).reads rest ends
    rw [List.append_assoc, List.cons_append] at found ⊢
    rw [negation_of_plain (notWord_of_field named notNot _) (opening_of_field named _), found,
      Option.bind_some]

theorem negation_condition {c : Condition} (shaped : c.isShaped = true)
    (notNot : c.field.toList.map Char.toLower ≠ "not".toList) :
    ReadsBack (negation (depth + 1)) EndsOperand c.chars (.condition c) := by
  rw [Condition.isShaped, Bool.and_eq_true] at shaped
  exact negation_of_field shaped.1 notNot (comparisons_readsBack shaped.2)

/-- NOT and what the parser reads behind it. -/
def negated (part : Parser Rule Clause) : Parser Rule Clause := do
  token .notKeyword Token.notWord
  gap
  return .not (← part)

/-- A clause in parentheses, which is made of what the parser reads. -/
def grouped (part : Parser Rule Clause) : Parser Rule Clause := do
  char '('
  gap
  let clause ← disjunction part
  gap
  char ')'
  return clause

variable {part : Parser Rule Clause}

theorem negated_readsBack (readsBack : ReadsBack part EndsOperand text c) :
    ReadsBack (negated part) EndsOperand ("NOT ".toList ++ text) (.not c) where
  begins _ := rfl
  reads rest ends := by
    have scanned : Token.notWord ("NOT ".toList ++ (text ++ rest)) =
        some ((), ' ' :: (text ++ rest)) := rfl
    rw [List.append_assoc]
    simp only [negated, read_bind, read_token, scanned, Option.bind_some, read_gap, skipGaps_blank,
      readsBack.begins, readsBack.reads rest ends, read_pure]

theorem grouped_readsBack (readsBack : ReadsBack (disjunction part) EndsClause text c) :
    ReadsBack (grouped part) EndsOperand ('(' :: (text ++ [')'])) c where
  begins _ := rfl
  reads rest ends := by
    have closing : Token.skipGaps (')' :: rest) = ')' :: rest := rfl
    rw [List.cons_append, List.append_assoc, List.singleton_append]
    simp only [grouped, read_bind, read_char_self, Option.bind_some, read_gap, readsBack.begins,
      readsBack.reads _ (endsClause_close rest), closing, read_pure]

theorem negation_not (readsBack : ReadsBack (negation depth) EndsOperand text c) :
    ReadsBack (negation (depth + 1)) EndsOperand ("NOT ".toList ++ text) (.not c) :=
  (ReadsBack.first (negated_readsBack readsBack)).rule _

theorem negated_of_group (part : Parser Rule Clause) (s : List Char) :
    (negated part).read ('(' :: s) = none := rfl

theorem negation_of_grouped
    (readsBack : ReadsBack (grouped (negation depth)) EndsOperand ('(' :: text) c) :
    ReadsBack (negation (depth + 1)) EndsOperand ('(' :: text) c :=
  ((ReadsBack.first readsBack).later fun _ _ => negated_of_group _ _).rule _

theorem negation_group (readsBack : ReadsBack (disjunction (negation depth)) EndsClause text c) :
    ReadsBack (negation (depth + 1)) EndsOperand ('(' :: (text ++ [')'])) c :=
  negation_of_grouped (grouped_readsBack readsBack)

end Alone

section Places

/-- A family of parsers, by depth, that reads conditions, each as the clause that `value` has for it,
and negations and groups of what it reads, but neither the empty text nor the words ORDER BY. -/
structure ReadsParts (part : Nat → Parser Rule Clause) (value : Condition → Clause) : Prop where
  condition : ∀ {c : Condition}, c.isShaped = true → c.isDoubleNot = false → ∀ {depth : Nat},
    c.chars.length ≤ depth → ReadsBack (part (depth + 1)) EndsOperand c.chars (value c)
  not : ∀ {child : Clause}, child.Canonical → ∀ {depth : Nat},
    ReadsBack (part depth) EndsOperand child.alone (child.expand value) →
    ReadsBack (part (depth + 1)) EndsOperand ("NOT ".toList ++ child.alone)
      (.not (child.expand value))
  group : ∀ {text : List Char} {c : Clause} {depth : Nat},
    ReadsBack (disjunction (part depth)) EndsClause text c →
    ReadsBack (part (depth + 1)) EndsOperand ('(' :: (text ++ [')'])) c
  nothing : ∀ depth : Nat, (disjunction (part (depth + 1))).read [] = none
  ordering : ∀ (depth : Nat) (s : List Char),
    (disjunction (part (depth + 1))).read ("ORDER BY ".toList ++ s) = none

/-- The parsers read the text of the clause in each of the three places. -/
structure ReadsEverywhere (part : Nat → Parser Rule Clause) (value : Condition → Clause)
    (c : Clause) : Prop where
  alone : ∀ depth, c.alone.length < depth →
    ReadsBack (part depth) EndsOperand c.alone (c.expand value)
  inOr : c.precedence ≠ 0 → ∀ depth, c.chars.length < depth →
    ReadsBack (conjunction (part depth)) EndsConjunction c.chars (c.expand value)
  whole : ∀ depth, c.chars.length < depth →
    ReadsBack (disjunction (part depth)) EndsClause c.chars (c.expand value)

theorem length_le_intercalate {β : Type} (separator : List Char) (print : β → List Char)
    {child : β} {children : List β} (member : child ∈ children) :
    (print child).length ≤ (separator.intercalate (children.map print)).length := by
  cases children with
  | nil => cases member
  | cons first others =>
      rw [List.map_cons, intercalate_cons, List.flatMap_map, List.length_append]
      rcases List.mem_cons.mp member with rfl | later
      · exact Nat.le_add_right _ _
      · obtain ⟨before, after, rfl⟩ := List.append_of_mem later
        simp only [List.flatMap_append, List.flatMap_cons, List.length_append]
        omega

theorem charsOfList_and {children : List Clause}
    (notAnd : ∀ child ∈ children, child.precedence ≠ 1) :
    Clause.charsOfList 1 children = children.map Clause.alone := by
  induction children with
  | nil => rfl
  | cons child children ih =>
      have others := ih fun other member => notAnd other (List.mem_cons_of_mem child member)
      have different := notAnd child List.mem_cons_self
      have same : enclosed 1 child.precedence child.chars = child.alone := by
        cases child with
        | and children => exact absurd rfl different
        | or children | not child | condition c => rfl
      rw [Clause.charsOfList, others, same, List.map_cons]

theorem charsOfList_or (children : List Clause) :
    Clause.charsOfList 0 children = children.map Clause.chars := by
  induction children with
  | nil => rfl
  | cons child children ih =>
      rw [Clause.charsOfList, ih, List.map_cons, enclosed, if_neg (Nat.not_lt_zero _)]

variable {part : Nat → Parser Rule Clause} {value : Condition → Clause} {c : Clause}

theorem readsEverywhere_of_tight (tight : c.precedence = 2)
    (readsBack : ∀ depth, c.chars.length < depth →
      ReadsBack (part depth) EndsOperand c.chars (c.expand value)) :
    ReadsEverywhere part value c where
  alone depth short := by
    have same : c.alone = c.chars := by rw [Clause.alone, tight]; rfl
    rw [same] at short ⊢
    exact readsBack depth short
  inOr _ depth short := conjunction_of_part (readsBack depth short)
  whole depth short := disjunction_of_conjunction (conjunction_of_part (readsBack depth short))

/-- Parentheses take a level of the depth, and more than one character. -/
theorem alone_of_whole (parts : ReadsParts part value) (loose : c.precedence < 2)
    (whole : ∀ depth, c.chars.length < depth →
      ReadsBack (disjunction (part depth)) EndsClause c.chars (c.expand value)) (depth : Nat)
    (short : c.alone.length < depth) :
    ReadsBack (part depth) EndsOperand c.alone (c.expand value) := by
  have grouped : c.alone = '(' :: (c.chars ++ [')']) := by
    rw [Clause.alone, enclosed, if_pos loose]
  rw [grouped] at short ⊢
  cases depth with
  | zero => exact absurd short (Nat.not_lt_zero _)
  | succ depth =>
      refine parts.group (whole depth ?_)
      simp only [List.length_cons, List.length_append] at short
      omega

theorem inOr_of_and {first second : Clause} {others : List Clause}
    (notAnd : ∀ child ∈ first :: second :: others, child.precedence ≠ 1)
    (each : ∀ child ∈ first :: second :: others, ReadsEverywhere part value child) (depth : Nat)
    (short : (Clause.and (first :: second :: others)).chars.length < depth) :
    ReadsBack (conjunction (part depth)) EndsConjunction
      (Clause.and (first :: second :: others)).chars
      ((Clause.and (first :: second :: others)).expand value) := by
  have printed : (Clause.and (first :: second :: others)).chars =
      " AND ".toList.intercalate ((first :: second :: others).map Clause.alone) := by
    rw [Clause.chars, charsOfList_and notAnd]
  have expanded : (Clause.and (first :: second :: others)).expand value =
      joined .and ((first :: second :: others).map (Clause.expand value)) := by
    rw [Clause.expand, Clause.expandList_eq_map]
    rfl
  rw [printed] at short ⊢
  rw [expanded]
  refine conjunction_readsBack Clause.alone fun child member => ?_
  have inside := length_le_intercalate " AND ".toList Clause.alone member
  exact (each child member).alone depth (Nat.lt_of_le_of_lt inside short)

theorem whole_of_or {first second : Clause} {others : List Clause}
    (notOr : ∀ child ∈ first :: second :: others, child.precedence ≠ 0)
    (each : ∀ child ∈ first :: second :: others, ReadsEverywhere part value child) (depth : Nat)
    (short : (Clause.or (first :: second :: others)).chars.length < depth) :
    ReadsBack (disjunction (part depth)) EndsClause
      (Clause.or (first :: second :: others)).chars
      ((Clause.or (first :: second :: others)).expand value) := by
  have printed : (Clause.or (first :: second :: others)).chars =
      " OR ".toList.intercalate ((first :: second :: others).map Clause.chars) := by
    rw [Clause.chars, charsOfList_or]
  have expanded : (Clause.or (first :: second :: others)).expand value =
      joined .or ((first :: second :: others).map (Clause.expand value)) := by
    rw [Clause.expand, Clause.expandList_eq_map]
    rfl
  rw [printed] at short ⊢
  rw [expanded]
  refine disjunction_readsBack Clause.chars fun child member => ?_
  have inside := length_le_intercalate " OR ".toList Clause.chars member
  exact (each child member).inOr (notOr child member) depth (Nat.lt_of_le_of_lt inside short)

/-- The induction follows the clause. A condition and a NOT are read alone first, an AND as a part
of an OR, and an OR as a whole; the other places follow from these. -/
theorem readsEverywhere (parts : ReadsParts part value) (canonical : c.Canonical) :
    ReadsEverywhere part value c := by
  induction canonical with
  | @condition c shaped notDouble =>
      refine readsEverywhere_of_tight rfl fun depth short => ?_
      cases depth with
      | zero => exact absurd short (Nat.not_lt_zero _)
      | succ depth => exact parts.condition shaped notDouble (Nat.le_of_lt_succ short)
  | @not child canonical ih =>
      refine readsEverywhere_of_tight rfl fun depth short => ?_
      cases depth with
      | zero => exact absurd short (Nat.not_lt_zero _)
      | succ depth =>
          have printed : (Clause.not child).chars = "NOT ".toList ++ child.alone := rfl
          rw [printed] at short ⊢
          refine parts.not canonical (ih.alone depth ?_)
          have word : "NOT ".toList.length = 4 := rfl
          rw [List.length_append, word] at short
          omega
  | @and first second others _ notAnd ih =>
      have inOr := inOr_of_and notAnd ih
      have whole := fun depth short => disjunction_of_conjunction (inOr depth short)
      exact ⟨alone_of_whole parts (show 1 < 2 by decide) whole, fun _ => inOr, whole⟩
  | @or first second others _ notOr ih =>
      have whole := whole_of_or notOr ih
      exact ⟨alone_of_whole parts (show 0 < 2 by decide) whole, fun tight => absurd rfl tight, whole⟩

end Places

end Grammar

end IssueFilter
