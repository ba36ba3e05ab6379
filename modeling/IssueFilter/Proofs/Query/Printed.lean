import IssueFilter.Proofs.Query.Regrouping

/-! The text of a query tells the query up to regrouping. The parser of the language does not show
this, since it misreads some texts; a parser that takes a text for a condition only where a condition is
printed exactly so does. What has to be seen is that a NOT is never printed as a condition on a field
`NOT` is: behind it stands a clause, and behind the field an operator, which no clause begins with. -/
namespace IssueFilter

namespace Grammar

open IssueFilter.Parser

/-- A condition, where the text is the one that is printed for it. -/
def printedCondition : Parser Rule Clause := scan fun s =>
  (condition.read s).bind fun (c, rest) =>
    if c.isDoubleNot = false ∧ c.chars ++ rest = s then some (.condition c, rest) else none

/-- Reads clauses as they are printed, with at most `depth` levels of NOT and parentheses inside. -/
def printed : (depth : Nat) → Parser Rule Clause
  | 0 => fail
  | depth + 1 => firstOf [printedCondition, negated (printed depth), grouped (printed depth)]

section

variable {c : Condition} {child : Clause} {rest after : List Char}

theorem printedCondition_readsBack (shaped : c.isShaped = true) (notDouble : c.isDoubleNot = false) :
    ReadsBack printedCondition EndsOperand c.chars (.condition c) where
  begins := (condition_readsBack shaped).begins
  reads rest ends := by
    change ((condition.read (c.chars ++ rest)).bind _) = _
    rw [(condition_readsBack shaped).reads rest ends, Option.bind_some]
    exact if_pos ⟨notDouble, rfl⟩

theorem printedCondition_split {s : List Char} {clause : Clause}
    (taken : printedCondition.read s = some (clause, rest)) :
    ∃ c, clause = .condition c ∧ c.isShaped = true ∧ c.isDoubleNot = false ∧
      c.chars ++ rest = s := by
  obtain ⟨⟨c, after⟩, read, taken⟩ := Option.bind_eq_some_iff.mp taken
  simp only at taken
  split at taken
  · rename_i exact
    cases taken
    exact ⟨c, rfl, (yields_condition s c rest (Nat.lt_succ_self _) read).1, exact⟩
  · cases taken

/-- The name IN has two letters, and the parenthesis stands right behind it. -/
theorem chars_of_callsIn {call : Call}
    (callsIn : call.name.toList.map Char.toLower = "in".toList) :
    ∃ a b others, call.chars = a :: b :: '(' :: others := by
  obtain ⟨a, letters, first, -, second⟩ := List.map_eq_cons_iff.mp
    (show call.name.toList.map Char.toLower = ['i', 'n'] from callsIn)
  obtain ⟨b, none, rfl, -, last⟩ := List.map_eq_cons_iff.mp second
  obtain rfl := List.map_eq_nil_iff.mp last
  rw [Call.chars, first]
  exact ⟨a, b, _, rfl⟩

theorem chars_of_inIn (operand : Operand) (rest : List Char) :
    (⟨"in", .isIn, operand⟩ : Condition).chars ++ rest =
      'i' :: 'n' :: ' ' :: 'i' :: 'n' :: ' ' :: (operand.chars ++ rest) := by
  have letters : "in".toList = ['i', 'n'] := rfl
  rw [chars_eq, Operator.symbol, letters]
  rfl

/-- The only clause that could be read where a call of IN stands behind the word `in` is a condition
`in in` with a list, and there a blank stands where the parenthesis of the call does. -/
theorem alone_ne_call {call : Call} (named : isCallName call.name = true)
    (callsIn : call.name.toList.map Char.toLower = "in".toList) (canonical : child.Canonical)
    (ends : EndsOperand rest) :
    child.alone ++ rest ≠ "in".toList ++ ' ' :: (call.chars ++ after) := by
  intro same
  have read := ((readsEverywhere negation_readsParts canonical).alone (child.alone.length + 1)
    (Nat.lt_succ_self _)).reads rest ends
  rw [same, negation_of_plain rfl rfl, condition_of_call named callsIn, Option.bind_some] at read
  cases child with
  | and children => cases read
  | or children => cases read
  | not child => cases read
  | condition c =>
      have reread : c.reread = .condition _ := congrArg Prod.fst (Option.some.inj read.symm)
      rcases c.reread_cases with itself | ⟨d, other, -⟩
      · obtain rfl := Clause.condition.inj (itself.symm.trans reread)
        obtain ⟨a, b, others, spelled⟩ := chars_of_callsIn callsIn
        rw [spelled] at same
        have sixth := congrArg (fun text => text[5]?) ((chars_of_inIn _ rest).symm.trans same)
        cases (Option.some.inj sixth : ' ' = '(')
      · rw [other] at reread
        cases reread

/-- What stands behind a printed NOT is not what stands behind a field of that name. -/
theorem printedCondition_of_not (canonical : child.Canonical) (ends : EndsOperand rest) :
    printedCondition.read ("NOT ".toList ++ child.alone ++ rest) = none := by
  cases taken : printedCondition.read ("NOT ".toList ++ child.alone ++ rest) with
  | none => rfl
  | some answer =>
      obtain ⟨clause, after⟩ := answer
      obtain ⟨c, -, shaped, notDouble, same⟩ := printedCondition_split taken
      obtain ⟨field, operator, operand⟩ := c
      rw [Condition.isShaped, Bool.and_eq_true] at shaped
      obtain ⟨named, admitted⟩ := shaped
      -- The field is the word NOT, and the operator stands where the clause does.
      have fields := congrArg Token.field ((chars_eq _ after).symm.trans same)
      rw [Token.field_blank named] at fields
      change _ = Token.field ("NOT".toList ++ ' ' :: (child.alone ++ rest)) at fields
      rw [Token.field_blank rfl, Option.some.injEq, Prod.mk.injEq, List.cons.injEq] at fields
      obtain ⟨rfl, -, behind⟩ := fields
      have namesNot : (⟨"NOT", operator, operand⟩ : Condition).namesNot = true :=
        decide_eq_true (show "NOT".toList.map Char.toLower = "not".toList by decide)
      have notNotIn : operator ≠ .notIn := by
        simpa [Condition.isDoubleNot, namesNot] using notDouble
      by_cases callsIn : operator = .isIn ∧ operand.callsIn = true
      · obtain ⟨rfl, callsIn⟩ := callsIn
        obtain ⟨call, rfl, word⟩ := Operand.call_of_callsIn callsIn
        have called := Operator.isCallName_of_admits admitted
        exact absurd behind.symm (alone_ne_call called word canonical ends)
      · have clear : operator = .isIn → operand.callsIn = false := by
          intro isIn
          rw [← Bool.not_eq_true]
          exact fun calls => callsIn ⟨isIn, calls⟩
        have read := ((readsEverywhere negation_readsParts canonical).alone
          (child.alone.length + 1) (Nat.lt_succ_self _)).reads rest ends
        rw [← behind, negation_of_symbol admitted notNotIn clear] at read
        cases read

/-- The parser reads every condition as itself. -/
theorem printed_readsParts : ReadsParts printed .condition where
  condition shaped notDouble _ _ := (printedCondition_readsBack shaped notDouble).first
  not {_} canonical _ readsBack :=
    (ReadsBack.first (negated_readsBack readsBack)).later fun _ => printedCondition_of_not canonical
  group readsBack :=
    .later (.later (.first (grouped_readsBack readsBack)) fun _ _ => negated_of_group _ _)
      fun _ _ => rfl
  nothing _ := rfl
  ordering _ _ := rfl

end

end Grammar

namespace Query

variable {p q : Query}

theorem Canonical.eq_of_chars (ofP : p.Canonical) (ofQ : q.Canonical) (same : p.chars = q.chars) :
    p = q := by
  have reads : ∀ {r : Query}, r.Canonical → r.chars = p.chars →
      (Grammar.queryOf (Grammar.printed (p.chars.length + 1))).read p.chars = some (r, []) := by
    intro r canonical same
    have read := Grammar.read_chars Grammar.printed_readsParts canonical
      (Nat.le_of_eq (congrArg List.length same))
    rwa [same, (r.expand_eq_self_iff _).mpr fun _ _ => rfl] at read
  have readP := reads ofP rfl
  rw [reads ofQ same.symm] at readP
  cases readP
  rfl

/-- Queries with one text differ in regroupings only. -/
theorem Parsed.flattened_eq_of_chars (ofP : p.Parsed) (ofQ : q.Parsed)
    (same : p.chars = q.chars) : p.flattened = q.flattened := by
  refine ofP.canonical_flattened.eq_of_chars ofQ.canonical_flattened ?_
  rw [ofP.chars_flattened, ofQ.chars_flattened, same]

end Query

end IssueFilter
