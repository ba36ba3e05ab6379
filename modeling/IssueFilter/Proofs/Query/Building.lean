import IssueFilter.Proofs.Query.Leaves

/-! The way through a parse tree. The grammar of the trees and the grammar of the queries go through a
text side by side, and from every tree that comes out the query is built: whatever a builder asks a node
for is there, and is of a rule that can stand there. -/
namespace IssueFilter.TreeGrammar

open IssueFilter.Parser
open IssueFilter.Grammar (gap commaSeparated parenthesised)

section Sequences

variable {α β γ : Type} {R : α → β → Prop} {p : Parser Rule α} {q : Parser Rule β}

theorem parallel_commaSeparated (each : Parallel R p q) :
    Parallel (List.Forall₂ R) (commaSeparated p) (commaSeparated q) := by
  have next : Parallel R (do gap; char ','; gap; p : Parser Rule α)
      (do gap; char ','; gap; q : Parser Rule β) :=
    .bind (.refl gap) fun _ _ _ => .bind (.refl (char ',')) fun _ _ _ =>
      .bind (.refl gap) fun _ _ _ => each
  exact .bind each fun _ _ first => .bind (.many next) fun _ _ others => .pure (.cons first others)

theorem parallel_parenthesised (each : Parallel R p q) :
    Parallel (List.Forall₂ R) (parenthesised p) (parenthesised q) := by
  have items : Parallel (fun as bs => List.Forall₂ R (as.getD []) (bs.getD []))
      (optional (commaSeparated p)) (optional (commaSeparated q)) :=
    .optional (parallel_commaSeparated each) .nil
  refine .bind (.refl (char '(')) fun _ _ _ => .bind (.refl gap) fun _ _ _ => ?_
  refine .bind items fun _ _ all => .bind (.refl gap) fun _ _ _ => ?_
  exact .bind (.refl (char ')')) fun _ _ _ => .pure all

/-- A node for each of the values, one after the other. -/
theorem mapM_flatten {build : Tree → Except ParseError γ} {given : List (List Tree)} {values : List γ}
    (each : List.Forall₂ (GivesOne build) given values) : given.flatten.mapM build = .ok values := by
  induction each with
  | nil => rfl
  | cons one _ ih =>
      obtain ⟨tree, rfl, built⟩ := one
      rw [List.flatten_cons, List.singleton_append, List.mapM_cons, built, ih]
      rfl

end Sequences

section Operands

theorem parallel_call : Parallel (Gives .call Tree.call) call Grammar.call := by
  have name : Parallel (Gives .callName fun tree => .ok tree.string)
      (leaf .callName Token.callName) (token .callName Token.callName) :=
    parallel_leaf fun taken => congrArg Except.ok (Token.take_of_name taken)
  refine parallel_node (.bind name fun _ _ named => .bind (.refl gap) fun _ _ _ =>
    .bind (parallel_parenthesised parallel_argument) fun args _ each => .pure fun text => ?_)
  obtain ⟨written, inner, rfl, same⟩ := named
  cases same
  simp only [Tree.call, List.singleton_append, mapM_flatten each]
  rfl

theorem parallel_callOperand : Parallel (GivesOne Tree.operand) call Grammar.callOperand := by
  refine parallel_call.map_right fun trees read given => given.one fun text inner built => ?_
  rw [Tree.operand]
  exact congrArg (Operand.call <$> ·) built

/-- A word that is an operand by itself. -/
theorem single_of_gives {name : Rule} {build : Tree → Except ParseError Literal}
    {trees : List Tree} {literal : Literal} (given : Gives name build trees literal)
    (same : ∀ text inner,
      Tree.operand ⟨name, text, inner⟩ = .single <$> build ⟨name, text, inner⟩) :
    GivesOne Tree.operand trees (.single literal) := by
  refine given.one fun text inner built => ?_
  rw [same, built]
  rfl

theorem parallel_value : Parallel (GivesOne Tree.operand) value Grammar.value := by
  have quoted : Parallel (Gives .string fun tree => .ok (.text tree.unquoted)) string
      (do return Literal.text (← token Rule.string Token.string)) := by
    refine parallel_string.map_right ?_
    rintro _ _ ⟨text, inner, rfl, ⟨⟩⟩
    exact ⟨text, inner, rfl, rfl⟩
  have number : Parallel (Gives .number fun tree => .ok tree.number)
      (leaf .number Token.number) (token .number Token.number) :=
    parallel_leaf fun taken => congrArg Except.ok (Token.take_of_number taken)
  have word : Parallel (Gives .word fun tree => .ok (.text tree.string))
      (leaf .word Token.word) (token .word Token.word) :=
    parallel_leaf fun taken => congrArg Except.ok (Token.take_of_word taken)
  have literal : Parallel (fun trees literal => GivesOne Tree.operand trees (.single literal)) value
      (firstOf [do return Literal.text (← token Rule.string Token.string),
        token .number Token.number, token .word Token.word]) := by
    refine .firstOf_cons (quoted.mono ?_) (.firstOf_cons (number.mono ?_)
      (.firstOf_cons (word.mono ?_) .firstOf_nil))
    all_goals
      refine fun _ _ given => single_of_gives given fun text inner => ?_
      rw [Tree.operand]
      rfl
  exact literal.map_right fun _ _ given => given

theorem operand_list (text : List Char) (inner : List Tree) :
    Tree.operand ⟨.list, text, inner⟩ = .list <$> inner.mapM Tree.operand := by
  have plain : (inner.attach.mapM fun item => Tree.operand item.1) = inner.mapM Tree.operand := by
    rw [List.mapM_subtype fun _ _ => rfl, List.unattach_attach]
  rw [Tree.operand]
  exact congrArg (Operand.list <$> ·) plain

theorem parallel_list : Parallel (GivesOne Tree.operand) list Grammar.list := by
  have item : Parallel (GivesOne Tree.operand) (firstOf [call, value])
      (firstOf [Grammar.callOperand, Grammar.value]) :=
    .firstOf_cons parallel_callOperand (.firstOf_cons parallel_value .firstOf_nil)
  have inside : Parallel (Gives .list Tree.operand) list Grammar.list := by
    refine parallel_node (.bind (parallel_parenthesised item) fun items _ each => .pure fun text => ?_)
    rw [operand_list, mapM_flatten each]
    rfl
  exact inside.mono fun _ _ given => given.one fun _ _ built => built

theorem parallel_empty : Parallel (GivesOne Tree.operand) empty Grammar.empty := by
  refine parallel_word.map_right fun _ _ given => given.one fun text inner _ => ?_
  rw [Tree.operand]

end Operands

section Conditions

/-- The name of its rule says which operator it is. -/
theorem parallel_operator {name : Rule} {op : Operator} {scanner : List Char → Option (Unit × List Char)}
    (same : ∀ text inner, Tree.operator ⟨name, text, inner⟩ = .ok op) :
    Parallel (GivesOne Tree.operator) (leaf name scanner) (Grammar.operator name op scanner) :=
  parallel_word.map_right fun _ _ given => given.one fun text inner _ => same text inner

theorem parallel_isOperator : Parallel (GivesOne Tree.operator) isOperator Grammar.isOperator :=
  .firstOf_cons (parallel_operator fun _ _ => rfl)
    (.firstOf_cons (parallel_operator fun _ _ => rfl) .firstOf_nil)

theorem parallel_inOperator : Parallel (GivesOne Tree.operator) inOperator Grammar.inOperator :=
  .firstOf_cons (parallel_operator fun _ _ => rfl)
    (.firstOf_cons (parallel_operator fun _ _ => rfl) .firstOf_nil)

/-- An operator and an operand next to each other. -/
def Compares (trees : List Tree) (compared : Operator × Operand) : Prop :=
  ∃ operator operand, trees = [operator, operand] ∧ operator.operator = .ok compared.1 ∧
    operand.operand = .ok compared.2

theorem parallel_comparing {operators : Parser Rule (List Tree)} {operators' : Parser Rule Operator}
    {operands : List (Parser Rule (List Tree))} {operands' : List (Parser Rule Operand)}
    (op : Parallel (GivesOne Tree.operator) operators operators')
    (operand : Parallel (GivesOne Tree.operand) (firstOf operands) (firstOf operands')) :
    Parallel Compares (comparing operators operands) (Grammar.comparing operators' operands') := by
  refine .bind op fun _ _ ofOp => .bind (.refl gap) fun _ _ _ => .bind operand fun _ _ ofOperand => ?_
  obtain ⟨operatorTree, rfl, operatorBuilt⟩ := ofOp
  obtain ⟨operandTree, rfl, operandBuilt⟩ := ofOperand
  exact .pure ⟨operatorTree, operandTree, rfl, operatorBuilt, operandBuilt⟩

theorem parallel_field : Parallel (Gives .field fun tree => .ok tree.string)
    (leaf .field Token.field) (token .field Token.field) :=
  parallel_leaf fun taken => congrArg Except.ok (Token.take_of_name taken)

theorem parallel_condition : Parallel (Gives .condition Tree.condition) condition Grammar.condition := by
  have isComparison := parallel_comparing parallel_isOperator (.firstOf_cons parallel_empty .firstOf_nil)
  have inComparison := parallel_comparing parallel_inOperator
    (.firstOf_cons parallel_callOperand (.firstOf_cons parallel_list .firstOf_nil))
  have symbol : Parallel (Gives .comparison Tree.operator) (leaf .comparison Token.comparison)
      (token .comparison Token.comparison) := parallel_leaf Token.take_of_comparison
  have sign : Parallel (GivesOne Tree.operator) (leaf .comparison Token.comparison)
      (token .comparison Token.comparison) :=
    symbol.mono fun _ _ given => given.one fun _ _ built => built
  have otherComparison := parallel_comparing sign (.firstOf_cons parallel_callOperand
    (.firstOf_cons parallel_empty (.firstOf_cons parallel_value .firstOf_nil)))
  refine parallel_node (.bind parallel_field fun _ _ named => .bind (.refl gap) fun _ _ _ =>
    .bind (.firstOf_cons isComparison (.firstOf_cons inComparison
      (.firstOf_cons otherComparison .firstOf_nil))) ?_)
  rintro _ ⟨op, operand⟩ ⟨operatorTree, operandTree, rfl, operatorBuilt, operandBuilt⟩
  obtain ⟨written, inner, rfl, same⟩ := named
  cases same
  refine .pure fun text => ?_
  change (do return Condition.mk _ (← operatorTree.operator) (← operandTree.operand)) = _
  rw [operatorBuilt, operandBuilt]
  rfl

end Conditions

section Clauses

/-- A word and a part behind it, from which a clause is built. -/
def Continues (between part : Rule) (build : Tree → Except ParseError Clause) (trees : List Tree)
    (clause : Clause) : Prop :=
  ∃ word tree, trees = [word, tree] ∧ word.rule = between ∧ tree.rule = part ∧ build tree = .ok clause

variable {between part : Rule} {build : Tree → Except ParseError Clause}

theorem parts_flatten (other : between ≠ part) {given : List (List Tree)} {clauses : List Clause}
    (each : List.Forall₂ (Continues between part build) given clauses) :
    Tree.parts part between given.flatten (fun tree _ => build tree) = .ok clauses := by
  induction each with
  | nil => rfl
  | cons one _ ih =>
      obtain ⟨word, tree, rfl, rfl, rfl, built⟩ := one
      rw [List.flatten_cons, List.cons_append, List.singleton_append, Tree.parts, if_neg other,
        if_pos rfl, Tree.parts, if_pos rfl, built, ih]
      rfl

/-- A chain gives the parts in their order, with the words between them passed over. -/
theorem parallel_chain {node : List Clause → Clause} {scanner : List Char → Option (Unit × List Char)}
    {p : Parser Rule (List Tree)} {q : Parser Rule Clause} (other : between ≠ part)
    (each : Parallel (Gives part build) p q) :
    Parallel (fun trees clause => Grammar.joined node <$>
        Tree.parts part between trees (fun tree _ => build tree) = .ok clause)
      (chain (leaf between scanner) p) (Grammar.chain node (token between scanner) q) := by
  have next : Parallel (Continues between part build)
      (do gap; let word ← leaf between scanner; gap; let part ← p; return word ++ part)
      (do gap; token between scanner; gap; q) := by
    refine .bind (.refl gap) fun _ _ _ => .bind parallel_word fun _ _ word => ?_
    refine .bind (.refl gap) fun _ _ _ => each.map_left ?_
    obtain ⟨wordText, wordInner, rfl, -⟩ := word
    rintro _ clause ⟨text, inner, rfl, built⟩
    exact ⟨_, _, rfl, rfl, rfl, built⟩
  refine .bind each fun _ first given => .bind (.many next) fun others clauses continues => .pure ?_
  obtain ⟨text, inner, rfl, built⟩ := given
  rw [List.singleton_append, Tree.parts, if_pos rfl, built, parts_flatten other continues]
  rfl

variable {p : Parser Rule (List Tree)} {q : Parser Rule Clause}

theorem parallel_disjunction (each : Parallel (Gives .negation Tree.negation) p q) :
    Parallel (Gives .disjunction Tree.disjunction) (disjunction p) (Grammar.disjunction q) := by
  have conjunctions : Parallel (Gives .conjunction Tree.conjunction) (conjunction p)
      (Grammar.conjunction q) := by
    refine parallel_node ((parallel_chain (by decide) each).mono fun _ _ built text => ?_)
    rw [Tree.conjunction]
    exact built
  refine parallel_node ((parallel_chain (by decide) conjunctions).mono fun _ _ built text => ?_)
  rw [Tree.disjunction]
  exact built

/-- By induction on the depth, with a case for each of the three forms of a clause. -/
theorem parallel_negation (depth : Nat) :
    Parallel (Gives .negation Tree.negation) (negation depth) (Grammar.negation depth) := by
  induction depth with
  | zero => exact .firstOf_nil
  | succ depth ih =>
      refine parallel_node (.firstOf_cons ?negated (.firstOf_cons ?grouped
        (.firstOf_cons ?one .firstOf_nil)))
      case negated =>
        refine .bind parallel_word fun _ _ word => .bind (.refl gap) fun _ _ _ => ?_
        refine .bind ih fun _ clause given => .pure fun text => ?_
        obtain ⟨wordText, wordInner, rfl, -⟩ := word
        obtain ⟨partText, partInner, rfl, built⟩ := given
        rw [List.singleton_append, Tree.negation]
        exact congrArg (Clause.not <$> ·) built
      case grouped =>
        refine .bind (.refl (char '(')) fun _ _ _ => .bind (.refl gap) fun _ _ _ => ?_
        refine .bind (parallel_disjunction ih) fun _ clause given => .bind (.refl gap) fun _ _ _ => ?_
        refine .bind (.refl (char ')')) fun _ _ _ => .pure fun text => ?_
        obtain ⟨partText, partInner, rfl, built⟩ := given
        rw [Tree.negation]
        exact built
      case one =>
        refine parallel_condition.map_right ?_
        rintro _ condition ⟨partText, partInner, rfl, built⟩ text
        rw [Tree.negation]
        exact congrArg (Clause.condition <$> ·) built

end Clauses

section Queries

theorem parallel_sortKey : Parallel (Gives .sortKey Tree.sortKey) sortKey Grammar.sortKey := by
  have word : Parallel (Gives .direction fun tree => .ok tree.direction)
      (leaf .direction Token.direction) (token .direction Token.direction) :=
    parallel_leaf fun taken => congrArg Except.ok (Token.take_of_direction taken)
  have direction : Parallel (fun trees read => ((trees.getD []).head?.map Tree.direction).getD .ascending =
        read.getD Direction.ascending)
      (optional do gap; leaf .direction Token.direction)
      (optional do gap; token .direction Token.direction) := by
    refine .optional (.bind (.refl gap) fun _ _ _ => word.mono ?_) rfl
    rintro _ _ ⟨text, inner, rfl, ⟨⟩⟩
    rfl
  refine parallel_node (.bind parallel_field fun _ _ named => .bind direction fun _ _ same =>
    .pure fun text => ?_)
  obtain ⟨written, inner, rfl, ⟨⟩⟩ := named
  exact congrArg (fun direction => Except.ok (SortKey.mk _ direction)) same

/-- The word in front of the keys is passed over, and nothing else is. -/
theorem filter_flatten {given : List (List Tree)} {keys : List SortKey}
    (each : List.Forall₂ (Gives .sortKey Tree.sortKey) given keys) :
    (given.flatten.filter fun part => part.rule = .sortKey) = given.flatten := by
  induction each with
  | nil => rfl
  | cons one _ ih =>
      obtain ⟨text, inner, rfl, -⟩ := one
      rw [List.flatten_cons, List.singleton_append, List.filter_cons_of_pos rfl, ih]

theorem parallel_ordering : Parallel (Gives .ordering Tree.ordering) ordering Grammar.ordering := by
  refine parallel_node (.bind parallel_word fun _ _ word => .bind (.refl gap) fun _ _ _ => ?_)
  refine (parallel_commaSeparated parallel_sortKey).map_left fun given keys each text => ?_
  obtain ⟨wordText, wordInner, rfl, -⟩ := word
  rw [Tree.ordering, List.singleton_append, List.filter_cons_of_neg Bool.false_ne_true, filter_flatten each]
  exact mapM_flatten (each.imp fun _ _ key => key.one fun _ _ built => built)

theorem parallel_query (depth : Nat) :
    Parallel (Gives .query fun tree => Tree.query [tree]) (query depth) (Grammar.query depth) := by
  have clauses : Parallel (fun trees clause => (trees.getD []).foldlM Tree.adding ⟨none, []⟩ =
        .ok ⟨clause, []⟩)
      (optional (disjunction (negation depth)))
      (optional (Grammar.disjunction (Grammar.negation depth))) := by
    refine .optional ((parallel_disjunction (parallel_negation depth)).mono ?_) rfl
    rintro _ clause ⟨text, inner, rfl, built⟩
    change (do return Query.mk (some (← Tree.disjunction _)) []) >>= pure = _
    rw [built]
    rfl
  have orderings : Parallel (fun trees keys => ∀ clause,
        (trees.getD []).foldlM Tree.adding ⟨clause, []⟩ = .ok ⟨clause, keys.getD []⟩)
      (optional ordering) (optional Grammar.ordering) := by
    refine .optional (parallel_ordering.mono ?_) fun _ => rfl
    rintro _ keys ⟨text, inner, rfl, built⟩ clause
    change (do return Query.mk clause (← Tree.ordering _)) >>= pure = _
    rw [built]
    rfl
  refine parallel_node (.bind (.refl gap) fun _ _ _ => .bind clauses fun _ clause clauseBuilt => ?_)
  refine .bind (.refl gap) fun _ _ _ => .bind orderings fun _ keys keysBuilt => ?_
  refine .bind (.refl gap) fun _ _ _ => .bind parallel_word fun _ _ ending => .pure fun text => ?_
  obtain ⟨endText, endInner, rfl, -⟩ := ending
  rw [Tree.query, List.foldlM_append, List.foldlM_append, clauseBuilt]
  change (List.foldlM Tree.adding ⟨clause, []⟩ _) >>= _ = _
  rw [keysBuilt]
  rfl

end Queries

end IssueFilter.TreeGrammar
