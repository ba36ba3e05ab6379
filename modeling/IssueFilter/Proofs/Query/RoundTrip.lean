import IssueFilter.Proofs.Query.Rereading
import IssueFilter.Proofs.Query.Shape

/-! Parsing undoes printing: the text of a well formed query is read back as the query, whatever the
texts and numbers in it are. -/
namespace IssueFilter

mutual

theorem Clause.canonical_of_isShaped : ∀ clause : Clause, clause.isShaped = true →
    clause.isFlat = true →
    (∀ c ∈ clause.conditions, c.isDoubleNot = false) → clause.Canonical
  | .and [], shaped, _, _ | .and [_], shaped, _, _ | .or [], shaped, _, _
  | .or [_], shaped, _, _ => by
      simp [Clause.isShaped] at shaped
  | .and (first :: second :: others), shaped, flat, notDouble => by
      rw [Clause.isShaped, Bool.and_eq_true] at shaped
      have each := Clause.canonical_of_areShaped 1 (first :: second :: others) shaped.2 flat notDouble
      exact .and (fun child member => (each child member).1)
        fun child member => (each child member).2
  | .or (first :: second :: others), shaped, flat, notDouble => by
      rw [Clause.isShaped, Bool.and_eq_true] at shaped
      have each := Clause.canonical_of_areShaped 0 (first :: second :: others) shaped.2 flat notDouble
      exact .or (fun child member => (each child member).1)
        fun child member => (each child member).2
  | .not child, shaped, flat, notDouble =>
      .not (Clause.canonical_of_isShaped child shaped flat notDouble)
  | .condition c, shaped, _, notDouble => .condition shaped (notDouble c List.mem_cons_self)

theorem Clause.canonical_of_areShaped (outer : Nat) : ∀ children : List Clause,
    Clause.areShaped children = true → Clause.areFlat outer children = true →
    (∀ c ∈ Clause.conditionsOfList children, c.isDoubleNot = false) →
    ∀ child ∈ children, child.Canonical ∧ child.precedence ≠ outer
  | [], _, _, _ => by simp
  | child :: children, shaped, flat, notDouble => by
      simp only [Clause.areShaped, Bool.and_eq_true] at shaped
      simp only [Clause.areFlat, Bool.and_eq_true, decide_eq_true_eq] at flat
      have first := Clause.canonical_of_isShaped child shaped.1 flat.1.2
        fun c member => notDouble c (List.mem_append_left _ member)
      have others := Clause.canonical_of_areShaped outer children shaped.2 flat.2
        fun c member => notDouble c (List.mem_append_right _ member)
      intro other member
      rcases List.mem_cons.mp member with rfl | later
      · exact ⟨first, flat.1.1⟩
      · exact others other later

end

/-- The queries that a text says everything about. -/
structure Query.Canonical (query : Query) : Prop where
  clause : ∀ clause, query.clause = some clause → clause.Canonical
  orderBy : ∀ key ∈ query.orderBy, isFieldName key.field = true

theorem Query.Parsed.canonical {query : Query} (parsed : query.Parsed)
    (flat : query.clause.all Clause.isFlat = true) : query.Canonical := by
  have shaped := parsed.shaped
  rw [isShaped, Bool.and_eq_true, List.all_eq_true] at shaped
  refine ⟨fun clause present => ?_, shaped.2⟩
  rw [present] at shaped flat
  refine Clause.canonical_of_isShaped clause shaped.1 flat fun c member => parsed.notDouble c ?_
  rw [conditions, present]
  exact member

/-- What well-formedness says about the parts of a query. -/
theorem Query.wellFormed_parts {query : Query} (wellFormed : query.isWellFormed = true) :
    query.Canonical ∧ ∀ c ∈ query.conditions, c.namesNot = false := by
  simp only [isWellFormed, Bool.and_eq_true, List.all_eq_true, decide_eq_true_eq] at wellFormed
  obtain ⟨⟨shaped, flat⟩, notNot⟩ := wellFormed
  have clear : ∀ c ∈ query.conditions, c.namesNot = false :=
    fun c member => decide_eq_false (notNot c member)
  have parsed : query.Parsed :=
    ⟨shaped, fun c member => by rw [Condition.isDoubleNot, clear c member, Bool.false_and]⟩
  exact ⟨parsed.canonical flat, clear⟩

namespace Grammar

open IssueFilter.Parser

section Ordering

def EndsKey (rest : List Char) : Prop := Token.atWordEnd rest = true

theorem direction_keyword (direction : Direction) {rest : List Char} (ends : EndsKey rest) :
    Token.direction (direction.keyword.toList ++ rest) = some (direction, rest) := by
  have letters : ∀ c ∈ direction.keyword.toList, isWordChar c = true :=
    List.all_eq_true.mp (by cases direction <;> rfl)
  rw [Token.direction, Token.keyword_append rfl letters ends, Token.keyword_append rfl letters ends]
  cases direction <;> rfl

theorem sortKey_readsBack {key : SortKey} (named : isFieldName key.field = true) :
    ReadsBack sortKey EndsKey key.chars key where
  begins rest := by
    obtain ⟨nonempty, all⟩ := Token.word_of_isFieldName named
    rw [SortKey.chars, List.append_assoc]
    exact Token.skipGaps_append nonempty all _
  reads rest ends := by
    have blank : Token.skipGaps (' ' :: (key.direction.keyword.toList ++ rest)) =
        key.direction.keyword.toList ++ rest := by cases key.direction <;> rfl
    have directed : (optional do gap; token .direction Token.direction : Parser Rule _).read
        (' ' :: (key.direction.keyword.toList ++ rest)) = some (some key.direction, rest) := by
      refine read_optional_of_some ?_
      simp only [read_bind, read_gap, blank, Option.bind_some, read_token,
        direction_keyword key.direction ends]
    rw [SortKey.chars, List.append_assoc, List.cons_append]
    simp only [sortKey, read_rule, read_bind, read_token, Token.field_blank named,
      Option.bind_some, directed, read_pure, Option.getD_some]

theorem read_ordering {keys : List SortKey} (present : keys ≠ [])
    (named : ∀ key ∈ keys, isFieldName key.field = true) :
    ordering.read ("ORDER BY ".toList ++ ", ".toList.intercalate (keys.map SortKey.chars)) =
      some (keys, []) := by
  cases keys with
  | nil => exact absurd rfl present
  | cons first others =>
      have each : ∀ key ∈ first :: others, ReadsBack sortKey EndsKey key.chars key :=
        fun key member => sortKey_readsBack (named key member)
      have separated : (commaSeparated sortKey).read
          (", ".toList.intercalate ((first :: others).map SortKey.chars)) =
            some (first :: others, []) := by
        have read := read_commaSeparated (fun _ => rfl) first others each
          (show EndsKey [] from rfl) rfl
        rwa [List.append_nil, List.map_id'] at read
      have begins : Token.skipGaps (", ".toList.intercalate ((first :: others).map SortKey.chars)) =
          ", ".toList.intercalate ((first :: others).map SortKey.chars) := by
        rw [List.map_cons, intercalate_cons]
        exact (each first List.mem_cons_self).begins _
      have scanned : ∀ s, Token.keywords "order" "by" ("ORDER BY ".toList ++ s) =
          some ((), ' ' :: s) := fun _ => rfl
      simp only [ordering, read_rule, read_bind, read_token, scanned, Option.bind_some, read_gap,
        skipGaps_blank, begins, separated]

end Ordering

/-- The part of the grammar after the clause. -/
def ending (clause : Option Clause) : Parser Rule Query := do
  gap
  let keys ← optional ordering
  gap
  token .endOfText atEnd
  return ⟨clause, keys.getD []⟩

/-- The grammar over the parts of clauses that the parser reads. -/
def queryOf (part : Parser Rule Clause) : Parser Rule Query := rule .query do
  gap
  let clause ← optional (disjunction part)
  ending clause

theorem query_eq (depth : Nat) (s : List Char) :
    (query depth).read s = (queryOf (negation depth)).read s := rfl

theorem read_queryOf (part : Parser Rule Clause) (s : List Char) : (queryOf part).read s =
    ((optional (disjunction part)).read (Token.skipGaps s)).bind fun answer =>
      (ending answer.1).read answer.2 := rfl

theorem read_ending_nil (clause : Option Clause) :
    (ending clause).read [] = some (⟨clause, []⟩, []) := rfl

theorem read_ending_ordering (clause : Option Clause) {keys : List SortKey} (present : keys ≠ [])
    (named : ∀ key ∈ keys, isFieldName key.field = true) {s : List Char}
    (begins : Token.skipGaps s =
      "ORDER BY ".toList ++ ", ".toList.intercalate (keys.map SortKey.chars)) :
    (ending clause).read s = some (⟨clause, keys⟩, []) := by
  simp only [ending, read_bind, read_gap, begins, Option.bind_some,
    read_optional_of_some (read_ordering present named), read_token]
  rfl

/-- The text of a canonical query is read as the query with the values of its conditions. -/
theorem read_chars {part : Nat → Parser Rule Clause} {value : Condition → Clause}
    (parts : ReadsParts part value) {q : Query} (canonical : q.Canonical) {depth : Nat}
    (long : q.chars.length ≤ depth) :
    (queryOf (part (depth + 1))).read q.chars = some (q.expand value, []) := by
  obtain ⟨clause, keys⟩ := q
  have named := canonical.orderBy
  rw [read_queryOf]
  cases clause with
  | none =>
      cases keys with
      | nil =>
          have printed : (⟨none, []⟩ : Query).chars = [] := rfl
          have skipped : Token.skipGaps [] = [] := rfl
          rw [printed, skipped, read_optional_of_none (parts.nothing depth), Option.bind_some]
          exact read_ending_nil none
      | cons first others =>
          have printed : (⟨none, first :: others⟩ : Query).chars = "ORDER BY ".toList ++
              ", ".toList.intercalate ((first :: others).map SortKey.chars) := rfl
          have begins : ∀ s, Token.skipGaps ("ORDER BY ".toList ++ s) = "ORDER BY ".toList ++ s :=
            fun _ => rfl
          rw [printed, begins, read_optional_of_none (parts.ordering depth _), Option.bind_some]
          exact read_ending_ordering none (List.cons_ne_nil first others) named (begins _)
  | some clause =>
      have readsBack := readsEverywhere parts (canonical.clause clause rfl)
      cases keys with
      | nil =>
          have printed : (⟨some clause, []⟩ : Query).chars = clause.chars ++ [] := rfl
          have short : clause.chars.length < depth + 1 := by
            rw [printed, List.append_nil] at long
            omega
          have whole := readsBack.whole (depth + 1) short
          rw [printed, whole.begins, read_optional_of_some (whole.reads [] endsClause_nil),
            Option.bind_some]
          exact read_ending_nil (some (clause.expand value))
      | cons first others =>
          have printed : (⟨some clause, first :: others⟩ : Query).chars =
              clause.chars ++ ' ' :: ("ORDER BY ".toList ++
                ", ".toList.intercalate ((first :: others).map SortKey.chars)) := rfl
          have short : clause.chars.length < depth + 1 := by
            rw [printed, List.length_append] at long
            omega
          have whole := readsBack.whole (depth + 1) short
          rw [printed, whole.begins,
            read_optional_of_some (whole.reads _ (endsClause_ordering _)), Option.bind_some]
          exact read_ending_ordering (some (clause.expand value)) (List.cons_ne_nil first others)
            named rfl

end Grammar

/-- The text of a canonical query is a filter, and is read with each condition as its text is. -/
theorem Query.ofChars_of_canonical {q : Query} (canonical : q.Canonical) :
    Query.ofChars q.chars = .ok (q.expand Condition.reread) := by
  have reads := Grammar.read_chars Grammar.negation_readsParts canonical
    (Nat.le_refl q.chars.length)
  simp only [ofChars, Grammar.query_eq, reads]

theorem Query.ofChars_chars {q : Query} (wellFormed : q.isWellFormed = true) :
    Query.ofChars q.chars = .ok q := by
  obtain ⟨canonical, notNot⟩ := Query.wellFormed_parts wellFormed
  have same : q.expand Condition.reread = q := by
    refine (q.expand_eq_self_iff _).mpr fun c member => c.reread_eq_iff.mpr ?_
    rw [Condition.isAmbiguous, notNot c member, Bool.false_and, Bool.false_and]
  rw [Query.ofChars_of_canonical canonical, same]

/-- A well formed query is what its text is read as. -/
theorem Query.parse_text {q : Query} (wellFormed : q.isWellFormed = true) :
    Query.parse q.text = .ok q := by
  rw [parse, text, String.toList_ofList]
  exact Query.ofChars_chars wellFormed

/-- A query whose texts need quotes for every reason there is, and whose fields look like
keywords. -/
def keywordLikeQuery : Query where
  clause := some (.or
    [.and
      [.condition ⟨"order", .equals, .single (.text "007")⟩,
        .not (.or
          [.condition ⟨"is", .is, .empty⟩,
            .condition ⟨"in", .notIn, .list
              [.single (.number 18446744073709551615), .call ⟨"null", ["say \"\\\"", ""]⟩,
                .single (.text "EMPTY"), .single (.text "a-b")]⟩])],
      .condition ⟨"and.or", .notLike, .single (.text "ü (1, 2)\n")⟩])
  orderBy := [⟨"asc", .descending⟩, ⟨"by", .ascending⟩]

theorem Query.parse_text_keywordLike :
    keywordLikeQuery.isWellFormed = true ∧
      Query.parse keywordLikeQuery.text = .ok keywordLikeQuery := by
  have wellFormed : keywordLikeQuery.isWellFormed = true := by decide
  exact ⟨wellFormed, Query.parse_text wellFormed⟩

end IssueFilter
