import IssueFilter.Proofs.Query.Filling
import IssueFilter.Proofs.Query.Words
import IssueFilter.Proofs.Search.Evaluating

/-! Searching for a list of ids, which is what a call of the sub-query function is replaced by. The
field `issue` has two values, the id of an issue and its key, and an id is compared with both; so an
issue is found by its own id, and also if its key is the numeral of an id in the list. -/
namespace IssueFilter

section Numerals

/-- Only a digit is a digit in lower case. -/
theorem eq_of_toLower_digit {c d : Char} (digit : d.isDigit = true) (lowered : c.toLower = d) :
    c = d := by
  by_cases upper : c.val ≥ 'A'.val ∧ c.val ≤ 'Z'.val
  · have changed : c.toLower = ⟨c.val + ('a'.val - 'A'.val), _⟩ := dif_pos upper
    have value : d.val = c.val + ('a'.val - 'A'.val) := by rw [← lowered, changed]
    simp only [Char.isDigit, Bool.and_eq_true, decide_eq_true_eq] at digit
    exfalso
    grind
  · have same : c.toLower = c := dif_neg upper
    rw [← same, lowered]

theorem eq_of_map_toLower {s digits : List Char} (all : ∀ d ∈ digits, d.isDigit = true)
    (lowered : s.map Char.toLower = digits) : s = digits := by
  induction s generalizing digits with
  | nil => exact lowered
  | cons c s ih =>
      obtain rfl := lowered.symm
      rw [List.map_cons, List.forall_mem_cons] at all
      rw [List.map_cons, ← eq_of_toLower_digit all.1 rfl, ← ih all.2 rfl]

/-- Case does not matter where one text is a numeral. -/
theorem Ascii.sameText_numeral (s : String) (n : UInt64) :
    sameText s (Numeral.text n) = decide (s = Numeral.text n) := by
  have digits : ∀ c ∈ Numeral.chars n, c.isDigit = true := fun _ => Numeral.isDigit_of_mem_chars
  have lowered : (Numeral.chars n).map Char.toLower = Numeral.chars n := by
    rw [List.map_congr_left fun c member => toLower_of_isDigit (digits c member), List.map_id']
  rw [sameText, Numeral.text, String.toList_ofList, lowered, Bool.eq_iff_iff, beq_iff_eq,
    decide_eq_true_eq]
  constructor
  · intro same
    rw [← eq_of_map_toLower digits same, String.ofList_toList]
  · intro same
    rw [same, String.toList_ofList, lowered]

end Numerals

namespace Index

/-- The query for the issues of a list of ids. -/
def idsQuery (ids : List UInt64) : Query where
  clause := some (.condition ⟨"issue", .isIn, .list (ids.map fun id => .single (.number id))⟩)
  orderBy := []

section

variable {index : Index} (ids : List UInt64) (issue : Issue)

theorem literals_ids :
    Operand.literalsOfList (ids.map fun id => .single (.number id)) = ids.map Literal.number := by
  have literals := Operand.literals_ofLiterals (ids.map Literal.number)
  rwa [Operand.ofLiterals, List.map_map] at literals

theorem calls_ids :
    Operand.callsOfList (ids.map fun id => .single (.number id)) = [] := by
  have calls := Operand.calls_ofLiterals (ids.map Literal.number)
  rwa [Operand.ofLiterals, List.map_map] at calls

theorem selects_idsQuery : index.selects (idsQuery ids) issue =
    .ok (ids.contains issue.id || (ids.map Numeral.text).contains issue.key) := by
  have condition : index.selects (idsQuery ids) issue =
      .ok (someRelated FieldValue.equals [.number issue.id, .text issue.key]
        (.list (ids.map fun id => .single (.number id)))) := by
    have known : index.valuesOf issue "issue" = .ok [.number issue.id, .text issue.key] := rfl
    exact index.satisfiesCondition_of_values issue known (calls_ids ids)
  have byId : (ids.map Literal.number).any (FieldValue.number issue.id).equals =
      ids.contains issue.id := by
    rw [Bool.eq_iff_iff]
    simp [FieldValue.equals, Literal.asNumber?]
  have byKey : (ids.map Literal.number).any (FieldValue.text issue.key).equals =
      (ids.map Numeral.text).contains issue.key := by
    rw [Bool.eq_iff_iff]
    simp only [List.any_map, List.any_eq_true, Function.comp_apply, FieldValue.equals,
      Literal.asText, Ascii.sameText_numeral, decide_eq_true_eq, List.contains_iff_mem,
      List.mem_map]
    constructor
    · rintro ⟨id, member, same⟩
      exact ⟨id, member, same.symm⟩
    · rintro ⟨id, member, same⟩
      exact ⟨id, member, same.symm⟩
  rw [condition, someRelated, List.any_cons, List.any_cons, List.any_nil, Bool.or_false,
    Operand.literals, literals_ids, byId, byKey]

/-- The search for ids never fails, and finds the browsable ones of the issues that have one of the ids
or the numeral of one for a key. -/
theorem Consistent.search_idsQuery (h : index.Consistent) (viewer : Viewer) :
    let found := index.issues.filter fun issue =>
      index.canBrowse viewer issue.projectId &&
        (ids.contains issue.id || (ids.map Numeral.text).contains issue.key)
    index.search viewer (idsQuery ids) .unlimited = .ok ⟨found, found.length⟩ := by
  intro found
  have each : ∀ issue ∈ index.browsableIssues viewer, index.selects (idsQuery ids) issue =
      .ok (ids.contains issue.id || (ids.map Numeral.text).contains issue.key) :=
    fun issue _ => selects_idsQuery ids issue
  have same : (index.browsableIssues viewer).filter (fun issue =>
      ids.contains issue.id || (ids.map Numeral.text).contains issue.key) = found := by
    rw [browsableIssues, List.filter_filter]
    exact List.filter_congr fun issue _ => Bool.and_comm _ _
  rw [h.search_of_selects rfl each, same]
  rfl

end

end Index

end IssueFilter
