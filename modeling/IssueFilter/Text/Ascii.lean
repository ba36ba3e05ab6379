/-! Letter case as the filter language sees it in keywords, field names and project keys: only the
twenty-six ASCII letters have two cases, every other character is its own partner. -/
namespace IssueFilter.Ascii

def lower (s : String) : String := String.ofList (s.toList.map Char.toLower)

def upper (s : String) : String := String.ofList (s.toList.map Char.toUpper)

theorem toUpper_toUpper (c : Char) : c.toUpper.toUpper = c.toUpper := by
  by_cases lower : 'a'.val ≤ c.val ∧ c.val ≤ 'z'.val
  · have raised : c.toUpper = ⟨c.val + ('A'.val - 'a'.val), _⟩ := dif_pos lower
    have notLower : ¬('a'.val ≤ c.toUpper.val ∧ c.toUpper.val ≤ 'z'.val) := by
      rw [raised]
      grind
    exact dif_neg notLower
  · have same : c.toUpper = c := dif_neg lower
    rw [same, same]

theorem toUpper_of_isDigit {c : Char} (digit : c.isDigit = true) : c.toUpper = c := by
  simp only [Char.isDigit, Bool.and_eq_true, decide_eq_true_eq] at digit
  have notLower : ¬(c.val ≥ 'a'.val ∧ c.val ≤ 'z'.val) := by grind
  exact dif_neg notLower

@[simp] theorem upper_upper (s : String) : upper (upper s) = upper s := by
  simp only [upper, String.toList_ofList, List.map_map, Function.comp_def, toUpper_toUpper]

def sameText (a b : String) : Bool := a.toList.map Char.toLower == b.toList.map Char.toLower

end IssueFilter.Ascii
