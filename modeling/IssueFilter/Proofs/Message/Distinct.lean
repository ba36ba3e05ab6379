import IssueFilter.Proofs.Message.Channels
import Mathlib.Data.List.Induction

/-! The texts of a message set. Texts that are added one by one stay in the order in which they were first
added, and each of them is there once. -/
namespace IssueFilter.MessageSet

/-- Adding one more text to the distinct ones among some texts. -/
theorem insertText_eraseDups (texts : List String) (text : String) :
    insertText texts.eraseDups text = (texts ++ [text]).eraseDups := by
  rw [List.eraseDups_append]
  unfold insertText
  by_cases known : text ∈ texts
  · have none : [text].removeAll texts = [] := by simp [List.removeAll, known]
    rw [if_pos (List.contains_iff_mem.mpr (List.mem_eraseDups.mpr known)), none,
      List.eraseDups_nil, List.append_nil]
  · have new : ¬ texts.eraseDups.contains text = true := by
      rw [List.contains_iff_mem, List.mem_eraseDups]
      exact known
    have one : [text].removeAll texts = [text] := by simp [List.removeAll, known]
    rw [if_neg new, one, List.eraseDups_cons, List.filter_nil, List.eraseDups_nil]

theorem foldl_insertText (texts : List String) : texts.foldl insertText [] = texts.eraseDups := by
  induction texts using List.reverseRecOn with
  | nil => rfl
  | append_singleton texts text ih =>
      rw [List.foldl_append, ih, List.foldl_cons, List.foldl_nil, insertText_eraseDups]

theorem mem_insertText {texts : List String} {text other : String} :
    other ∈ insertText texts text ↔ other ∈ texts ∨ other = text := by
  unfold insertText
  split
  · rename_i known
    constructor
    · exact .inl
    · rintro (before | rfl)
      · exact before
      · exact List.contains_iff_mem.mp known
  · rw [List.mem_append, List.mem_singleton]

theorem mem_foldl_insertText {before texts : List String} {text : String} :
    text ∈ texts.foldl insertText before ↔ text ∈ before ∨ text ∈ texts := by
  induction texts generalizing before with
  | nil => simp
  | cons other texts ih => rw [List.foldl_cons, ih, mem_insertText, List.mem_cons, or_assoc]

/-- Texts that are all there already change nothing. -/
theorem foldl_insertText_of_mem {before texts : List String} (known : ∀ text ∈ texts, text ∈ before) :
    texts.foldl insertText before = before := by
  induction texts with
  | nil => rfl
  | cons text texts ih =>
      rw [List.forall_mem_cons] at known
      rw [List.foldl_cons, insertText, if_pos (List.contains_iff_mem.mpr known.1), ih known.2]

/-- Adding what some texts amount to is adding the texts. -/
theorem foldl_insertText_foldl (before first second : List String) :
    (second.foldl insertText first).foldl insertText before =
      (first ++ second).foldl insertText before := by
  induction second generalizing first with
  | nil => rw [List.foldl_nil, List.append_nil]
  | cons text second ih =>
      rw [List.foldl_cons, ih, insertText]
      split
      · rename_i known
        have there : ∀ other ∈ [text], other ∈ first.foldl insertText before := by
          rw [List.forall_mem_singleton, mem_foldl_insertText]
          exact .inr (List.contains_iff_mem.mp known)
        rw [← List.singleton_append, ← List.append_assoc, List.foldl_append, List.foldl_append,
          List.foldl_append, foldl_insertText_of_mem there]
      · rw [List.append_assoc, List.singleton_append]

end IssueFilter.MessageSet
