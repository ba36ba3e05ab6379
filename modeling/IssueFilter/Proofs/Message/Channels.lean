import IssueFilter.Message.Set

/-! Which channels of a message set are in use. Adding a text uses a channel for good, even if the
text is known there, and merging uses the channels that either set uses; so whether there are errors
does not depend on which texts are the same. -/
namespace IssueFilter.MessageSet

theorem insertText_ne_nil (texts : List String) (text : String) : insertText texts text ≠ [] := by
  unfold insertText
  split
  · rename_i known
    intro none
    rw [none] at known
    cases known
  · exact List.append_ne_nil_of_right_ne_nil texts (List.cons_ne_nil text [])

theorem foldl_insertText_eq_nil_iff (before texts : List String) :
    texts.foldl insertText before = [] ↔ before = [] ∧ texts = [] := by
  induction texts generalizing before with
  | nil => simp
  | cons text texts ih =>
      rw [List.foldl_cons, ih]
      constructor
      · rintro ⟨none, -⟩
        exact absurd none (insertText_ne_nil before text)
      · rintro ⟨-, ⟨⟩⟩

theorem errors_addError_ne_nil (messages : MessageSet) (text : String) :
    (messages.addError text).errors ≠ [] := insertText_ne_nil messages.errors text

theorem warnings_addWarning_ne_nil (messages : MessageSet) (text : String) :
    (messages.addWarning text).warnings ≠ [] := insertText_ne_nil messages.warnings text

theorem foldl_addError (messages : MessageSet) (texts : List String) :
    texts.foldl addError messages = ⟨texts.foldl insertText messages.errors, messages.warnings⟩ := by
  induction texts generalizing messages with
  | nil => rfl
  | cons text texts ih => rw [List.foldl_cons, ih]; rfl

theorem foldl_addWarning (messages : MessageSet) (texts : List String) :
    texts.foldl addWarning messages =
      ⟨messages.errors, texts.foldl insertText messages.warnings⟩ := by
  induction texts generalizing messages with
  | nil => rfl
  | cons text texts ih => rw [List.foldl_cons, ih]; rfl

/-- The channels are merged apart from each other. -/
theorem merge_eq (messages added : MessageSet) : messages.merge added =
    ⟨added.errors.foldl insertText messages.errors,
      added.warnings.foldl insertText messages.warnings⟩ := by
  rw [merge, foldl_addError, foldl_addWarning]

theorem errors_merge_eq_nil_iff (messages added : MessageSet) :
    (messages.merge added).errors = [] ↔ messages.errors = [] ∧ added.errors = [] := by
  rw [merge_eq]
  exact foldl_insertText_eq_nil_iff messages.errors added.errors

theorem warnings_merge_eq_nil_iff (messages added : MessageSet) :
    (messages.merge added).warnings = [] ↔ messages.warnings = [] ∧ added.warnings = [] := by
  rw [merge_eq]
  exact foldl_insertText_eq_nil_iff messages.warnings added.warnings

theorem errors_eq_nil_iff (messages : MessageSet) :
    messages.errors = [] ↔ messages.hasErrors = false := by
  rw [hasErrors, Bool.not_eq_false', List.isEmpty_iff]

/-- The two sets use the same channels. -/
structure SameChannels (a b : MessageSet) : Prop where
  errors : a.errors = [] ↔ b.errors = []
  warnings : a.warnings = [] ↔ b.warnings = []

namespace SameChannels

variable {a b c d : MessageSet}

theorem refl (a : MessageSet) : SameChannels a a := ⟨Iff.rfl, Iff.rfl⟩

theorem addError (h : SameChannels a b) (s t : String) :
    SameChannels (a.addError s) (b.addError t) := by
  constructor
  · exact iff_of_false (errors_addError_ne_nil a s) (errors_addError_ne_nil b t)
  · exact h.warnings

theorem addWarning (h : SameChannels a b) (s t : String) :
    SameChannels (a.addWarning s) (b.addWarning t) := by
  constructor
  · exact h.errors
  · exact iff_of_false (warnings_addWarning_ne_nil a s) (warnings_addWarning_ne_nil b t)

theorem merge (h : SameChannels a b) (added : SameChannels c d) :
    SameChannels (a.merge c) (b.merge d) := by
  constructor
  · rw [errors_merge_eq_nil_iff, errors_merge_eq_nil_iff, h.errors, added.errors]
  · rw [warnings_merge_eq_nil_iff, warnings_merge_eq_nil_iff, h.warnings, added.warnings]

end SameChannels

end IssueFilter.MessageSet
