import IssueFilter.Proofs.Parser.Reading

/-! What holds of everything that a parser reads. `Yields` is about texts of a bounded length, and says
of the text after a value that the same bound holds of it; so it composes along a sequence, and it can
be shown by induction on the bound where a parser calls itself on what is left. -/
namespace IssueFilter.Parser

variable {ρ α β : Type}

/-- Off a text with fewer characters than the bound only such values are read, and what is left of it
has fewer characters than the bound too. -/
def Yields (bound : Nat) (p : Parser ρ α) (P : α → Prop) : Prop :=
  ∀ s a rest, s.length < bound → p.read s = some (a, rest) → P a ∧ rest.length < bound

namespace Yields

variable {bound : Nat} {p : Parser ρ α} {ps : List (Parser ρ α)} {P Q : α → Prop}

theorem mono (h : Yields bound p P) (weaker : ∀ a, P a → Q a) : Yields bound p Q := by
  intro s a rest short success
  obtain ⟨holds, left⟩ := h s a rest short success
  exact ⟨weaker a holds, left⟩

theorem pure {a : α} (holds : P a) : Yields bound (pure a : Parser ρ α) P := by
  rintro s _ _ short ⟨⟩
  exact ⟨holds, short⟩

theorem bind {R : β → Prop} {f : α → Parser ρ β} (first : Yields bound p P)
    (next : ∀ a, P a → Yields bound (f a) R) : Yields bound (p >>= f) R := by
  intro s b rest short success
  rw [read_bind, Option.bind_eq_some_iff] at success
  obtain ⟨⟨a, between⟩, taken, others⟩ := success
  obtain ⟨holds, left⟩ := first s a between short taken
  exact next a holds between b rest left others

/-- What stands behind something of at least a character is shorter. -/
theorem behind {before : Parser ρ β}
    (takes : ∀ s b rest, before.read s = some (b, rest) → rest.length < s.length)
    (h : Yields bound p P) : Yields (bound + 1) (before >>= fun _ => p) P := by
  intro s a rest short success
  rw [read_bind, Option.bind_eq_some_iff] at success
  obtain ⟨⟨b, between⟩, taken, others⟩ := success
  have shorter := takes s b between taken
  obtain ⟨holds, left⟩ := h between a rest (by omega) others
  exact ⟨holds, by omega⟩

theorem rule (name : ρ) (h : Yields bound p P) : Yields bound (rule name p) P := h

theorem firstOf_nil : Yields bound (firstOf ([] : List (Parser ρ α))) P := by
  rintro s a rest short ⟨⟩

theorem firstOf_cons (first : Yields bound p P) (later : Yields bound (firstOf ps) P) :
    Yields bound (firstOf (p :: ps)) P := by
  intro s a rest short success
  rw [read_firstOf_cons, Option.or_eq_some_iff] at success
  rcases success with taken | ⟨-, taken⟩
  · exact first s a rest short taken
  · exact later s a rest short taken

theorem optional {P : Option α → Prop} (present : Yields bound p fun a => P (some a))
    (absent : P none) : Yields bound (optional p) P := by
  intro s a rest short success
  rw [read_optional, Option.or_eq_some_iff, Option.map_eq_some_iff] at success
  rcases success with ⟨answer, taken, same⟩ | ⟨-, same⟩
  · cases same
    exact present s answer.1 answer.2 short taken
  · cases same
    exact ⟨absent, short⟩

theorem many (step : Yields bound p P) : Yields bound (many p) fun items => ∀ a ∈ items, P a := by
  suffices ∀ steps s, s.length < bound →
      (∀ a ∈ (p.repeated steps s).1, P a) ∧ (p.repeated steps s).2.length < bound by
    intro s items rest short success
    have repeated : p.repeated ('\n' :: s) s = (items, rest) := Option.some.inj success
    have all := this ('\n' :: s) s short
    rwa [repeated] at all
  intro steps
  induction steps with
  | nil => exact fun s short => ⟨by simp [repeated], short⟩
  | cons _ steps ih =>
      intro s short
      rw [repeated]
      cases taken : p.read s with
      | none => exact ⟨by simp, short⟩
      | some answer =>
          obtain ⟨first, between⟩ := step s answer.1 answer.2 short taken
          obtain ⟨others, left⟩ := ih answer.2 between
          exact ⟨List.forall_mem_cons.mpr ⟨first, others⟩, left⟩

end Yields

end IssueFilter.Parser
