import IssueFilter.Proofs.Parser.Yielding

/-! Two parsers that read the same off all texts of a bounded length. What is left over is bounded
too, so this composes along a sequence, and a parser that calls itself behind something of at least
a character can be shown to agree with another one by induction on the bound. -/
namespace IssueFilter.Parser

variable {ρ α β : Type}

/-- The parsers read the same off texts with fewer characters than the bound. -/
def Agree (bound : Nat) (p q : Parser ρ α) : Prop :=
  ∀ s, s.length < bound → p.read s = q.read s ∧
    ∀ a rest, q.read s = some (a, rest) → rest.length < bound

namespace Agree

variable {bound : Nat} {p q : Parser ρ α} {ps qs : List (Parser ρ α)}

theorem refl {P : α → Prop} (h : Yields bound p P) : Agree bound p p :=
  fun s short => ⟨rfl, fun a rest success => (h s a rest short success).2⟩

theorem bind {f g : α → Parser ρ β} (first : Agree bound p q) (next : ∀ a, Agree bound (f a) (g a)) :
    Agree bound (p >>= f) (q >>= g) := by
  intro s short
  obtain ⟨same, left⟩ := first s short
  rw [read_bind, read_bind, same]
  cases taken : q.read s with
  | none => exact ⟨rfl, fun _ _ success => by cases success⟩
  | some answer => exact next answer.1 answer.2 (left answer.1 answer.2 taken)

theorem behind {before : Parser ρ β}
    (takes : ∀ s b rest, before.read s = some (b, rest) → rest.length < s.length)
    (h : Agree bound p q) : Agree (bound + 1) (before >>= fun _ => p) (before >>= fun _ => q) := by
  intro s short
  rw [read_bind, read_bind]
  cases taken : before.read s with
  | none => exact ⟨rfl, fun _ _ success => by cases success⟩
  | some answer =>
      have shorter := takes s answer.1 answer.2 taken
      obtain ⟨same, left⟩ := h answer.2 (by omega)
      exact ⟨same, fun a rest success => Nat.lt_succ_of_lt (left a rest success)⟩

theorem rule (name : ρ) (h : Agree bound p q) : Agree bound (rule name p) (rule name q) := h

theorem firstOf_cons (first : Agree bound p q) (later : Agree bound (firstOf ps) (firstOf qs)) :
    Agree bound (firstOf (p :: ps)) (firstOf (q :: qs)) := by
  intro s short
  obtain ⟨sameFirst, leftFirst⟩ := first s short
  obtain ⟨sameLater, leftLater⟩ := later s short
  rw [read_firstOf_cons, read_firstOf_cons, sameFirst, sameLater]
  refine ⟨rfl, fun a rest success => ?_⟩
  rcases Option.or_eq_some_iff.mp success with taken | ⟨-, taken⟩
  · exact leftFirst a rest taken
  · exact leftLater a rest taken

theorem many (step : Agree bound p q) : Agree bound (many p) (many q) := by
  suffices ∀ steps s, s.length < bound → p.repeated steps s = q.repeated steps s ∧
      (q.repeated steps s).2.length < bound by
    intro s short
    obtain ⟨same, left⟩ := this ('\n' :: s) s short
    refine ⟨congrArg some same, fun items rest success => ?_⟩
    rwa [Option.some.inj success] at left
  intro steps
  induction steps with
  | nil => exact fun s short => ⟨rfl, short⟩
  | cons _ steps ih =>
      intro s short
      obtain ⟨same, left⟩ := step s short
      rw [repeated, repeated, same]
      cases taken : q.read s with
      | none => exact ⟨rfl, short⟩
      | some answer =>
          obtain ⟨others, after⟩ := ih answer.2 (left answer.1 answer.2 taken)
          simp only [others]
          exact ⟨trivial, after⟩

end Agree

end IssueFilter.Parser
