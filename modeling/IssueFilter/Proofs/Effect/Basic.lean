import Mathlib.Tactic.Choose

/-! Computations whose effects nothing is known about. Two of them may be related in a way that respects
sequencing, and one of them may have results of a certain kind only. -/
namespace IssueFilter

/-- A relation between computations in `m` and in `n` that respects sequencing. -/
structure EffectRelation (m n : Type → Type) [Monad m] [Monad n] where
  rel : {α : Type} → m α → n α → Prop
  rel_pure : ∀ {α : Type} (a : α), rel (pure a : m α) (pure a)
  rel_bind : ∀ {α β : Type} {x : m α} {y : n α} {f : α → m β} {g : α → n β},
    rel x y → (∀ a, rel (f a) (g a)) → rel (x >>= f) (y >>= g)

/-- A relation between computations in `m` that moreover relates each of them to itself. -/
structure EffectOrder (m : Type → Type) [Monad m] extends EffectRelation m m where
  rel_refl : ∀ {α : Type} (x : m α), rel x x

namespace EffectOrder

def equality (m : Type → Type) [Monad m] : EffectOrder m where
  rel x y := x = y
  rel_pure _ := rfl
  rel_bind first rest := by rw [first, funext rest]
  rel_refl _ := rfl

/-- The second outcome is the first one if that is a value; an error says nothing about the second. -/
def extension (ε : Type) : EffectOrder (Except ε) where
  rel x y := ∀ a, x = .ok a → y = .ok a
  rel_pure _ _ same := same
  rel_bind := by
    intro _ _ x y f g first rest b found
    cases x with
    | error e => cases found
    | ok a =>
        rw [first a rfl]
        exact rest a b found
  rel_refl _ _ same := same

end EffectOrder

section Ensuring

variable {m : Type → Type} {α β : Type} {p q : α → Prop}

/-- Whatever the effects of the computation are, each of its results has the property. -/
def Ensures [Functor m] (x : m α) (p : α → Prop) : Prop :=
  ∃ y : m {a // p a}, Subtype.val <$> y = x

namespace Ensures

variable [Monad m] [LawfulMonad m] {x : m α}

theorem pure {a : α} (holds : p a) : Ensures (Pure.pure a : m α) p :=
  ⟨Pure.pure ⟨a, holds⟩, map_pure _ _⟩

theorem trivial (x : m α) : Ensures x fun _ => True := by
  refine ⟨(fun a => ⟨a, True.intro⟩) <$> x, ?_⟩
  rw [Functor.map_map]
  exact id_map x

theorem bind {f : α → m β} {r : β → Prop} (first : Ensures x p)
    (rest : ∀ a, p a → Ensures (f a) r) : Ensures (x >>= f) r := by
  obtain ⟨y, rfl⟩ := first
  choose next same using fun a : {a // p a} => rest a.1 a.2
  refine ⟨y >>= next, ?_⟩
  rw [map_bind, bind_map_left]
  exact congrArg (y >>= ·) (funext same)

theorem map {f : α → β} {r : β → Prop} (each : ∀ a, r (f a)) : Ensures (f <$> x) r := by
  rw [map_eq_pure_bind]
  exact (trivial x).bind fun a _ => pure (each a)

/-- With a state for the only effect, the property holds of the result from every state. -/
theorem run {σ : Type} {x : StateM σ α} (ensures : Ensures x p) (state : σ) : p (x.run state).1 := by
  obtain ⟨y, rfl⟩ := ensures
  exact (y.run state).1.2

end Ensures

end Ensuring

end IssueFilter
