import IssueFilter.Proofs.Parser.Reading
import Mathlib.Data.List.Forall2

/-! Two parsers that go through a text side by side. They succeed on the same texts, take the same off
them and record the same failures; only what they read may differ, as long as it is related. So one of
them may give parse trees and the other one what the trees stand for. -/
namespace IssueFilter.Parser

variable {ρ α β γ δ : Type}

structure Parallel (R : α → β → Prop) (p : Parser ρ α) (q : Parser ρ β) : Prop where
  traces : ∀ s t, p.trace s t = q.trace s t
  reads : ∀ s, (p.read s = none ∧ q.read s = none) ∨
    ∃ a b rest, p.read s = some (a, rest) ∧ q.read s = some (b, rest) ∧ R a b

namespace Parallel

variable {R R' : α → β → Prop} {S : γ → δ → Prop} {p : Parser ρ α} {q : Parser ρ β}
  {ps : List (Parser ρ α)} {qs : List (Parser ρ β)}

theorem mono (h : Parallel R p q) (weaker : ∀ a b, R a b → R' a b) : Parallel R' p q where
  traces := h.traces
  reads s := by
    rcases h.reads s with fails | ⟨a, b, rest, left, right, related⟩
    · exact .inl fails
    · exact .inr ⟨a, b, rest, left, right, weaker a b related⟩

theorem refl (p : Parser ρ α) : Parallel Eq p p where
  traces _ _ := rfl
  reads s := by
    cases taken : p.read s with
    | none => exact .inl ⟨rfl, rfl⟩
    | some answer => exact .inr ⟨answer.1, answer.1, answer.2, rfl, rfl, rfl⟩

theorem symm (h : Parallel R p q) : Parallel (fun b a => R a b) q p where
  traces s t := (h.traces s t).symm
  reads s := by
    rcases h.reads s with ⟨left, right⟩ | ⟨a, b, rest, left, right, related⟩
    · exact .inl ⟨right, left⟩
    · exact .inr ⟨b, a, rest, right, left, related⟩

theorem pure {a : α} {b : β} (related : R a b) :
    Parallel R (pure a : Parser ρ α) (pure b : Parser ρ β) where
  traces _ _ := rfl
  reads s := .inr ⟨a, b, s, rfl, rfl, related⟩

theorem bind {f : α → Parser ρ γ} {g : β → Parser ρ δ} (first : Parallel R p q)
    (next : ∀ a b, R a b → Parallel S (f a) (g b)) : Parallel S (p >>= f) (q >>= g) where
  traces s t := by
    rw [trace_bind, trace_bind, first.traces]
    rcases first.reads s with ⟨left, right⟩ | ⟨a, b, rest, left, right, related⟩
    · rw [left, right]
    · rw [left, right]
      exact (next a b related).traces rest (q.trace s t)
  reads s := by
    rw [read_bind, read_bind]
    rcases first.reads s with ⟨left, right⟩ | ⟨a, b, rest, left, right, related⟩
    · rw [left, right]
      exact .inl ⟨rfl, rfl⟩
    · rw [left, right]
      exact (next a b related).reads rest

/-- One of the two may still make something of what it has read. -/
theorem map_right {g : β → δ} {R' : α → δ → Prop} (h : Parallel R p q)
    (related : ∀ a b, R a b → R' a (g b)) : Parallel R' p (q >>= fun b => Pure.pure (g b)) where
  traces s t := by
    rw [trace_bind, h.traces]
    cases q.read s with
    | none => rfl
    | some answer => rfl
  reads s := by
    rw [read_bind]
    rcases h.reads s with ⟨left, right⟩ | ⟨a, b, rest, left, right, holds⟩
    · rw [left, right]
      exact .inl ⟨rfl, rfl⟩
    · rw [left, right]
      exact .inr ⟨a, g b, rest, rfl, rfl, related a b holds⟩

theorem map_left {f : α → γ} {R' : γ → β → Prop} (h : Parallel R p q)
    (related : ∀ a b, R a b → R' (f a) b) : Parallel R' (p >>= fun a => Pure.pure (f a)) q :=
  (h.symm.map_right fun b a holds => related a b holds).symm

theorem rule (name : ρ) (h : Parallel R p q) : Parallel R (rule name p) (rule name q) where
  traces s t := by
    rw [trace_rule, trace_rule, h.traces]
    rcases h.reads s with ⟨left, right⟩ | ⟨a, b, rest, left, right, -⟩
    · rw [left, right]
    · rw [left, right]
  reads := h.reads

theorem firstOf_nil :
    Parallel R (firstOf ([] : List (Parser ρ α))) (firstOf ([] : List (Parser ρ β))) where
  traces _ _ := rfl
  reads _ := .inl ⟨rfl, rfl⟩

theorem orElse {p' : Parser ρ α} {q' : Parser ρ β} (first : Parallel R p q)
    (later : Parallel R p' q') : Parallel R (p.orElse p') (q.orElse q') where
  traces s t := by
    rw [trace_orElse, trace_orElse, first.traces]
    rcases first.reads s with ⟨left, right⟩ | ⟨a, b, rest, left, right, -⟩
    · rw [left, right]
      exact later.traces s (q.trace s t)
    · rw [left, right]
  reads s := by
    rw [read_orElse, read_orElse]
    rcases first.reads s with ⟨left, right⟩ | ⟨a, b, rest, left, right, related⟩
    · rw [left, right, Option.none_or, Option.none_or]
      exact later.reads s
    · rw [left, right, Option.some_or, Option.some_or]
      exact .inr ⟨a, b, rest, rfl, rfl, related⟩

theorem firstOf_cons (first : Parallel R p q) (later : Parallel R (firstOf ps) (firstOf qs)) :
    Parallel R (firstOf (p :: ps)) (firstOf (q :: qs)) :=
  first.orElse later

theorem optional {R : Option α → Option β → Prop}
    (present : Parallel (fun a b => R (some a) (some b)) p q) (absent : R none none) : Parallel R (optional p) (optional q) := by
  refine .orElse ?_ (.pure absent)
  exact .bind present fun a b related => .pure related

/-- By induction on the bound of the repetition: each round leaves the same text for the next one. -/
theorem many (step : Parallel R p q) : Parallel (List.Forall₂ R) (many p) (many q) := by
  suffices ∀ bound s, (∀ t, p.traceRepeated bound s t = q.traceRepeated bound s t) ∧
      ∃ as bs rest, p.repeated bound s = (as, rest) ∧ q.repeated bound s = (bs, rest) ∧
        List.Forall₂ R as bs by
    refine ⟨fun s t => (this ('\n' :: s) s).1 t, fun s => .inr ?_⟩
    obtain ⟨as, bs, rest, left, right, related⟩ := (this ('\n' :: s) s).2
    exact ⟨as, bs, rest, congrArg some left, congrArg some right, related⟩
  intro bound
  induction bound with
  | nil => exact fun s => ⟨fun _ => rfl, [], [], s, rfl, rfl, .nil⟩
  | cons c bound ih =>
      intro s
      simp only [traceRepeated, repeated, step.traces]
      rcases step.reads s with ⟨left, right⟩ | ⟨a, b, between, left, right, related⟩
      · simp only [left, right]
        exact ⟨fun _ => trivial, [], [], s, rfl, rfl, .nil⟩
      · obtain ⟨traces, as, bs, rest, others, others', all⟩ := ih between
        simp only [left, right, others, others']
        exact ⟨fun t => traces _, a :: as, b :: bs, rest, rfl, rfl, .cons related all⟩

end Parallel

end IssueFilter.Parser
