import IssueFilter.Proofs.Parser.Yielding

/-! Where the farthest failure is noted. It never leaves the text, and once a rule has failed there is
always a rule that was expected: only the record from before the first failure, which stands at the
beginning of the text, expects nothing. No rule can break this by failing, whatever other rules have
noted before, so a parser keeps it however often it goes back. -/
namespace IssueFilter

variable {ρ α β : Type}

namespace Trace

variable {bound left : Nat} {before after : Trace ρ}

/-- The record is about a text with fewer characters than the bound. -/
structure Located (bound : Nat) (t : Trace ρ) : Prop where
  left_lt : t.left < bound
  /-- Nothing is expected only at the beginning of the longest such text. -/
  untouched : t.expected = [] → t.left + 1 = bound

theorem located_start (s : List Char) : (start s : Trace ρ).Located (s.length + 1) where
  left_lt := Nat.lt_succ_self s.length
  untouched _ := rfl

/-- A rule that fails is noted, or what it stands for is noted already, or something farther on is. -/
theorem fail_cases (name : ρ) (left : Nat) (before after : Trace ρ) :
    (∃ expected, name ∈ expected ∧ fail name left before after = ⟨left, expected⟩) ∨
      (fail name left before after = after ∧
        (after.notedAt left = before.notedAt left + 1 ∨ after.left < left)) := by
  simp only [fail]
  by_cases newly : after.notedAt left = before.notedAt left + 1
  · exact .inr ⟨if_pos newly, .inl newly⟩
  · rw [if_neg newly]
    rcases Nat.lt_trichotomy left after.left with nearer | same | farther
    · rw [if_neg (Nat.ne_of_lt nearer), if_pos nearer]
      exact .inl ⟨[name], List.mem_cons_self, rfl⟩
    · rw [if_pos same]
      exact .inl ⟨_, List.mem_append_right _ List.mem_cons_self, rfl⟩
    · rw [if_neg (Nat.ne_of_gt farther), if_neg (Nat.lt_asymm farther)]
      exact .inr ⟨rfl, .inr farther⟩

theorem Located.fail (located : after.Located bound) (name : ρ) (short : left < bound) :
    (fail name left before after).Located bound := by
  rcases fail_cases name left before after with ⟨expected, member, same⟩ | ⟨same, -⟩
  · rw [same]
    exact ⟨short, fun nothing => absurd nothing (List.ne_nil_of_mem member)⟩
  · rwa [same]

/-- The rule that the whole text is read with fails at its beginning, and then something is expected. -/
theorem Located.expected_of_fail (located : after.Located (left + 1)) (name : ρ) :
    (Trace.fail name left before after).expected ≠ [] := by
  rcases fail_cases name left before after with ⟨expected, member, same⟩ | ⟨same, noted⟩
  · rw [same]
    exact List.ne_nil_of_mem member
  · intro nothing
    rw [same] at nothing
    have begins : after.left = left := Nat.succ.inj (located.untouched nothing)
    rcases noted with newly | farther
    · rw [notedAt, if_pos begins.symm, nothing] at newly
      cases newly
    · exact Nat.lt_irrefl left (begins ▸ farther)

end Trace

namespace Parser

/-- On texts with fewer characters than the bound the record of failures stays one about such texts. -/
structure Tracks (bound : Nat) (p : Parser ρ α) : Prop where
  keeps : ∀ s t, s.length < bound → Trace.Located bound t → (p.trace s t).Located bound
  yields : Yields bound p fun _ => True

namespace Tracks

variable {bound : Nat} {p : Parser ρ α} {ps : List (Parser ρ α)}

/-- Text that is no rule of its own notes nothing. -/
theorem scan {f : List Char → Option (α × List Char)}
    (yields : Yields bound (scan f : Parser ρ α) fun _ => True) : Tracks bound (scan f : Parser ρ α) where
  keeps _ _ _ located := located
  yields := yields

theorem pure (a : α) : Tracks bound (pure a : Parser ρ α) := .scan (.pure trivial)

theorem firstOf_nil : Tracks bound (firstOf ([] : List (Parser ρ α))) := .scan .firstOf_nil

theorem bind {f : α → Parser ρ β} (first : Tracks bound p) (next : ∀ a, Tracks bound (f a)) :
    Tracks bound (p >>= f) where
  keeps s t short located := by
    have between := first.keeps s t short located
    rw [trace_bind]
    cases taken : p.read s with
    | none => exact between
    | some answer =>
        have left := (first.yields s answer.1 answer.2 short taken).2
        exact (next answer.1).keeps answer.2 _ left between
  yields := .bind first.yields fun a _ => (next a).yields

theorem rule (name : ρ) (h : Tracks bound p) : Tracks bound (rule name p) where
  keeps s t short located := by
    have inside := h.keeps s t short located
    rw [trace_rule]
    cases p.read s with
    | none => exact inside.fail name short
    | some answer => exact inside
  yields := .rule name h.yields

theorem orElse {q : Parser ρ α} (first : Tracks bound p) (later : Tracks bound q) :
    Tracks bound (p.orElse q) where
  keeps s t short located := by
    have between := first.keeps s t short located
    rw [trace_orElse]
    cases p.read s with
    | none => exact later.keeps s _ short between
    | some answer => exact between
  yields s a rest short success := by
    rw [read_orElse, Option.or_eq_some_iff] at success
    rcases success with taken | ⟨-, taken⟩
    · exact first.yields s a rest short taken
    · exact later.yields s a rest short taken

theorem firstOf_cons (first : Tracks bound p) (later : Tracks bound (firstOf ps)) :
    Tracks bound (firstOf (p :: ps)) :=
  first.orElse later

theorem optional (h : Tracks bound p) : Tracks bound (optional p) :=
  .orElse (.bind h fun a => .pure (some a)) (.pure none)

theorem many (step : Tracks bound p) : Tracks bound (many p) where
  keeps := by
    suffices ∀ steps s t, s.length < bound → Trace.Located bound t →
        (p.traceRepeated steps s t).Located bound from fun s => this ('\n' :: s) s
    intro steps
    induction steps with
    | nil => exact fun _ _ _ located => located
    | cons c steps ih =>
        intro s t short located
        have between := step.keeps s t short located
        rw [traceRepeated]
        cases taken : p.read s with
        | none => exact between
        | some answer =>
            have left := (step.yields s answer.1 answer.2 short taken).2
            exact ih answer.2 _ left between
  yields := (Yields.many step.yields).mono fun _ _ => trivial

end Tracks

end Parser

end IssueFilter
