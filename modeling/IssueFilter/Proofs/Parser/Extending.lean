import IssueFilter.Proofs.Parser.Reading

/-! Reading in front of more text. A reader that is blind to a text reads the same whether the text
follows or not, and fails in the same places. A reader that is not can still keep what it has read,
if what was left over is as it has to be. A choice keeps what a later part has read if the parts
before it fail in front of the longer text too, and a repetition if it does not go on there. -/
namespace IssueFilter.Parser

variable {ρ α β : Type} {tail : List Char}

/-- What is read off the text does not depend on whether the tail follows. -/
def BlindAt (tail s : List Char) (f : List Char → Option (α × List Char)) : Prop :=
  f (s ++ tail) = (f s).map fun answer => (answer.1, answer.2 ++ tail)

def Blind (tail : List Char) (f : List Char → Option (α × List Char)) : Prop :=
  ∀ s, f (s ++ tail) = (f s).map fun answer => (answer.1, answer.2 ++ tail)

/-- What is read off a text is read off it in front of the tail, if what is left over is as given.
-/
def Keeps (tail : List Char) (Q : List Char → Prop) (f : List Char → Option (α × List Char)) : Prop :=
  ∀ s a rest, f s = some (a, rest) → Q rest → f (s ++ tail) = some (a, rest ++ tail)

namespace BlindAt

variable {f : List Char → Option (α × List Char)} {p : Parser ρ α} {ps : List (Parser ρ α)}
  {s rest : List Char} {a : α}

theorem reads (h : BlindAt tail s f) (success : f s = some (a, rest)) :
    f (s ++ tail) = some (a, rest ++ tail) := by
  rw [h, success]
  rfl

theorem fails (h : BlindAt tail s f) (failure : f s = none) : f (s ++ tail) = none := by
  rw [h, failure]
  rfl

theorem of_fails (failure : f s = none) (again : f (s ++ tail) = none) : BlindAt tail s f := by
  rw [BlindAt, failure, again]
  rfl

theorem of_reads (success : f s = some (a, rest)) (again : f (s ++ tail) = some (a, rest ++ tail)) :
    BlindAt tail s f := by
  rw [BlindAt, success, again]
  rfl

theorem bind {f : α → Parser ρ β} (first : BlindAt tail s p.read)
    (next : ∀ a rest, p.read s = some (a, rest) → BlindAt tail rest (f a).read) :
    BlindAt tail s (p >>= f).read := by
  rw [BlindAt, read_bind, read_bind, first]
  cases taken : p.read s with
  | none => rfl
  | some answer => exact next answer.1 answer.2 taken

theorem firstOf_cons (first : BlindAt tail s p.read) (later : BlindAt tail s (firstOf ps).read) :
    BlindAt tail s (firstOf (p :: ps)).read := by
  rw [BlindAt, read_firstOf_cons, read_firstOf_cons, first, later]
  cases p.read s with
  | none => rfl
  | some answer => rfl

theorem optional (h : BlindAt tail s p.read) : BlindAt tail s (optional p).read := by
  rw [BlindAt, read_optional, read_optional, h]
  cases p.read s with
  | none => rfl
  | some answer => rfl

/-- The texts between the rounds of a repetition are among those where a round is blind. -/
theorem many {S : List Char → Prop}
    (takes : ∀ s a rest, p.read s = some (a, rest) → rest.length < s.length)
    (step : ∀ s, S s → BlindAt tail s p.read)
    (stays : ∀ s a rest, S s → p.read s = some (a, rest) → S rest) (holds : S s) :
    BlindAt tail s (many p).read ∧ ∀ items rest, (many p).read s = some (items, rest) → S rest := by
  suffices ∀ bound longer s, S s → s.length < bound.length → (s ++ tail).length < longer.length →
      p.repeated longer (s ++ tail) =
        ((p.repeated bound s).1, (p.repeated bound s).2 ++ tail) ∧ S (p.repeated bound s).2 by
    obtain ⟨same, ends⟩ := this ('\n' :: s) ('\n' :: (s ++ tail)) s holds (Nat.lt_succ_self _)
      (Nat.lt_succ_self _)
    refine ⟨congrArg some same, fun items rest success => ?_⟩
    rwa [Option.some.inj success] at ends
  intro bound
  induction bound with
  | nil => exact fun _ s _ short => absurd short (Nat.not_lt_zero _)
  | cons _ bound ih =>
      intro longer s holds short long
      cases longer with
      | nil => cases long
      | cons _ longer =>
          rw [repeated, repeated, step s holds]
          cases taken : p.read s with
          | none => exact ⟨rfl, holds⟩
          | some answer =>
              have shorter := takes s answer.1 answer.2 taken
              simp only [List.length_append, List.length_cons] at short long
              obtain ⟨same, ends⟩ := ih longer answer.2 (stays s answer.1 answer.2 holds taken)
                (by omega) (by rw [List.length_append]; omega)
              simp only [Option.map_some, same]
              exact ⟨trivial, ends⟩

end BlindAt

namespace Blind

variable {f : List Char → Option (α × List Char)} {p : Parser ρ α} {ps : List (Parser ρ α)}
  {s : List Char}

theorem fails (h : Blind tail f) (failure : f s = none) : f (s ++ tail) = none :=
  BlindAt.fails (h s) failure

theorem keeps {Q : List Char → Prop} (h : Blind tail f) : Keeps tail Q f :=
  fun s _ _ success _ => BlindAt.reads (h s) success

theorem pure (a : α) : Blind tail (pure a : Parser ρ α).read := fun _ => rfl

theorem bind {f : α → Parser ρ β} (first : Blind tail p.read) (next : ∀ a, Blind tail (f a).read) :
    Blind tail (p >>= f).read :=
  fun s => BlindAt.bind (first s) fun a rest _ => next a rest

theorem firstOf_nil : Blind tail (firstOf ([] : List (Parser ρ α))).read := fun _ => rfl

theorem firstOf_cons (first : Blind tail p.read) (later : Blind tail (firstOf ps).read) :
    Blind tail (firstOf (p :: ps)).read :=
  fun s => BlindAt.firstOf_cons (first s) (later s)

end Blind

namespace Keeps

variable {Q R : List Char → Prop} {p : Parser ρ α} {ps : List (Parser ρ α)}

/-- The second part has to begin on a text as the first part needs it. -/
theorem bind {f : α → Parser ρ β} (first : Keeps tail R p.read)
    (next : ∀ a, Keeps tail Q (f a).read)
    (between : ∀ a s b rest, (f a).read s = some (b, rest) → Q rest → R s) :
    Keeps tail Q (p >>= f).read := by
  intro s b rest success holds
  rw [read_bind, Option.bind_eq_some_iff] at success
  obtain ⟨⟨a, middle⟩, taken, others⟩ := success
  rw [read_bind, first s a middle taken (between a middle b rest others holds)]
  exact next a middle b rest others holds

theorem after {f : α → Parser ρ β} (first : Blind tail p.read)
    (next : ∀ a, Keeps tail Q (f a).read) : Keeps tail Q (p >>= f).read :=
  bind (R := fun _ => True) first.keeps next fun _ _ _ _ _ _ => trivial

theorem map (h : Keeps tail Q p.read) (f : α → β) : Keeps tail Q (p >>= fun a => pure (f a)).read :=
  bind h (fun a => (Blind.pure (f a)).keeps) (by rintro _ s _ _ ⟨⟩ holds; exact holds)

theorem single (h : Keeps tail Q p.read) : Keeps tail Q (firstOf [p]).read := by
  intro s a rest success holds
  rw [read_firstOf_single] at success ⊢
  exact h s a rest success holds

theorem rule (name : ρ) (h : Keeps tail Q p.read) : Keeps tail Q (rule name p).read := h

theorem firstOf_cons (first : Keeps tail Q p.read) (later : Keeps tail Q (firstOf ps).read)
    (fails : ∀ s a rest, p.read s = none → (firstOf ps).read s = some (a, rest) → Q rest →
      p.read (s ++ tail) = none) : Keeps tail Q (firstOf (p :: ps)).read := by
  intro s a rest success holds
  rw [read_firstOf_cons, Option.or_eq_some_iff] at success
  rw [read_firstOf_cons]
  rcases success with taken | ⟨failure, taken⟩
  · rw [first s a rest taken holds, Option.some_or]
  · rw [fails s a rest failure taken holds, Option.none_or, later s a rest taken holds]

theorem optional (present : Keeps tail Q p.read)
    (absent : ∀ s, p.read s = none → Q s → p.read (s ++ tail) = none) :
    Keeps tail Q (optional p).read := by
  intro s a rest success holds
  rw [read_optional, Option.or_eq_some_iff, Option.map_eq_some_iff] at success
  rcases success with ⟨answer, taken, same⟩ | ⟨failure, same⟩
  · cases same
    exact read_optional_of_some (present s answer.1 answer.2 taken holds)
  · cases same
    exact read_optional_of_none (absent s (Option.map_eq_none_iff.mp failure) holds)

/-- Where a repetition is made, it goes on or ends. -/
theorem many_begins {s rest : List Char} {items : List α}
    (goesOn : ∀ s a rest, p.read s = some (a, rest) → R s) (ends : ∀ s, Q s → R s)
    (success : (Parser.many p).read s = some (items, rest)) (holds : Q rest) : R s := by
  cases taken : p.read s with
  | some answer => exact goesOn s answer.1 answer.2 taken
  | none =>
      have stopped : p.repeated ('\n' :: s) s = ([], s) := by rw [repeated, taken]
      cases stopped.symm.trans (Option.some.inj success)
      exact ends s holds

/-- Whether the last round of the repetition fails or is not made any more does not matter: in front
of the tail it fails. -/
theorem many (step : Keeps tail R p.read) (goesOn : ∀ s a rest, p.read s = some (a, rest) → R s)
    (ends : ∀ s, Q s → R s) (stops : ∀ s, Q s → p.read (s ++ tail) = none) :
    Keeps tail Q (many p).read := by
  have stuck : ∀ s, Q s → ∀ bound, p.repeated bound (s ++ tail) = ([], s ++ tail) := by
    intro s holds bound
    cases bound with
    | nil => rfl
    | cons _ bound => rw [repeated, stops s holds]
  suffices ∀ bound longer s items rest, bound.length ≤ longer.length →
      p.repeated bound s = (items, rest) → Q rest →
        p.repeated longer (s ++ tail) = (items, rest ++ tail) ∧ R s by
    intro s items rest success holds
    have long : ('\n' :: s).length ≤ ('\n' :: (s ++ tail)).length := by
      simp only [List.length_cons, List.length_append]
      omega
    exact congrArg some (this _ _ s items rest long (Option.some.inj success) holds).1
  intro bound
  induction bound with
  | nil =>
      intro longer s items rest _ success holds
      cases success
      exact ⟨stuck s holds longer, ends s holds⟩
  | cons c bound ih =>
      intro longer s items rest long success holds
      rw [repeated] at success
      cases taken : p.read s with
      | none =>
          rw [taken] at success
          cases success
          exact ⟨stuck s holds longer, ends s holds⟩
      | some answer =>
          rw [taken] at success
          cases success
          cases longer with
          | nil => cases long
          | cons d longer =>
              obtain ⟨others, between⟩ :=
                ih longer answer.2 _ _ (Nat.le_of_succ_le_succ long) rfl holds
              refine ⟨?_, goesOn s answer.1 answer.2 taken⟩
              rw [repeated, step s answer.1 answer.2 taken between]
              simp only [others]

end Keeps

end IssueFilter.Parser
