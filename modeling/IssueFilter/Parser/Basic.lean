/-! Parsers with ordered choice. A parser has two parts: what it reads, which depends on the text
alone, and which failures it records on the way. A choice that has succeeded is never taken back,
and a failed part consumes nothing. To run a parser is to do both in one pass over the text.

While a text is read, many rules fail and others are tried in their place; what is worth reporting
is the farthest place at which some rule failed, and which rules were expected there. -/
namespace IssueFilter

/-- The farthest failure so far. The place is given by the number of characters left. -/
structure Trace (ρ : Type) where
  left : Nat
  expected : List ρ
  deriving Repr, DecidableEq

namespace Trace

variable {ρ : Type}

def start (s : List Char) : Trace ρ := ⟨s.length, []⟩

def notedAt (t : Trace ρ) (left : Nat) : Nat := if left = t.left then t.expected.length else 0

/-- Notes that a rule failed which had been entered with `left` characters to go. `before` is the
record on entry, `after` the record when the rule gave up. A rule that stands for exactly one
newly noted rule adds nothing; otherwise it takes the place of the rules noted since its entry,
unless they were noted farther on. -/
def fail (rule : ρ) (left : Nat) (before after : Trace ρ) : Trace ρ :=
  let known := before.notedAt left
  if after.notedAt left = known + 1 then after
  else if left = after.left then ⟨left, after.expected.take known ++ [rule]⟩
  else if left < after.left then ⟨left, [rule]⟩
  else after

end Trace

structure Parser (ρ α : Type) where
  /-- The value and the text after it, or nothing. -/
  read : List Char → Option (α × List Char)
  /-- The record of failures after an attempt to read, whether it succeeds or not. -/
  trace : List Char → Trace ρ → Trace ρ
  run : List Char → Trace ρ → Option (α × List Char) × Trace ρ
  run_eq : ∀ s t, run s t = (read s, trace s t)

namespace Parser

variable {ρ α β : Type}

/-- Text that is matched without being a rule of its own. -/
def scan (f : List Char → Option (α × List Char)) : Parser ρ α where
  read := f
  trace _ t := t
  run s t := (f s, t)
  run_eq _ _ := rfl

def succeed (a : α) : Parser ρ α := scan fun s => some (a, s)

def fail : Parser ρ α := scan fun _ => none

def andThen (p : Parser ρ α) (f : α → Parser ρ β) : Parser ρ β where
  read s := (p.read s).bind fun (a, rest) => (f a).read rest
  trace s t :=
    match p.read s with
    | none => p.trace s t
    | some (a, rest) => (f a).trace rest (p.trace s t)
  run s t :=
    match p.run s t with
    | (none, t) => (none, t)
    | (some (a, rest), t) => (f a).run rest t
  run_eq s t := by
    rw [p.run_eq]
    cases p.read s with
    | none => rfl
    | some answer => exact (f answer.1).run_eq answer.2 (p.trace s t)

instance : Monad (Parser ρ) where
  pure := succeed
  bind := andThen

/-- The second parser is tried where the first one fails. -/
def orElse (p q : Parser ρ α) : Parser ρ α where
  read s :=
    match p.read s with
    | some answer => some answer
    | none => q.read s
  trace s t :=
    match p.read s with
    | some _ => p.trace s t
    | none => q.trace s (p.trace s t)
  run s t :=
    match p.run s t with
    | (some answer, t) => (some answer, t)
    | (none, t) => q.run s t
  run_eq s t := by
    rw [p.run_eq]
    cases p.read s with
    | none => exact q.run_eq s (p.trace s t)
    | some answer => rfl

def firstOf : List (Parser ρ α) → Parser ρ α
  | [] => fail
  | p :: ps => p.orElse (firstOf ps)

def optional (p : Parser ρ α) : Parser ρ (Option α) := (some <$> p).orElse (succeed none)

/-- The values read one after the other, at most as many as the bound is long, and the text after
the last. -/
def repeated (p : Parser ρ α) : (bound : List Char) → List Char → List α × List Char
  | [], s => ([], s)
  | _ :: bound, s =>
    match p.read s with
    | none => ([], s)
    | some (a, rest) =>
      let (as, after) := p.repeated bound rest
      (a :: as, after)

def traceRepeated (p : Parser ρ α) : (bound : List Char) → List Char → Trace ρ → Trace ρ
  | [], _, t => t
  | _ :: bound, s, t =>
    match p.read s with
    | none => p.trace s t
    | some (_, rest) => p.traceRepeated bound rest (p.trace s t)

def runRepeated (p : Parser ρ α) :
    (bound : List Char) → List Char → Trace ρ → (List α × List Char) × Trace ρ
  | [], s, t => (([], s), t)
  | _ :: bound, s, t =>
    match p.run s t with
    | (none, t) => (([], s), t)
    | (some (a, rest), t) =>
      let ((as, after), t) := p.runRepeated bound rest t
      ((a :: as, after), t)

theorem runRepeated_eq (p : Parser ρ α) (bound s : List Char) (t : Trace ρ) :
    p.runRepeated bound s t = (p.repeated bound s, p.traceRepeated bound s t) := by
  induction bound generalizing s t with
  | nil => rfl
  | cons _ bound ih =>
    rw [runRepeated, repeated, traceRepeated, p.run_eq]
    cases p.read s with
    | none => rfl
    | some answer => simp only [ih]

/-- Reads with the parser as often as it succeeds. The bound is longer than the text and never met:
a parser that consumes text cannot succeed more often than there are characters. -/
def many (p : Parser ρ α) : Parser ρ (List α) where
  read s := some (p.repeated ('\n' :: s) s)
  trace s t := p.traceRepeated ('\n' :: s) s t
  run s t :=
    let (answer, t) := p.runRepeated ('\n' :: s) s t
    (some answer, t)
  run_eq s t := by rw [runRepeated_eq]

def char (c : Char) : Parser ρ Unit :=
  scan fun
    | [] => none
    | d :: rest => if d = c then some ((), rest) else none

/-- A named rule: its failure is recorded. -/
def rule (name : ρ) (p : Parser ρ α) : Parser ρ α where
  read := p.read
  trace s t :=
    match p.read s with
    | some _ => p.trace s t
    | none => Trace.fail name s.length t (p.trace s t)
  run s t :=
    match p.run s t with
    | (some answer, after) => (some answer, after)
    | (none, after) => (none, Trace.fail name s.length t after)
  run_eq s t := by
    rw [p.run_eq]
    cases p.read s with
    | none => rfl
    | some answer => rfl

def token (name : ρ) (f : List Char → Option (α × List Char)) : Parser ρ α := rule name (scan f)

/-- Reads with the parser and keeps the text that it takes. -/
def spanned (p : Parser ρ α) : Parser ρ (List Char × α) where
  read s := (p.read s).map fun (a, rest) => ((s.take (s.length - rest.length), a), rest)
  trace := p.trace
  run s t :=
    let (answer, t) := p.run s t
    (answer.map fun (a, rest) => ((s.take (s.length - rest.length), a), rest), t)
  run_eq s t := by rw [p.run_eq]

end Parser

end IssueFilter
