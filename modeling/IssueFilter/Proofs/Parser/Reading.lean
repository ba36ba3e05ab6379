import IssueFilter.Query.Parser

/-! What the combinators read, and what they record. A choice reads what its first successful part reads, and a
repetition undoes the printing of a list one item after the other: each item is read back wherever
the next item or the rest follows, and the rest begins with no item. -/
namespace IssueFilter.Parser

variable {ρ α β : Type}

@[simp] theorem read_pure (a : α) (s : List Char) :
    (pure a : Parser ρ α).read s = some (a, s) := rfl

@[simp] theorem read_bind (p : Parser ρ α) (f : α → Parser ρ β) (s : List Char) :
    (p >>= f).read s = (p.read s).bind fun answer => (f answer.1).read answer.2 := rfl

@[simp] theorem read_rule (name : ρ) (p : Parser ρ α) (s : List Char) :
    (rule name p).read s = p.read s := rfl

@[simp] theorem read_token (name : ρ) (f : List Char → Option (α × List Char)) (s : List Char) :
    (token name f).read s = f s := rfl

theorem read_orElse (p q : Parser ρ α) (s : List Char) :
    (p.orElse q).read s = (p.read s).or (q.read s) := by
  simp only [orElse]
  cases p.read s <;> rfl

@[simp] theorem read_firstOf_cons (p : Parser ρ α) (ps : List (Parser ρ α)) (s : List Char) :
    (firstOf (p :: ps)).read s = (p.read s).or ((firstOf ps).read s) := read_orElse p (firstOf ps) s

theorem read_firstOf_single (p : Parser ρ α) (s : List Char) : (firstOf [p]).read s = p.read s := by
  have none : (firstOf [] : Parser ρ α).read s = none := rfl
  rw [read_firstOf_cons, none, Option.or_none]

@[simp] theorem read_char_self (c : Char) (s : List Char) :
    (char c : Parser ρ Unit).read (c :: s) = some ((), s) := if_pos rfl

theorem read_char_other {c d : Char} (other : d ≠ c) (s : List Char) :
    (char c : Parser ρ Unit).read (d :: s) = none := if_neg other

theorem trace_bind (p : Parser ρ α) (f : α → Parser ρ β) (s : List Char) (t : Trace ρ) :
    (p >>= f).trace s t = match p.read s with
      | none => p.trace s t
      | some (a, rest) => (f a).trace rest (p.trace s t) := rfl

theorem trace_rule (name : ρ) (p : Parser ρ α) (s : List Char) (t : Trace ρ) :
    (rule name p).trace s t = match p.read s with
      | some _ => p.trace s t
      | none => Trace.fail name s.length t (p.trace s t) := rfl

theorem trace_orElse (p q : Parser ρ α) (s : List Char) (t : Trace ρ) :
    (p.orElse q).trace s t = match p.read s with
      | some _ => p.trace s t
      | none => q.trace s (p.trace s t) := rfl

theorem read_optional (p : Parser ρ α) (s : List Char) :
    (optional p).read s =
      ((p.read s).map fun answer => (some answer.1, answer.2)).or (some (none, s)) := by
  rw [optional, read_orElse]
  change ((p.read s).bind _).or _ = _
  cases p.read s <;> rfl

theorem read_optional_of_some {p : Parser ρ α} {a : α} {s rest : List Char}
    (success : p.read s = some (a, rest)) : (optional p).read s = some (some a, rest) := by
  rw [read_optional, success]
  rfl

theorem read_optional_of_none {p : Parser ρ α} {s : List Char} (failure : p.read s = none) :
    (optional p).read s = some (none, s) := by
  rw [read_optional, failure]
  rfl

/-- The bound of a repetition is not met as long as it is longer than the text. -/
theorem repeated_flatMap {p : Parser ρ α} {print : β → List Char} {value : β → α}
    {Follows : List Char → Prop} {rest : List Char} (ends : Follows rest)
    (stops : p.read rest = none) (follows : ∀ b after, Follows (print b ++ after))
    (nonempty : ∀ b, print b ≠ []) (items : List β)
    (reads : ∀ b ∈ items, ∀ after, Follows after →
      p.read (print b ++ after) = some (value b, after))
    (bound : List Char) (long : (items.flatMap print ++ rest).length < bound.length) :
    p.repeated bound (items.flatMap print ++ rest) = (items.map value, rest) := by
  induction items generalizing bound with
  | nil =>
      cases bound with
      | nil => rfl
      | cons _ bound => simp [repeated, stops]
  | cons a items ih =>
      cases bound with
      | nil => simp at long
      | cons _ bound =>
          have progress : 0 < (print a).length := List.length_pos_iff.mpr (nonempty a)
          have others := ih (fun b member => reads b (List.mem_cons_of_mem a member)) bound (by
            simp only [List.flatMap_cons, List.length_append, List.length_cons] at long ⊢
            omega)
          have next : Follows (items.flatMap print ++ rest) := by
            cases items with
            | nil => exact ends
            | cons b items =>
                rw [List.flatMap_cons, List.append_assoc]
                exact follows b _
          have first := reads a List.mem_cons_self _ next
          rw [List.flatMap_cons, List.append_assoc, repeated, first]
          simp only [others, List.map_cons]

theorem read_many {p : Parser ρ α} {print : β → List Char} {value : β → α}
    {Follows : List Char → Prop} {rest : List Char} (ends : Follows rest)
    (stops : p.read rest = none) (follows : ∀ b after, Follows (print b ++ after))
    (nonempty : ∀ b, print b ≠ []) (items : List β)
    (reads : ∀ b ∈ items, ∀ after, Follows after →
      p.read (print b ++ after) = some (value b, after)) :
    (many p).read (items.flatMap print ++ rest) = some (items.map value, rest) :=
  congrArg some (repeated_flatMap ends stops follows nonempty items reads _ (Nat.lt_succ_self _))

end IssueFilter.Parser
