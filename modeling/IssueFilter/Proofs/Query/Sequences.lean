import IssueFilter.Proofs.Parser.Reading
import IssueFilter.Proofs.Query.Words

/-! Reading sequences back: items in parentheses with commas between them, and parts of a chain with
a word between them. What an item needs of the text after it is a predicate of its own, which the
separator and the end of the sequence have to meet. -/
namespace IssueFilter.Grammar

open IssueFilter.Parser

/-- A parser reads a value back from its text, which begins with no blank, if what follows is as the
parser needs it. -/
structure ReadsBack {α : Type} (p : Parser Rule α) (Follows : List Char → Prop)
    (text : List Char) (a : α) : Prop where
  begins : ∀ rest, Token.skipGaps (text ++ rest) = text ++ rest
  reads : ∀ rest, Follows rest → p.read (text ++ rest) = some (a, rest)

section

variable {α : Type} {p : Parser Rule α} {ps : List (Parser Rule α)} {Follows : List Char → Prop}
  {text : List Char} {a : α}

theorem ReadsBack.rule (name : Rule) (h : ReadsBack p Follows text a) :
    ReadsBack (Parser.rule name p) Follows text a := ⟨h.begins, h.reads⟩

theorem ReadsBack.first (h : ReadsBack p Follows text a) :
    ReadsBack (firstOf (p :: ps)) Follows text a where
  begins := h.begins
  reads rest follows := by rw [read_firstOf_cons, h.reads rest follows, Option.some_or]

theorem ReadsBack.later (h : ReadsBack (firstOf ps) Follows text a)
    (fails : ∀ rest, Follows rest → p.read (text ++ rest) = none) :
    ReadsBack (firstOf (p :: ps)) Follows text a where
  begins := h.begins
  reads rest follows := by
    rw [read_firstOf_cons, fails rest follows, Option.none_or, h.reads rest follows]

end

/-- The text of a separator, which ends in a blank, and after which items can follow. -/
structure Separates (separator : Parser Rule Unit) (Follows : List Char → Prop)
    (text : List Char) : Prop where
  nonempty : text ≠ []
  reads : ∀ rest, separator.read (Token.skipGaps (text ++ rest)) = some ((), ' ' :: rest)
  follows : ∀ rest, Follows (text ++ rest)

theorem comma_separates {Follows : List Char → Prop} (follows : ∀ rest, Follows (',' :: rest)) :
    Separates (char ',') Follows ", ".toList where
  nonempty := by decide
  reads _ := rfl
  follows rest := follows (' ' :: rest)

theorem skipGaps_blank (s : List Char) : Token.skipGaps (' ' :: s) = Token.skipGaps s := rfl

theorem intercalate_cons (separator first : List Char) (others : List (List Char)) :
    separator.intercalate (first :: others) = first ++ others.flatMap (separator ++ ·) := by
  induction others generalizing first with
  | nil => simp
  | cons second others ih => simp [List.intercalate_cons_cons, ih]

theorem intercalate_append (separator : List Char) {xs ys : List (List Char)} (some : xs ≠ [])
    (others : ys ≠ []) : separator.intercalate (xs ++ ys) =
      separator.intercalate xs ++ (separator ++ separator.intercalate ys) := by
  obtain ⟨x, xs, rfl⟩ := List.exists_cons_of_ne_nil some
  obtain ⟨y, ys, rfl⟩ := List.exists_cons_of_ne_nil others
  rw [List.cons_append, intercalate_cons, intercalate_cons, intercalate_cons, List.flatMap_append,
    List.flatMap_cons]
  simp only [List.append_assoc]

section

variable {α β γ : Type} {item : Parser Rule α} {separator : Parser Rule Unit}
  {Follows : List Char → Prop} {text : List Char} {print : β → List Char} {value : β → α}

@[simp] theorem read_gap (s : List Char) : gap.read s = some ((), Token.skipGaps s) := rfl

theorem read_separated (separates : Separates separator Follows text) (first : β) (others : List β)
    (each : ∀ b ∈ first :: others, ReadsBack item Follows (print b) (value b)) {rest : List Char}
    (ends : Follows rest) (stops : separator.read (Token.skipGaps rest) = none)
    (f : List α → γ) :
    (do
      let first ← item
      let others ← many do gap; separator; gap; item
      return f (first :: others) : Parser Rule γ).read
        (text.intercalate ((first :: others).map print) ++ rest) =
      some (f ((first :: others).map value), rest) := by
  have next : ∀ b ∈ others, ∀ after, Follows after →
      (do gap; separator; gap; item : Parser Rule α).read ((text ++ print b) ++ after) =
        some (value b, after) := by
    intro b member after follows
    have readsBack := each b (List.mem_cons_of_mem first member)
    rw [List.append_assoc]
    simp only [read_bind, read_gap, Option.bind_some, separates.reads, skipGaps_blank,
      readsBack.begins, readsBack.reads after follows]
  have stuck : (do gap; separator; gap; item : Parser Rule α).read rest = none := by
    simp only [read_bind, read_gap, Option.bind_some, stops, Option.bind_none]
  have follows : ∀ b after, Follows ((text ++ print b) ++ after) := by
    intro b after
    rw [List.append_assoc]
    exact separates.follows (print b ++ after)
  have nonempty : ∀ b, text ++ print b ≠ [] := by
    intro b empty
    exact separates.nonempty (List.append_eq_nil_iff.mp empty).1
  have later := read_many ends stuck follows nonempty others next
  have afterFirst : Follows (others.flatMap (fun b => text ++ print b) ++ rest) := by
    cases others with
    | nil => exact ends
    | cons b others =>
        rw [List.flatMap_cons, List.append_assoc]
        exact follows b _
  have printed : text.intercalate ((first :: others).map print) =
      print first ++ others.flatMap (fun b => text ++ print b) := by
    rw [List.map_cons, intercalate_cons, List.flatMap_map]
  rw [printed, List.append_assoc]
  simp only [read_bind, (each first List.mem_cons_self).reads _ afterFirst, Option.bind_some, later,
    read_pure, List.map_cons]

theorem read_commaSeparated (follows : ∀ rest, Follows (',' :: rest)) (first : β)
    (others : List β)
    (each : ∀ b ∈ first :: others, ReadsBack item Follows (print b) (value b))
    {rest : List Char} (ends : Follows rest)
    (stops : (char ',' : Parser Rule Unit).read (Token.skipGaps rest) = none) :
    (commaSeparated item).read
        (", ".toList.intercalate ((first :: others).map print) ++ rest) =
      some ((first :: others).map value, rest) :=
  read_separated (comma_separates follows) first others each ends stops id

theorem read_parenthesised (follows : ∀ rest, Follows (',' :: rest)) (items : List β)
    (each : ∀ b ∈ items, ReadsBack item Follows (print b) (value b))
    (closes : ∀ rest, Follows (')' :: rest)) (stuck : ∀ rest, item.read (')' :: rest) = none)
    (rest : List Char) :
    (parenthesised item).read
        ('(' :: (", ".toList.intercalate (items.map print) ++ ')' :: rest)) =
      some (items.map value, rest) := by
  have closing : Token.skipGaps (')' :: rest) = ')' :: rest := rfl
  cases items with
  | nil =>
      have none : (optional (commaSeparated item)).read (')' :: rest) =
          some (Option.none, ')' :: rest) := by
        refine read_optional_of_none ?_
        simp only [commaSeparated, read_bind, stuck, Option.bind_none]
      simp only [parenthesised, read_bind, read_char_self, Option.bind_some, read_gap, List.map_nil,
        List.intercalate_nil, List.nil_append, closing, none, read_pure, Option.getD_none]
  | cons first others =>
      have begins : Token.skipGaps
          (", ".toList.intercalate ((first :: others).map print) ++ ')' :: rest) =
            ", ".toList.intercalate ((first :: others).map print) ++ ')' :: rest := by
        rw [List.map_cons, intercalate_cons, List.append_assoc]
        exact (each first List.mem_cons_self).begins _
      have separated := read_commaSeparated follows first others each (closes rest) rfl
      simp only [parenthesised, read_bind, read_char_self, Option.bind_some, read_gap, begins,
        read_optional_of_some separated, closing, read_pure, Option.getD_some]

end

end IssueFilter.Grammar
