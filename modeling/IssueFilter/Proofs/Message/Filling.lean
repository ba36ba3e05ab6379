import IssueFilter.Message.Catalog

/-! Filling in a template that consists of plain pieces and placeholders. Each piece gives what it gives on
its own, since a plain piece never begins a placeholder and a placeholder is read whole; what an
argument brings in is not looked at. From this follow the texts of the built-in messages. -/
namespace IssueFilter

namespace Template

inductive Piece where
  | plain (text : List Char)
  | placeholder (digits : List Char)
  deriving DecidableEq, Repr

namespace Piece

/-- A plain piece has no opening brace, and a placeholder has a number. -/
def IsProper : Piece → Prop
  | plain text => '\x7b' ∉ text
  | placeholder digits => digits ≠ [] ∧ digits.all Char.isDigit = true

instance : DecidablePred IsProper
  | plain text => inferInstanceAs (Decidable ('\x7b' ∉ text))
  | placeholder digits =>
    inferInstanceAs (Decidable (digits ≠ [] ∧ digits.all Char.isDigit = true))

def chars : Piece → List Char
  | plain text => text
  | placeholder digits => '\x7b' :: (digits ++ ['\x7d'])

def filled (args : List String) : Piece → List Char
  | plain text => text
  | placeholder digits => expansion args digits

end Piece

variable (args : List String)

theorem fillFrom_plain {text : List Char} (plain : '\x7b' ∉ text) (rest : List Char) :
    fillFrom args none (text ++ rest) = text ++ fillFrom args none rest := by
  induction text with
  | nil => rfl
  | cons c text ih =>
      rw [List.mem_cons, not_or] at plain
      rw [List.cons_append, fillFrom, if_neg (Ne.symm plain.1), ih plain.2, List.cons_append]

/-- Digits are gathered until something else comes. -/
theorem fillFrom_digits {digits : List Char} (all : ∀ c ∈ digits, c.isDigit = true)
    (before rest : List Char) : fillFrom args (some before) (digits ++ rest) =
      fillFrom args (some (digits.reverse ++ before)) rest := by
  induction digits generalizing before with
  | nil => rfl
  | cons c digits ih =>
      rw [List.forall_mem_cons] at all
      rw [List.cons_append, fillFrom, if_pos all.1, ih all.2, List.reverse_cons, List.append_assoc,
        List.singleton_append]

theorem fillFrom_placeholder {digits : List Char} (some : digits ≠ [])
    (all : ∀ c ∈ digits, c.isDigit = true) (rest : List Char) :
    fillFrom args none ('\x7b' :: (digits ++ '\x7d' :: rest)) =
      expansion args digits ++ fillFrom args none rest := by
  have noDigit : ¬ '\x7d'.isDigit = true := by decide
  have pending : digits.reverse ≠ [] := List.reverse_ne_nil_iff.mpr some
  rw [fillFrom, if_pos rfl, fillFrom_digits args all, List.append_nil, fillFrom, if_neg noDigit,
    if_pos ⟨rfl, pending⟩, List.reverse_reverse]

theorem fillFrom_pieces {pieces : List Piece} (proper : ∀ piece ∈ pieces, piece.IsProper) :
    fillFrom args none (pieces.flatMap Piece.chars) = pieces.flatMap (Piece.filled args) := by
  induction pieces with
  | nil => rfl
  | cons piece pieces ih =>
      rw [List.forall_mem_cons] at proper
      rw [List.flatMap_cons, List.flatMap_cons, ← ih proper.2]
      cases piece with
      | plain text => exact fillFrom_plain args proper.1 _
      | placeholder digits =>
          rw [Piece.chars, List.cons_append, List.append_assoc, List.singleton_append]
          exact fillFrom_placeholder args proper.1.1 (List.all_eq_true.mp proper.1.2) _

theorem fill_pieces {template : String} {pieces : List Piece}
    (split : template.toList = pieces.flatMap Piece.chars)
    (proper : ∀ piece ∈ pieces, piece.IsProper) :
    fill template args = String.ofList (pieces.flatMap (Piece.filled args)) := by
  rw [fill, split, fillFrom_pieces args proper]

/-- What the arguments make of a piece. A placeholder gives way to the argument of its number; digits that
need more than 64 bits are the number of no argument. -/
def Piece.replaced (args : List String) : Piece → List Char
  | plain text => text
  | placeholder digits =>
    let n := Nat.ofDigitChars 10 digits 0
    if _ : n < args.length ∧ n < UInt64.size then args[n].toList else chars (placeholder digits)

theorem Piece.filled_eq_replaced {piece : Piece} (proper : piece.IsProper) :
    piece.filled args = piece.replaced args := by
  cases piece with
  | plain text => rfl
  | placeholder digits =>
      obtain ⟨nonempty, all⟩ := proper
      rw [filled, expansion, Numeral.unsigned?_of_digits nonempty (List.all_eq_true.mp all),
        Numeral.fit?, replaced]
      by_cases small : Nat.ofDigitChars 10 digits 0 < UInt64.size
      · rw [if_pos small, Option.bind_some, UInt64.toNat_ofNat_of_lt' small]
        by_cases among : Nat.ofDigitChars 10 digits 0 < args.length
        · rw [List.getElem?_eq_getElem among, dif_pos ⟨among, small⟩]
        · rw [List.getElem?_eq_none (Nat.le_of_not_lt among), dif_neg fun both => among both.1]
          rfl
      · rw [if_neg small, Option.bind_none, dif_neg fun both => small both.2]
        rfl

/-- A template is filled in piece by piece. Plain pieces stay, placeholders with an argument give way to it,
and other placeholders stay as they are written; nothing is done to what the arguments bring in. -/
theorem fill_replaces {pieces : List Piece} (proper : ∀ piece ∈ pieces, piece.IsProper) :
    fill (String.ofList (pieces.flatMap Piece.chars)) args =
      String.ofList (pieces.flatMap (Piece.replaced args)) := by
  have same : pieces.flatMap (Piece.filled args) = pieces.flatMap (Piece.replaced args) := by
    rw [List.flatMap, List.flatMap]
    congr 1
    apply List.map_congr_left
    intro piece member
    exact Piece.filled_eq_replaced args (proper piece member)
  rw [fill_pieces args String.toList_ofList proper, same]

/-- A placeholder that comes twice, one with leading zeros, one without an argument and one beyond 64 bits,
with arguments that look like placeholders themselves. -/
theorem fill_replaces_lookalikes :
    let pieces : List Piece := [.placeholder ['1'], .plain " \x7dx".toList, .placeholder ['0', '0'],
      .placeholder ['7'], .placeholder "18446744073709551616".toList, .placeholder ['1']]
    let args := ["\x7b1\x7d", "\x7b0\x7d\x7b"]
    (∀ piece ∈ pieces, piece.IsProper) ∧
      fill "\x7b1\x7d \x7dx\x7b00\x7d\x7b7\x7d\x7b18446744073709551616\x7d\x7b1\x7d" args =
        "\x7b0\x7d\x7b \x7dx\x7b1\x7d\x7b7\x7d\x7b18446744073709551616\x7d\x7b0\x7d\x7b" := by
  intro pieces args
  have proper : ∀ piece ∈ pieces, piece.IsProper := by decide
  have written : "\x7b1\x7d \x7dx\x7b00\x7d\x7b7\x7d\x7b18446744073709551616\x7d\x7b1\x7d" =
      String.ofList (pieces.flatMap Piece.chars) := by decide +kernel
  have filled : String.ofList (pieces.flatMap (Piece.replaced args)) =
      "\x7b0\x7d\x7b \x7dx\x7b1\x7d\x7b7\x7d\x7b18446744073709551616\x7d\x7b0\x7d\x7b" := by
    decide +kernel
  refine ⟨proper, ?_⟩
  rw [written, fill_replaces args proper, filled]

end Template

namespace Catalog

/-- What the catalog says for the message is the built-in text, filled with the arguments. -/
def Keeps (catalog : Catalog) (message : Message) : Prop :=
  ∀ args, catalog.message message args = Template.fill message.template args

variable {catalog : Catalog}

end Catalog

end IssueFilter
