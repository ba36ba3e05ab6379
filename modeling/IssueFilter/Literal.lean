import IssueFilter.Text.Numeral

/-! A single value of a filter: a 64-bit natural number or a text, written by a user or produced
by a function. -/
namespace IssueFilter

inductive Literal where
  | number (n : UInt64)
  | text (s : String)
  deriving DecidableEq, Repr, Inhabited

namespace Literal

/-- A text counts as a number when it is a numeral. -/
def asNumber? : Literal → Option UInt64
  | number n => some n
  | text s => Numeral.ofText? s

def asText : Literal → String
  | number n => Numeral.text n
  | text s => s

/-- Numbers come before texts, texts are ordered character by character. -/
instance : Ord Literal where
  compare
    | number a, number b => compare a b
    | number _, text _ => .lt
    | text _, number _ => .gt
    | text a, text b => compare a b

def sorted (literals : List Literal) : List Literal :=
  literals.mergeSort fun a b => (compare a b).isLE

end Literal

end IssueFilter
