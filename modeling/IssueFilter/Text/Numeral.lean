/-! Decimal numerals of 64-bit natural numbers. Reading accepts one leading plus sign and any
number of leading zeros; writing uses the fewest digits. -/
namespace IssueFilter.Numeral

/-- The value of a nonempty run of ASCII digits. -/
def digits? (s : List Char) : Option Nat :=
  if !s.isEmpty && s.all Char.isDigit then some (Nat.ofDigitChars 10 s 0) else none

/-- The number as a word, unless it needs more than 64 bits. -/
def fit? (n : Nat) : Option UInt64 := if n < UInt64.size then some (UInt64.ofNat n) else none

def unsigned? (s : List Char) : Option UInt64 :=
  match s with
  | '+' :: rest => (digits? rest).bind fit?
  | _ => (digits? s).bind fit?

/-- Reads a 64-bit natural number: an optional plus sign, then digits and nothing else. -/
def ofText? (s : String) : Option UInt64 := unsigned? s.toList

def chars (n : UInt64) : List Char := Nat.toDigits 10 n.toNat

def text (n : UInt64) : String := String.ofList (chars n)

theorem chars_ne_nil (n : UInt64) : chars n ≠ [] := Nat.toDigits_ne_nil

theorem isDigit_of_mem_chars {n : UInt64} {c : Char} (member : c ∈ chars n) : c.isDigit = true :=
  Nat.isDigit_of_mem_toDigits (by decide) (by decide) member

theorem fit?_toNat (n : UInt64) : fit? n.toNat = some n := by
  rw [fit?, if_pos n.toNat_lt, UInt64.ofNat_toNat]

/-- Digits alone are read as the number they stand for. -/
theorem unsigned?_of_digits {s : List Char} (nonempty : s ≠ [])
    (digits : ∀ c ∈ s, c.isDigit = true) : unsigned? s = fit? (Nat.ofDigitChars 10 s 0) := by
  have value : digits? s = some (Nat.ofDigitChars 10 s 0) := by
    have some : (!s.isEmpty) = true := by simp [nonempty]
    rw [digits?, some, List.all_eq_true.mpr digits, Bool.and_self, if_pos rfl]
  unfold unsigned?
  split
  · cases digits '+' List.mem_cons_self
  · rw [value, Option.bind_some]

/-- What is written is read back. -/
theorem unsigned?_chars (n : UInt64) : unsigned? (chars n) = some n := by
  have digits : ∀ c ∈ chars n, c.isDigit = true := fun _ => isDigit_of_mem_chars
  rw [unsigned?_of_digits (chars_ne_nil n) digits, chars,
    Nat.ofDigitChars_toDigits (by decide) (by decide), fit?_toNat]

end IssueFilter.Numeral
