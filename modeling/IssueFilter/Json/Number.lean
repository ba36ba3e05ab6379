import IssueFilter.Decimal
import IssueFilter.Text.Numeral

/-! JSON numbers. Whether one is too large for a double is judged from its leading digits, as many
as fit into 64 bits. They are rounded to a double before they are multiplied by a power of ten, so
close to the limit the answer may differ from that for the exact value. -/
namespace IssueFilter

/-- A number as it is written: digits, digits after a point, and a power of ten with its sign. -/
structure Json.Number where
  negative : Bool
  digits : List Char
  fraction : Option (List Char)
  exponent : Option (Bool × List Char)
  deriving Repr, DecidableEq

namespace Json.Number

/-- The natural number, if the text is digits alone and the number fits into 64 bits. -/
def natural? (n : Number) : Option UInt64 :=
  if n.negative || n.fraction.isSome || n.exponent.isSome then none
  else (Numeral.digits? n.digits).bind Numeral.fit?

/-- The written power of ten. -/
def power (n : Number) : Int :=
  match n.exponent with
  | none => 0
  | some (true, digits) => -(Nat.ofDigitChars 10 digits 0)
  | some (false, digits) => Nat.ofDigitChars 10 digits 0

/-- Appends digits to a number for as long as it fits into 64 bits, and gives those that are left
over. -/
def takeUp (n : Nat) : List Char → Nat × List Char
  | [] => (n, [])
  | c :: rest =>
    let longer := 10 * n + (c.toNat - '0'.toNat)
    if longer < UInt64.size then takeUp longer rest else (n, c :: rest)

/-- The leading digits as a decimal, the sign aside. Digits that are left over count as zeros. -/
def leading (n : Number) : Decimal :=
  let fraction := n.fraction.getD []
  let (whole, passed) := takeUp 0 n.digits
  let (mantissa, ignored) := takeUp whole fraction
  ⟨mantissa, n.power + passed.length - (fraction.length - ignored.length : Nat)⟩

/-- Whether the number is read as infinity. -/
def isTooLarge (n : Number) : Bool :=
  let d := n.leading
  d.mantissa ≠ 0 && d.power ≥ 0 && (d.power > 308 ||
    Decimal.toDouble d.mantissa * Decimal.toDouble (Nat.pow 10 d.power.toNat) ≥
      Decimal.overflow)

end Json.Number

end IssueFilter
