/-! Decimal fractions and double-precision numbers. A decimal stands for the nearest double, and a
double is written with the fewest digits that stand for it, the nearest to it of these. -/
namespace IssueFilter

structure Decimal where
  mantissa : Nat
  power : Int
  deriving DecidableEq, Repr

namespace Decimal

/-- The number of digits of the mantissa that stand before the point, negative if zeros have to be
put in front of them. -/
def magnitude (d : Decimal) : Int := (Nat.toDigits 10 d.mantissa).length + d.power

/-- Half a step beyond the largest double. From here on the nearest double is infinity. -/
def overflow : Nat := Nat.pow 2 1024 - Nat.pow 2 970

/-- The nearest double of a natural number below that limit: 53 binary digits are kept, and a tie
goes to the even neighbour. -/
def toDouble (n : Nat) : Nat :=
  let unit := Nat.pow 2 (n.log2 - 52)
  let floor := n / unit
  let rest := 2 * (n % unit)
  if rest > unit || (rest = unit && floor % 2 = 1) then (floor + 1) * unit else floor * unit

def isTooLarge (d : Decimal) : Bool :=
  if d.mantissa = 0 || d.magnitude < 300 then false
  else if d.magnitude > 320 then true
  else
    let scale := Nat.pow 10 d.power.natAbs
    if d.power < 0 then d.mantissa ≥ overflow * scale else d.mantissa * scale ≥ overflow

/-- The nearest double of a decimal that is not too large. -/
def toFloat (d : Decimal) : Float :=
  if d.mantissa = 0 || d.magnitude < -400 then 0
  else Float.ofScientific d.mantissa (d.power < 0) d.power.natAbs

/-- A positive double `m * 2 ^ q` with the bounds of the decimals that stand for it, all three in
quarters of its last place: `low`, `value` and `high` times `2 ^ exponent`. The bounds themselves
belong to it if its mantissa is even. -/
structure Rounding where
  low : Nat
  value : Nat
  high : Nat
  exponent : Int
  closed : Bool

def Rounding.ofBits (bits : Nat) : Rounding :=
  let fraction := bits % 0x10000000000000
  let field := bits / 0x10000000000000 % 0x800
  let mantissa := if field = 0 then fraction else 0x10000000000000 + fraction
  let scale : Nat := if field = 0 then 1 else field
  let exponent : Int := (scale : Int) - 1075
  let below := if fraction = 0 && field > 1 then 1 else 2
  ⟨4 * mantissa - below, 4 * mantissa, 4 * mantissa + 2, exponent - 2, mantissa % 2 = 0⟩

/-- The decimals `c * 10 ^ power` next to the value on both sides, as numerators over a common
denominator with the value and its bounds. -/
def Rounding.onGrid? (r : Rounding) (power : Int) : Option Nat :=
  let scale := Nat.pow 2 r.exponent.toNat * Nat.pow 10 (-power).toNat
  let unit := Nat.pow 2 (-r.exponent).toNat * Nat.pow 10 power.toNat
  let value := r.value * scale
  let fits (c : Nat) : Bool :=
    if r.closed then r.low * scale ≤ c * unit && c * unit ≤ r.high * scale
    else r.low * scale < c * unit && c * unit < r.high * scale
  let floor := value / unit
  let ceiling := floor + 1
  match fits floor, fits ceiling with
  | true, true => if value - floor * unit < ceiling * unit - value then some floor else some ceiling
  | true, false => some floor
  | false, true => some ceiling
  | false, false => none

/-- The coarsest grid with a decimal that stands for the value, at most `n` steps finer than the
given one. Seventeen digits always suffice. -/
def Rounding.search (r : Rounding) (power : Int) : Nat → Decimal
  | 0 => ⟨0, 0⟩
  | n + 1 =>
    match r.onGrid? power with
    | some c => ⟨c, power⟩
    | none => r.search (power - 1) n

def ofBits (bits : Nat) : Decimal :=
  let r := Rounding.ofBits bits
  r.search 309 (309 + 350)

/-- Digits with a point and without a power of ten. -/
def positional (d : Decimal) : List Char :=
  let digits := Nat.toDigits 10 d.mantissa
  if d.power ≥ 0 then digits ++ List.replicate d.power.toNat '0'
  else
    let places := d.power.natAbs
    let padded := digits.leftpad (places + 1) '0'
    padded.take (padded.length - places) ++ '.' :: padded.drop (padded.length - places)

/-- The text of a double: positional, without a point if it is whole. -/
def floatText (x : Float) : String :=
  let bits := x.toBits.toNat
  let sign := if bits ≥ 0x8000000000000000 then "-" else ""
  let size := bits % 0x8000000000000000
  if x.isNaN then "NaN"
  else if x.isInf then sign ++ "inf"
  else if size = 0 then sign ++ "0"
  else sign ++ String.ofList (ofBits size).positional

end Decimal

end IssueFilter
