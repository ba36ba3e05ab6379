import IssueFilter.Date
import IssueFilter.Decimal

/-! Values of the configuration language TOML, and the reading of its numbers, dates and times. Such
a scalar is a run of characters that is taken apart as a whole. -/
namespace IssueFilter

/-- A date or time is kept as its normal text. -/
inductive Toml where
  | string (s : String)
  | integer (n : Int)
  | float (x : Float)
  | boolean (b : Bool)
  | datetime (text : String)
  | array (items : List Toml)
  | table (entries : List (String × Toml))
  deriving Inhabited

namespace Toml

/-- Digits of some kind with single underscores between them, without the underscores. -/
def grouped (digit : Char → Bool) : List Char → Option (List Char)
  | [] => none
  | [c] => if digit c then some [c] else none
  | c :: '_' :: rest => if digit c then (grouped digit rest).map (c :: ·) else none
  | c :: rest => if digit c then (grouped digit rest).map (c :: ·) else none

def decimalDigits (s : List Char) : Option (List Char) := grouped Char.isDigit s

/-- Digits without a superfluous zero in front. -/
def plainDigits (s : List Char) : Option (List Char) := do
  let digits ← decimalDigits s
  if digits.length > 1 && digits.head? = some '0' then none else some digits

/-- The sign in front of a number: whether it is negative, and the rest. -/
def signed : List Char → Bool × List Char
  | '-' :: rest => (true, rest)
  | '+' :: rest => (false, rest)
  | s => (false, s)

def hexValue (c : Char) : Nat :=
  if c.isDigit then c.toNat - '0'.toNat else c.toLower.toNat - 'a'.toNat + 10

/-- Whether the character is a digit to the given base, at most sixteen. -/
def isDigitOf (base : Nat) (c : Char) : Bool :=
  (c.isDigit || ('a' ≤ c.toLower && c.toLower ≤ 'f')) && hexValue c < base

def ofBase (base : Nat) (s : List Char) : Option Int := do
  let digits ← grouped (isDigitOf base) s
  some (digits.foldl (fun n c => n * base + hexValue c) 0 : Nat)

/-- Integers have 64 bits, sign included. -/
def integer? (s : List Char) : Option Int := do
  let n ← match s with
    | '0' :: 'x' :: rest => ofBase 16 rest
    | '0' :: 'o' :: rest => ofBase 8 rest
    | '0' :: 'b' :: rest => ofBase 2 rest
    | s =>
      let (negative, rest) := signed s
      let digits ← plainDigits rest
      let size : Int := Nat.ofDigitChars 10 digits 0
      some (if negative then -size else size)
  if -0x8000000000000000 ≤ n && n < 0x8000000000000000 then some n else none

/-- The part before the first of some characters, and the part after it if there is one. -/
def cut (stop : Char → Bool) (s : List Char) : List Char × Option (List Char) :=
  (s.takeWhile (!stop ·), (s.dropWhile (!stop ·)).tail?)

def float? (s : List Char) : Option Float := do
  let (negative, rest) := signed s
  let size : Float ←
    if rest = "inf".toList then some (1 / 0)
    else if rest = "nan".toList then some (0 / 0)
    else do
      let (mantissa, exponent) := cut (fun c => c = 'e' || c = 'E') rest
      let (whole, fraction) := cut (· = '.') mantissa
      if exponent.isNone && fraction.isNone then failure
      let whole ← plainDigits whole
      let fraction ← match fraction with
        | none => some []
        | some digits => decimalDigits digits
      let power : Int ← match exponent with
        | none => some 0
        | some s => do
          let (negative, digits) := signed s
          let size : Int := Nat.ofDigitChars 10 (← decimalDigits digits) 0
          some (if negative then -size else size)
      let d : Decimal := ⟨Nat.ofDigitChars 10 (whole ++ fraction) 0, power - fraction.length⟩
      if d.isTooLarge then none else some d.toFloat
  some (if negative then -size else size)

def fixed (width : Nat) (s : List Char) : Option Nat :=
  if s.length = width && s.all Char.isDigit then some (Nat.ofDigitChars 10 s 0) else none

def date? (s : List Char) : Option (List Char) :=
  match s with
  | [a, b, c, d, '-', e, f, '-', g, h] => do
    let year ← fixed 4 [a, b, c, d]
    let month ← fixed 2 [e, f]
    let day ← fixed 2 [g, h]
    if Calendar.hasDay year month day then some s else none
  | _ => none

def clock? (s : List Char) : Option (List Char) :=
  match s with
  | [a, b, ':', c, d] => do
    let hour ← fixed 2 [a, b]
    let minute ← fixed 2 [c, d]
    if hour ≤ 23 && minute ≤ 59 then some s else none
  | _ => none

/-- A time of the day, with or without seconds. Of the fraction of a second nine digits count, and
zeros at its end are left out, though one digit stays. -/
def time? (s : List Char) : Option (List Char) := do
  let clock ← clock? (s.take 5)
  match s.drop 5 with
  | [] => some clock
  | ':' :: a :: b :: rest =>
    let second ← fixed 2 [a, b]
    if second > 60 then none
    match rest with
    | [] => some (clock ++ [':', a, b])
    | '.' :: digits =>
      if digits.isEmpty || !digits.all Char.isDigit then none
      let kept := ((digits.take 9).reverse.dropWhile (· = '0')).reverse
      some (clock ++ [':', a, b] ++ '.' :: (if kept.isEmpty then ['0'] else kept))
    | _ => none
  | _ => none

/-- A time with or without its distance from universal time. -/
def zonedTime? (s : List Char) : Option (List Char) :=
  match s.getLast? with
  | some 'Z' | some 'z' => (time? s.dropLast).map (· ++ ['Z'])
  | _ =>
    let (clock, offset) := (s.take (s.length - 6), s.drop (s.length - 6))
    match offset with
    | '+' :: distance => do some ((← time? clock) ++ '+' :: (← clock? distance))
    | '-' :: distance => do
      let distance ← clock? distance
      some ((← time? clock) ++ (if distance = "00:00".toList then '+' else '-') :: distance)
    | _ => time? s

def datetime? (s : List Char) : Option String :=
  if s.length ≤ 10 && (s.drop 4).head? = some '-' then (date? s).map String.ofList
  else
    match s.drop 10 with
    | c :: rest =>
      if c = 'T' || c = 't' || c = ' ' then do
        some (String.ofList ((← date? (s.take 10)) ++ 'T' :: (← zonedTime? rest)))
      else (time? s).map String.ofList
    | [] => (time? s).map String.ofList

def scalar? (s : List Char) : Option Toml :=
  if s = "true".toList then some (.boolean true)
  else if s = "false".toList then some (.boolean false)
  else
    match integer? s with
    | some n => some (.integer n)
    | none =>
      match float? s with
      | some x => some (.float x)
      | none => (datetime? s).map .datetime

end Toml

end IssueFilter
