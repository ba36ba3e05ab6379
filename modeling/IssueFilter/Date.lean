/-! Calendar dates: the Gregorian calendar, carried on before its introduction, with a year zero.
Dates are written year, month, day with hyphens between them, and white space may stand in front of
a number. -/
namespace IssueFilter

/-- The code points with the Unicode property `White_Space`, as closed ranges. The filter language
itself skips only four of them, see `Query.Token`. -/
def blankRanges : List (Nat × Nat) :=
  [(0x09, 0x0D), (0x20, 0x20), (0x85, 0x85), (0xA0, 0xA0), (0x1680, 0x1680), (0x2000, 0x200A),
    (0x2028, 0x2029), (0x202F, 0x202F), (0x205F, 0x205F), (0x3000, 0x3000)]

def isBlank (c : Char) : Bool :=
  blankRanges.any fun (first, last) => first ≤ c.toNat && c.toNat ≤ last

def skipBlanks (s : List Char) : List Char := s.dropWhile isBlank

namespace Calendar

def isLeapYear (year : Int) : Bool := year % 4 = 0 && (year % 100 ≠ 0 || year % 400 = 0)

def daysIn (year : Int) (month : Nat) : Nat :=
  if month = 2 then if isLeapYear year then 29 else 28
  else if month = 4 || month = 6 || month = 9 || month = 11 then 30
  else 31

/-- Whether the calendar has the day. Years lie between -262143 and 262142. -/
def hasDay (year : Int) (month day : Nat) : Bool :=
  -262143 ≤ year && year ≤ 262142 && 1 ≤ month && month ≤ 12 && 1 ≤ day && day ≤ daysIn year month

end Calendar

structure Date where
  year : Int
  month : Nat
  day : Nat
  onCalendar : Calendar.hasDay year month day = true
  deriving DecidableEq, Repr

namespace Date

def ofParts? (year : Int) (month day : Nat) : Option Date :=
  if h : Calendar.hasDay year month day = true then some ⟨year, month, day, h⟩ else none

instance : Ord Date where
  compare a b := (compare a.year b.year).then ((compare a.month b.month).then (compare a.day b.day))

/-- At least one digit and at most `limit` of them, as a number. -/
def readDigits (limit : Nat) (s : List Char) : Option (Nat × List Char) :=
  let digits := (s.take limit).takeWhile Char.isDigit
  if digits = [] then none else some (Nat.ofDigitChars 10 digits 0, s.drop digits.length)

/-- Four digits at most without a sign, any number of digits after one. -/
def readYear (s : List Char) : Option (Int × List Char) :=
  match skipBlanks s with
  | '-' :: rest => (readDigits rest.length rest).map fun (n, after) => (-(n : Int), after)
  | '+' :: rest => (readDigits rest.length rest).map fun (n, after) => ((n : Int), after)
  | rest => (readDigits 4 rest).map fun (n, after) => ((n : Int), after)

def readPart (s : List Char) : Option (Nat × List Char) :=
  match s with
  | '-' :: rest => readDigits 2 (skipBlanks rest)
  | _ => none

/-- Reads a date. White space may stand before each number; `between` is what else is skipped after
one. -/
def readWith (between : List Char → List Char) (s : List Char) : Option Date := do
  let (year, s) ← readYear s
  let (month, s) ← readPart (between s)
  let (day, s) ← readPart (between s)
  if between s = [] then ofParts? year month day else none

def parse? (text : String) : Option Date := readWith id text.toList

/-- A date as it is written in data: white space may also stand before a hyphen and at the end. -/
def parseLoosely? (text : String) : Option Date := readWith skipBlanks text.toList

/-- The number with zeros in front of it, up to the given count of digits. -/
def padded (width n : Nat) : List Char := (Nat.toDigits 10 n).leftpad width '0'

/-- A year of more than four digits or before year zero has a sign. -/
def chars (date : Date) : List Char :=
  let year := padded 4 date.year.natAbs
  let sign := if date.year < 0 then ['-'] else if date.year > 9999 then ['+'] else []
  sign ++ year ++ '-' :: (padded 2 date.month ++ '-' :: padded 2 date.day)

def text (date : Date) : String := String.ofList date.chars

end Date

end IssueFilter
