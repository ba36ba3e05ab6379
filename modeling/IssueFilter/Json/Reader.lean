import IssueFilter.Json.Basic

/-! Reading JSON texts. Reading never fails: where the text is no JSON the value says so at that
place, see `Json`. -/
namespace IssueFilter.Json

def isSpace (c : Char) : Bool := c = ' ' || c = '\n' || c = '\t' || c = '\r'

def skipSpace (s : List Char) : List Char := s.dropWhile isSpace

def hexDigit? (c : Char) : Option Nat :=
  if c.isDigit then some (c.toNat - '0'.toNat)
  else if 'a' ≤ c ∧ c ≤ 'f' then some (c.toNat - 'a'.toNat + 10)
  else if 'A' ≤ c ∧ c ≤ 'F' then some (c.toNat - 'A'.toNat + 10)
  else none

/-- The value of four hexadecimal digits. -/
def unit? (a b c d : Char) : Option Nat := do
  return (((← hexDigit? a) * 16 + (← hexDigit? b)) * 16 + (← hexDigit? c)) * 16 + (← hexDigit? d)

def simpleEscape? : Char → Option Char
  | '"' => some '"'
  | '\\' => some '\\'
  | '/' => some '/'
  | 'b' => some '\x08'
  | 'f' => some '\x0c'
  | 'n' => some '\n'
  | 'r' => some '\r'
  | 't' => some '\t'
  | _ => none

/-- One sixteen-bit unit of a string, or a character written as itself. -/
inductive Piece where
  | char (c : Char)
  | unit (n : Nat)

/-- The pieces of a string up to its closing quote, and the text after the quote. -/
def pieces : List Char → Option (List Piece × List Char)
  | [] => none
  | '"' :: rest => some ([], rest)
  | '\\' :: 'u' :: a :: b :: c :: d :: rest =>
    match unit? a b c d with
    | some n => (pieces rest).map fun (ps, after) => (.unit n :: ps, after)
    | none => none
  | '\\' :: c :: rest =>
    match simpleEscape? c with
    | some e => (pieces rest).map fun (ps, after) => (.char e :: ps, after)
    | none => none
  | c :: rest =>
    if c.toNat < 0x20 ∨ c = '\\' then none
    else (pieces rest).map fun (ps, after) => (.char c :: ps, after)

def isHighUnit (n : Nat) : Bool := 0xD800 ≤ n && n < 0xDC00
def isLowUnit (n : Nat) : Bool := 0xDC00 ≤ n && n < 0xE000

/-- The characters that the pieces spell. The two halves of a surrogate pair come together. -/
def spell : List Piece → Option (List Char)
  | [] => some []
  | .char c :: ps => (spell ps).map (c :: ·)
  | .unit high :: .unit low :: ps =>
    if isHighUnit high then
      if isLowUnit low then
        (spell ps).map (Char.ofNat (0x10000 + (high - 0xD800) * 0x400 + (low - 0xDC00)) :: ·)
      else none
    else if isLowUnit high then none
    else (spell (.unit low :: ps)).map (Char.ofNat high :: ·)
  | .unit n :: ps =>
    if isHighUnit n || isLowUnit n then none else (spell ps).map (Char.ofNat n :: ·)

/-- A string after its opening quote. -/
def readString (s : List Char) : Option (Option String × List Char) :=
  (pieces s).map fun (ps, rest) => ((spell ps).map String.ofList, rest)

/-- The digits after the point, if there is a point. -/
def readFraction : List Char → Option (Option (List Char) × List Char)
  | '.' :: s =>
    if s.takeWhile Char.isDigit = [] then none
    else some (some (s.takeWhile Char.isDigit), s.dropWhile Char.isDigit)
  | s => some (none, s)

def readExponent (s : List Char) : Option (Option (Bool × List Char) × List Char) :=
  let digits (negative : Bool) (s : List Char) :=
    if s.takeWhile Char.isDigit = [] then none
    else some (some (negative, s.takeWhile Char.isDigit), s.dropWhile Char.isDigit)
  match s with
  | 'e' :: '-' :: s | 'E' :: '-' :: s => digits true s
  | 'e' :: '+' :: s | 'E' :: '+' :: s => digits false s
  | 'e' :: s | 'E' :: s => digits false s
  | s => some (none, s)

/-- A number after its sign. A leading zero stands alone. -/
def readNumber (negative : Bool) (s : List Char) : Option (Number × List Char) := do
  let digits := s.takeWhile Char.isDigit
  if digits = [] ∨ (digits.length > 1 ∧ digits.head? = some '0') then none
  else
    let (fraction, s) ← readFraction (s.dropWhile Char.isDigit)
    let (exponent, s) ← readExponent s
    return (⟨negative, digits, fraction, exponent⟩, s)

/-- The value `v` if the text goes on with the word. -/
def readWord (word : String) (v : Json) (s : List Char) : Json × List Char :=
  if word.toList.isPrefixOf s then (v, s.drop word.toList.length) else (.broken, [])

/-- A value that is neither an array nor an object. -/
def readScalar : List Char → Json × List Char
  | 'n' :: s => readWord "ull" .null s
  | 't' :: s => readWord "rue" (.bool true) s
  | 'f' :: s => readWord "alse" (.bool false) s
  | '"' :: s =>
    match readString s with
    | some (text, rest) => (.string text, rest)
    | none => (.broken, [])
  | '-' :: s =>
    match readNumber true s with
    | some (n, rest) => (.number n, rest)
    | none => (.broken, [])
  | s =>
    match readNumber false s with
    | some (n, rest) => (.number n, rest)
    | none => (.broken, [])

mutual

/-- The value at the beginning of a text and what comes after it. The depth of the recursion is at
most twice the length of the text: an array or object takes a character, and so does each of its
parts. -/
def readValue : Nat → List Char → Json × List Char
  | 0, _ => (.broken, [])
  | n + 1, s =>
    match skipSpace s with
    | '[' :: s =>
      match skipSpace s with
      | ']' :: rest => (.array [] true, rest)
      | s =>
        let (items, closed, rest) := readItems n s
        (.array items closed, rest)
    | '{' :: s =>
      match skipSpace s with
      | '}' :: rest => (.object [] true, rest)
      | s =>
        let (members, closed, rest) := readMembers n s
        (.object members closed, rest)
    | s => readScalar s

/-- One or more items and the closing bracket. -/
def readItems : Nat → List Char → List Json × Bool × List Char
  | 0, _ => ([], false, [])
  | n + 1, s =>
    let (item, rest) := readValue n s
    match skipSpace rest with
    | ',' :: rest =>
      match skipSpace rest with
      | ']' :: _ => ([item], false, [])
      | rest =>
        let (items, closed, rest) := readItems n rest
        (item :: items, closed, rest)
    | ']' :: rest => ([item], true, rest)
    | _ => ([item], false, [])

/-- One or more members and the closing brace. -/
def readMembers : Nat → List Char → List (Option String × Json) × Bool × List Char
  | 0, _ => ([], false, [])
  | n + 1, s =>
    match skipSpace s with
    | '"' :: s =>
      match readString s with
      | none => ([], false, [])
      | some (name, rest) =>
        match skipSpace rest with
        | ':' :: rest =>
          let (value, rest) := readValue n rest
          match skipSpace rest with
          | ',' :: rest =>
            let (members, closed, rest) := readMembers n rest
            ((name, value) :: members, closed, rest)
          | '}' :: rest => ([(name, value)], true, rest)
          | _ => ([(name, value)], false, [])
        | _ => ([(name, .broken)], false, [])
    | _ => ([], false, [])

end

/-- The value at the beginning of a text, and the text after it. -/
def read (s : List Char) : Json × List Char := readValue (2 * s.length + 2) s

end IssueFilter.Json
