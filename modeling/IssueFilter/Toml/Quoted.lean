import IssueFilter.Toml.Scalar

/-! Quoted texts of TOML: in double quotes with escapes, in single quotes without, each on one line
or, with three quotes, over several. -/
namespace IssueFilter.Toml

/-- Control characters other than the tab have to be escaped. -/
def isPlain (c : Char) : Bool := c = '\t' || (c.toNat ≥ 0x20 && c.toNat ≠ 0x7F)

def isGap (c : Char) : Bool := c = ' ' || c = '\t'

/-- The character with the code point that the hexadecimal digits spell. -/
def codePoint? (digits : List Char) : Option Char :=
  if digits.all (isDigitOf 16) then
    let n := digits.foldl (fun n c => n * 16 + hexValue c) 0
    if n.isValidChar then some (Char.ofNat n) else none
  else none

def simpleEscape? : Char → Option Char
  | 'b' => some '\x08'
  | 't' => some '\t'
  | 'n' => some '\n'
  | 'f' => some '\x0c'
  | 'r' => some '\r'
  | 'e' => some '\x1b'
  | '"' => some '"'
  | '\\' => some '\\'
  | _ => none

/-- What is left after leading white space and line ends. -/
def skipLines : List Char → List Char
  | '\r' :: '\n' :: rest => skipLines rest
  | c :: rest => if isGap c || c = '\n' then skipLines rest else c :: rest
  | [] => []

/-- The text after the white space and line ends that a backslash at the end of a line removes, if
there is a line end. -/
def afterLineEnd (s : List Char) : Option (List Char) :=
  match s.dropWhile isGap with
  | '\n' :: rest => some (skipLines rest)
  | '\r' :: '\n' :: rest => some (skipLines rest)
  | _ => none

/-- The end of a text in three quotes: up to two quotes before the closing ones belong to it. -/
def closing (quote : Char) (s : List Char) : Option (List Char × List Char) :=
  let count := min (s.takeWhile (· = quote)).length 5
  if count ≥ 3 then some (List.replicate (count - 3) quote, s.drop count) else none

/-- A text with escapes up to its closing quotes, and what follows them. `n` is at least the length
of the text. -/
def escapedText (lines : Bool) : Nat → List Char → Option (List Char × List Char)
  | 0, _ => none
  | n + 1, s =>
    let go (c : Char) (rest : List Char) :=
      (escapedText lines n rest).map fun (text, after) => (c :: text, after)
    match s with
    | [] => none
    | '"' :: rest =>
      if lines then
        match closing '"' s with
        | some found => some found
        | none => go '"' rest
      else some ([], rest)
    | '\\' :: 'x' :: a :: b :: rest => (codePoint? [a, b]).bind fun x => go x rest
    | '\\' :: 'u' :: a :: b :: c :: d :: rest =>
      (codePoint? [a, b, c, d]).bind fun x => go x rest
    | '\\' :: 'U' :: a :: b :: c :: d :: e :: f :: g :: h :: rest =>
      (codePoint? [a, b, c, d, e, f, g, h]).bind fun x => go x rest
    | '\\' :: rest =>
      match if lines then afterLineEnd rest else none with
      | some rest => escapedText lines n rest
      | none =>
        match rest with
        | c :: rest => (simpleEscape? c).bind fun x => go x rest
        | [] => none
    | '\r' :: '\n' :: rest =>
      if lines then (go '\n' rest).map fun (text, after) => ('\r' :: text, after) else none
    | c :: rest => if isPlain c || (lines && c = '\n') then go c rest else none

/-- A text without escapes up to its closing quotes, and what follows them. -/
def literalText (lines : Bool) : Nat → List Char → Option (List Char × List Char)
  | 0, _ => none
  | n + 1, s =>
    let go (c : Char) (rest : List Char) :=
      (literalText lines n rest).map fun (text, after) => (c :: text, after)
    match s with
    | [] => none
    | '\'' :: rest =>
      if lines then
        match closing '\'' s with
        | some found => some found
        | none => go '\'' rest
      else some ([], rest)
    | '\r' :: '\n' :: rest =>
      if lines then (go '\n' rest).map fun (text, after) => ('\r' :: text, after) else none
    | c :: rest => if isPlain c || (lines && c = '\n') then go c rest else none

/-- A line end right after three opening quotes does not belong to the text. -/
def withoutFirstLineEnd : List Char → List Char
  | '\n' :: rest => rest
  | '\r' :: '\n' :: rest => rest
  | s => s

def lineText (s : List Char) : Option (String × List Char) :=
  match s with
  | '"' :: rest =>
    (escapedText false s.length rest).map fun (text, after) => (String.ofList text, after)
  | '\'' :: rest =>
    (literalText false s.length rest).map fun (text, after) => (String.ofList text, after)
  | _ => none

def quotedText (s : List Char) : Option (String × List Char) :=
  match s with
  | '"' :: '"' :: '"' :: rest =>
    (escapedText true s.length (withoutFirstLineEnd rest)).map
      fun (text, after) => (String.ofList text, after)
  | '\'' :: '\'' :: '\'' :: rest =>
    (literalText true s.length (withoutFirstLineEnd rest)).map
      fun (text, after) => (String.ofList text, after)
  | s => lineText s

end IssueFilter.Toml
