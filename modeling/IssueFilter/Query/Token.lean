import IssueFilter.Query.Printer

/-! The words of the filter language. Each scanner takes a word off the beginning of a text; blanks
in front of it are not its business. A keyword ends where no word character follows, so `isnt` is
not `is`. -/
namespace IssueFilter.Token

/-- The blanks that may stand between the words of a filter. -/
def isGap (c : Char) : Bool := c = ' ' || c = '\t' || c = '\r' || c = '\n'

def skipGaps (s : List Char) : List Char := s.dropWhile isGap

def atWordEnd : List Char → Bool
  | [] => true
  | c :: _ => !isWordChar c

def run (p : Char → Bool) (s : List Char) : Option (List Char × List Char) :=
  if s.takeWhile p = [] then none else some (s.takeWhile p, s.dropWhile p)

/-- The text after the word, whose ASCII letters may be in either case. -/
def afterWord : List Char → List Char → Option (List Char)
  | [], s => some s
  | _ :: _, [] => none
  | w :: word, c :: s => if c.toLower = w then afterWord word s else none

def keyword (word : String) (s : List Char) : Option (Unit × List Char) :=
  match afterWord word.toList s with
  | some rest => if atWordEnd rest then some ((), rest) else none
  | none => none

/-- Two words with blanks between them, as in `order by`. -/
def keywords (first second : String) (s : List Char) : Option (Unit × List Char) :=
  match (afterWord first.toList s).bind (run isGap) with
  | some (_, rest) => keyword second rest
  | none => none

def symbol (text : String) (s : List Char) : Option (Unit × List Char) :=
  if text.toList.isPrefixOf s then some ((), s.drop text.toList.length) else none

def either {α : Type} (f g : List Char → Option (α × List Char)) (s : List Char) :
    Option (α × List Char) :=
  (f s).orElse fun _ => g s

/-- A name: a character of one kind, then any number of another. -/
def name (first other : Char → Bool) : List Char → Option (String × List Char)
  | [] => none
  | c :: s =>
    if first c then some (String.ofList (c :: s.takeWhile other), s.dropWhile other) else none

def isFieldStart (c : Char) : Bool := c.isAlpha || c = '_'
def isFieldChar (c : Char) : Bool := c.isAlphanum || c = '_' || c = '.'

def field : List Char → Option (String × List Char) := name isFieldStart isFieldChar

def callName : List Char → Option (String × List Char) :=
  name Char.isAlpha fun c => c.isAlphanum || c = '_'

/-- The comparison operators, the longer ones of two with a common beginning first. -/
def comparisons : List Operator :=
  [.notEquals, .notLike, .lessOrEqual, .greaterOrEqual, .equals, .like, .less, .greater]

def comparison (s : List Char) : Option (Operator × List Char) :=
  comparisons.findSome? fun operator =>
    (symbol operator.symbol s).map fun (_, rest) => (operator, rest)

def andWord : List Char → Option (Unit × List Char) := either (keyword "and") (symbol "&&")
def orWord : List Char → Option (Unit × List Char) := either (keyword "or") (symbol "||")
def notWord : List Char → Option (Unit × List Char) := either (keyword "not") (symbol "!")
def emptyWord : List Char → Option (Unit × List Char) := either (keyword "empty") (keyword "null")

def direction (s : List Char) : Option (Direction × List Char) :=
  match keyword "asc" s with
  | some (_, rest) => some (.ascending, rest)
  | none => (keyword "desc" s).map fun (_, rest) => (.descending, rest)

/-- An argument without quotes ends at a blank, a comma, a parenthesis or a quote. -/
def isBareArgumentChar (c : Char) : Bool := !isGap c && !([',', ')', '(', '"', '\''].contains c)

def bareArgument (s : List Char) : Option (String × List Char) :=
  (run isBareArgumentChar s).map fun (text, rest) => (String.ofList text, rest)

def string : List Char → Option (String × List Char)
  | '"' :: s => (Quoted.decode '"' s).map fun (text, rest) => (String.ofList text, rest)
  | '\'' :: s => (Quoted.decode '\'' s).map fun (text, rest) => (String.ofList text, rest)
  | _ => none

/-- Digits that need more than 64 bits are a text. -/
def number (s : List Char) : Option (Literal × List Char) :=
  match run Char.isDigit s with
  | some (digits, rest) =>
    if atWordEnd rest then
      some ((match Numeral.unsigned? digits with
        | some n => .number n
        | none => .text (String.ofList digits)), rest)
    else none
  | none => none

def word (s : List Char) : Option (Literal × List Char) :=
  (run isWordChar s).map fun (text, rest) => (.text (String.ofList text), rest)

end IssueFilter.Token
