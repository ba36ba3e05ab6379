import IssueFilter.Parser.Basic
import IssueFilter.Toml.Quoted
import IssueFilter.Toml.Tree

/-! Reading TOML documents. Nothing is said about what is wrong with a text that is no document. -/
namespace IssueFilter.Toml.Grammar

open IssueFilter.Parser

/-- A parser that records no failures, for it has no named rules. -/
abbrev Reader := Parser Empty

def gap : Reader Unit := scan fun s => some ((), s.dropWhile isGap)

def lineEnd : Reader Unit := scan fun
  | '\n' :: rest => some ((), rest)
  | '\r' :: '\n' :: rest => some ((), rest)
  | _ => none

def atEnd : Reader Unit := scan fun
  | [] => some ((), [])
  | _ => none

def comment : Reader Unit := scan fun
  | '#' :: rest => some ((), rest.dropWhile isPlain)
  | s => some ((), s)

def restOfLine : Reader Unit := do
  gap
  comment
  lineEnd.orElse atEnd

/-- White space, comments and line ends, as many as there are. -/
def filler : Reader Unit := do
  let _ ← many do gap; comment; lineEnd
  gap

def isBareKeyChar (c : Char) : Bool := c.isAlphanum || c = '_' || c = '-'

def bareKey : Reader String := scan fun s =>
  if s.takeWhile isBareKeyChar = [] then none
  else some (String.ofList (s.takeWhile isBareKeyChar), s.dropWhile isBareKeyChar)

def key : Reader String := (scan lineText).orElse bareKey

/-- The number of parts that a name may have, and of brackets and braces around a value. -/
def depthLimit : Nat := 80

def path : Reader (List String) := do
  let first ← key
  let others ← many do gap; char '.'; gap; key
  if others.length < depthLimit then return first :: others else fail

def endsScalar (c : Char) : Bool := [' ', '\t', '\n', '\r', ',', ']', '\x7d', '#', '='].contains c

/-- A number, truth value, date or time. Between a date and a time may stand a blank. -/
def scalar : Reader Toml := scan fun s =>
  let first := s.takeWhile (!endsScalar ·)
  let rest := s.dropWhile (!endsScalar ·)
  match rest with
  | ' ' :: tail =>
    let second := tail.takeWhile (!endsScalar ·)
    match if (date? first).isSome then datetime? (first ++ ' ' :: second) else none with
    | some text => some (.datetime text, tail.dropWhile (!endsScalar ·))
    | none => (scalar? first).map (·, rest)
  | _ => (scalar? first).map (·, rest)

def text : Reader Toml := do return .string (← scan quotedText)

/-- A name and its value. `space` is what may stand around the sign between them. -/
def pair (space : Reader Unit) (value : Reader Toml) : Reader (List String × Toml) := do
  let name ← path
  space
  char '='
  space
  return (name, ← value)

/-- The values of an array after its opening bracket; a comma may follow the last one. -/
def items (value : Reader Toml) : Reader Toml := do
  filler
  let items ← optional do
    let first ← value
    let others ← many do filler; char ','; filler; value
    filler
    let _ ← optional (char ',')
    filler
    return first :: others
  char ']'
  return .array (items.getD [])

/-- A table after its opening brace, unless its pairs contradict each other; a comma may follow the
last one. -/
def members (value : Reader Toml) : Reader Toml := do
  filler
  let pairs ← optional do
    let first ← pair filler value
    let others ← many do filler; char ','; filler; pair filler value
    filler
    let _ ← optional (char ',')
    filler
    return first :: others
  char '\x7d'
  match inlineTable (pairs.getD []) with
  | some t => return t
  | none => fail

/-- A value with at most `depth` brackets and braces around its parts. -/
def valueWithin : (depth : Nat) → Reader Toml
  | 0 => text.orElse scalar
  | depth + 1 =>
    let array := do
      char '['
      items (valueWithin depth)
    let table := do
      char '\x7b'
      members (valueWithin depth)
    firstOf [text, array, table, scalar]

def value : Reader Toml := valueWithin depthLimit

def header : Reader (Bool × List String) :=
  let table := do
    char '['
    gap
    let name ← path
    gap
    char ']'
    restOfLine
    return name
  let listed := do
    char '['
    char '['
    gap
    let name ← path
    gap
    char ']'
    char ']'
    restOfLine
    return (true, name)
  listed.orElse do return (false, ← table)

def emptyLine : Reader Unit := do gap; comment; lineEnd

def pairs : Reader (List (List String × Toml)) := do
  let found ← many do
    let _ ← many emptyLine
    gap
    let found ← pair gap value
    restOfLine
    return found
  let _ ← many emptyLine
  return found

def tableSection : Reader Section := do
  gap
  let (repeated, path) ← header
  return ⟨repeated, path, ← pairs⟩

def document : Reader (List (String × Toml)) := do
  let top ← pairs
  let sections ← many tableSection
  restOfLine
  atEnd
  match assemble top sections with
  | some entries => return entries
  | none => fail

end IssueFilter.Toml.Grammar

namespace IssueFilter.Toml

/-- The top-level entries of a document. A byte order mark may stand in front of it. -/
def parse? (source : String) : Option (List (String × Toml)) :=
  let s := match source.toList with
    | '\ufeff' :: rest => rest
    | s => s
  (Grammar.document.read s).map (·.1)

end IssueFilter.Toml
