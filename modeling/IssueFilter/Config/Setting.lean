import IssueFilter.Toml.Scalar

/-! Settings from several sources, laid over each other. Tables are merged entry by entry, and
otherwise the later source wins. The entries at the top of a source are named by paths, so that
`server.bind` means the entry `bind` of the table `server`. -/
namespace IssueFilter

inductive Setting where
  /-- What stands in a list where nothing has been put yet. -/
  | absent
  | word (s : String)
  /-- A number or a truth value, as its text. -/
  | scalar (text : String)
  | list (items : List Setting)
  | table (entries : List (String × Setting))
  deriving Inhabited

namespace Setting

mutual

def ofToml : Toml → Setting
  | .string s => .word s
  | .integer n => .scalar (toString n)
  | .float x => .scalar (Decimal.floatText x)
  | .boolean b => .scalar (if b then "true" else "false")
  | .datetime text => .word text
  | .array items => .list (ofTomlItems items)
  | .table entries => .table (ofTomlEntries entries)

def ofTomlItems : List Toml → List Setting
  | [] => []
  | v :: items => ofToml v :: ofTomlItems items

def ofTomlEntries : List (String × Toml) → List (String × Setting)
  | [] => []
  | (name, v) :: entries => (name, ofToml v) :: ofTomlEntries entries

end

/-- The entries of a table; anything else counts as a table without entries. -/
def entries : Setting → List (String × Setting)
  | table es => es
  | _ => []

/-- The items of a list; anything else counts as a list without items. -/
def items : Setting → List Setting
  | list items => items
  | _ => []

/-- Puts a setting in the place of the one of that name, or at the end. -/
def put (name : String) (v : Setting) : List (String × Setting) → List (String × Setting)
  | [] => [(name, v)]
  | (k, w) :: rest => if k = name then (k, v) :: rest else (k, w) :: put name v rest

def entry (es : List (String × Setting)) (name : String) : Setting := (es.lookup name).getD .absent

mutual

/-- What an old setting becomes under a new one. -/
def overlay (old : Setting) : Setting → Setting
  | .table es => .table (overlayEntries old.entries es)
  | v => v

def overlayEntries (old : List (String × Setting)) :
    List (String × Setting) → List (String × Setting)
  | [] => old
  | (name, v) :: rest => overlayEntries (put name (overlay (entry old name) v) old) rest

end

/-- A step of a path: to an entry of a table, or to an item of a list. A negative place is counted
from the end. -/
inductive Step where
  | entry (name : String)
  | item (place : Int)
  deriving DecidableEq, Repr

def isNameChar (c : Char) : Bool := c.isAlphanum || c = '_' || c = '-'

/-- A place in a list: digits, perhaps after a minus sign, in 64 bits. Blanks may stand around
it. -/
def readPlace (s : List Char) : Option (Int × List Char) :=
  let isSpace (c : Char) : Bool := c = ' ' || c = '\t'
  let s := s.dropWhile isSpace
  let (negative, s) := match s with
    | '-' :: rest => (true, rest)
    | s => (false, s)
  let digits := s.takeWhile Char.isDigit
  let size := Nat.ofDigitChars 10 digits 0
  if digits.isEmpty || size ≥ 0x8000000000000000 + (if negative then 1 else 0) then none
  else some (if negative then -(size : Int) else size, (s.dropWhile Char.isDigit).dropWhile isSpace)

def readSteps : Nat → List Char → Option (List Step)
  | 0, [] => some []
  | 0, _ :: _ => none
  | n + 1, s =>
    match s with
    | [] => some []
    | '.' :: rest =>
      let name := rest.takeWhile isNameChar
      if name.isEmpty then none
      else (readSteps n (rest.dropWhile isNameChar)).map (.entry (String.ofList name) :: ·)
    | '[' :: rest =>
      match readPlace rest with
      | some (place, ']' :: rest) => (readSteps n rest).map (.item place :: ·)
      | _ => none
    | _ => none

/-- The steps of a path. A text that is no path is the name of an entry. -/
def pathOf (text : String) : List Step :=
  let s := text.toList
  let name := s.takeWhile isNameChar
  match if name.isEmpty then none else readSteps s.length (s.dropWhile isNameChar) with
  | some steps => .entry (String.ofList name) :: steps
  | none => [.entry text]

/-- Makes sure that a list has an item at a place: the list, and the place counted from its
beginning. A list grows at its end, or at its beginning for a place before that. -/
def reach (place : Int) (items : List Setting) : List Setting × Nat :=
  let index := if place < 0 then items.length + place else place
  if index < 0 then (List.replicate index.natAbs .absent ++ items, 0)
  else (items ++ List.replicate (index.toNat + 1 - items.length) .absent, index.toNat)

/-- Lays a setting over the one at the end of a path. What stands in the way becomes a table or a
list. -/
def overlayAt (v : Setting) : List Step → Setting → Setting
  | [], old => overlay old v
  | .entry name :: steps, old =>
    .table (put name (overlayAt v steps (entry old.entries name)) old.entries)
  | .item place :: steps, old =>
    let (items, index) := reach place old.items
    .list (items.modify index (overlayAt v steps))

/-- Lays a source over the settings so far. -/
def layer (old : Setting) (source : List (String × Setting)) : Setting :=
  source.foldl (fun old (path, v) => overlayAt v (pathOf path) old) old

end Setting

end IssueFilter
