import IssueFilter.Text.Ascii

/-! Targets of requests: a path, an absolute address, an authority or an asterisk. A request is
served by the path of its target, which is empty for an authority. -/
namespace IssueFilter.Http.Target

/-- Characters of a path. Those beyond ASCII are let through. -/
def isPathChar (c : Char) : Bool := c.toNat > 0x20 && !("#<>?\x60".toList.contains c)

def isQueryChar (c : Char) : Bool := c.toNat > 0x20 && !("\"#<>".toList.contains c)

/-- The path in front of a query and a fragment. A fragment may hold anything. -/
def leadingPath? (s : List Char) : Option (List Char) :=
  let path := s.takeWhile fun c => c ≠ '?' && c ≠ '#'
  let query := (s.drop path.length).takeWhile (· ≠ '#')
  if path.all isPathChar && query.all isQueryChar then
    some (if path.isEmpty then ['/'] else path)
  else none

def isSchemeChar (c : Char) : Bool := c.isAlphanum || "+-.~".toList.contains c

/-- What follows the scheme of an absolute address. -/
def afterScheme? (s : List Char) : Option (List Char) :=
  match s.dropWhile isSchemeChar with
  | ':' :: '/' :: '/' :: rest =>
    if (s.takeWhile isSchemeChar).length ≤ 64 then some rest else none
  | _ => none

def endsAuthority (c : Char) : Bool := c = '/' || c = '?' || c = '#'

/-- What has been met in an authority since its beginning, its user or its bracketed address. -/
structure Seen where
  colons : Nat
  percent : Bool
  opened : Bool
  closed : Bool

/-- The next character of an authority. -/
def Seen.next? (seen : Seen) (c : Char) : Option Seen :=
  match c with
  | ':' => if seen.colons < 8 then some { seen with colons := seen.colons + 1 } else none
  | '%' => some { seen with percent := true }
  | '@' => some { seen with colons := 0, percent := false }
  | '[' => if seen.percent || seen.opened then none else some { seen with opened := true }
  | ']' => if seen.opened && !seen.closed then some ⟨0, false, true, true⟩ else none
  | c => if c.isAlphanum || "!$&'()*+,-.;=_~".toList.contains c then some seen else none

/-- Whether the text is an authority: a host, with or without a user in front of it and a number
behind it. Only a user and an address in brackets may hold percent signs and more than one
colon. -/
def isAuthority (s : List Char) : Bool :=
  match s.foldlM Seen.next? ⟨0, false, false, false⟩ with
  | some seen =>
    seen.colons ≤ 1 && !seen.percent && seen.opened == seen.closed && s.getLast? ≠ some '@'
  | none => false

/-- The path of an absolute address after its scheme. -/
def addressPath? (s : List Char) : Option (List Char) :=
  let authority := s.takeWhile (!endsAuthority ·)
  if !authority.isEmpty && isAuthority authority then leadingPath? (s.drop authority.length)
  else none

/-- The longest target in bytes. -/
def maxSize : Nat := 65534

/-- The path of a target, unless its text is none. -/
def path? (target : String) : Option String :=
  let s := target.toList
  if target.utf8ByteSize > maxSize then none
  else
    String.ofList <$> match s with
      | [] => none
      | ['*'] => some s
      | '/' :: _ => leadingPath? s
      | _ =>
        match afterScheme? s with
        | some rest => addressPath? rest
        | none => if isAuthority s then some [] else none

end IssueFilter.Http.Target
