import IssueFilter.Text.Ascii

/-! Media types, as the content type of a request names them: a type, a subtype with or without a
suffix, and parameters. -/
namespace IssueFilter

structure MediaType where
  type : String
  subtype : String
  /-- What stands after the last plus sign of the subtype. -/
  suffix : Option String
  deriving DecidableEq, Repr

namespace MediaType

def isTokenChar (c : Char) : Bool :=
  c.isAlphanum || "!#$%&'*+-.^_\x60|~".toList.contains c

/-- The text after a quoted parameter. At least one character stands between the quotes, and the
first one may itself be a quote. -/
def afterQuoted : List Char → Option (List Char)
  | [] => none
  | c :: rest =>
    if c = '\t' then none
    else
      let tail := rest.dropWhile fun c => c ≠ '"' && c ≠ '\t'
      match tail with
      | '"' :: after => some (after.dropWhile (· = ' '))
      | _ => none

/-- Whether the text after the first semicolon is a list of parameters. `n` is at least its
length. -/
def areParameters : Nat → List Char → Bool
  | 0, s => s.isEmpty
  | n + 1, s =>
    match s.dropWhile (· = ' ') with
    | [] => true
    | s =>
      match (s.takeWhile isTokenChar).isEmpty, s.dropWhile isTokenChar with
      | false, '=' :: '"' :: value =>
        match afterQuoted value with
        | some [] => true
        | some (';' :: rest) => areParameters n rest
        | _ => false
      | false, '=' :: value =>
        match (value.takeWhile isTokenChar).isEmpty, value.dropWhile isTokenChar with
        | _, [] => true
        | false, ';' :: rest => areParameters n rest
        | _, _ => false
      | _, _ => false

/-- The subtype in front of its suffix, and the suffix. A plus sign at the beginning is part of the
subtype. -/
def splitSuffix (s : List Char) : List Char × Option (List Char) :=
  let suffix := (s.reverse.takeWhile (· ≠ '+')).reverse
  let before := s.length - suffix.length
  if before ≥ 2 then (s.take (before - 1), some suffix) else (s, none)

/-- Reads a media type. Its names are in lower case. -/
def parse? (text : String) : Option MediaType :=
  let s := text.toList
  let visible := s.all fun c => c = '\t' || (0x20 ≤ c.toNat && c.toNat < 0x7F)
  let type := s.takeWhile isTokenChar
  match s.dropWhile isTokenChar with
  | '/' :: s =>
    let (subtype, suffix) := splitSuffix (s.takeWhile isTokenChar)
    let found : MediaType :=
      ⟨Ascii.lower (String.ofList type), Ascii.lower (String.ofList subtype),
        suffix.map fun s => Ascii.lower (String.ofList s)⟩
    match s.dropWhile isTokenChar with
    | [] => if visible && !type.isEmpty then some found else none
    | ';' :: rest =>
      if visible && !type.isEmpty && !(s.takeWhile isTokenChar).isEmpty &&
          areParameters (rest.length + 1) rest then some found
      else none
    | _ => none
  | _ => none

def isJson (type : MediaType) : Bool :=
  type.type = "application" && (type.subtype = "json" || type.suffix = some "json")

end MediaType

end IssueFilter
