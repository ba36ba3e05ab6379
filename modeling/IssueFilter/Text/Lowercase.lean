import IssueFilter.Text.CaseTable

/-! Lower-casing of whole texts in any script. Each capital becomes its partner, with two
exceptions: a dotted capital I leaves its dot behind as a character of its own, and a capital sigma
at the end of a word becomes the final sigma. -/
namespace IssueFilter.Lowercase

open CaseTable

def inRanges (ranges : List (Nat × Nat)) (c : Char) : Bool :=
  ranges.any fun (first, last) => first ≤ c.toNat && c.toNat ≤ last

def Capitals.has (capitals : Capitals) (n : Nat) : Bool :=
  capitals.first ≤ n && n ≤ capitals.last && (n - capitals.first) % capitals.step = 0

def lowerChar (c : Char) : Char :=
  if c.toNat < 0x80 then c.toLower
  else match capitals.find? (Capitals.has · c.toNat) with
    | some found => Char.ofNat (c.toNat + found.shift).toNat
    | none => c

/-- Whether a letter with a case comes next, characters that are passed over aside. -/
def touchesLetter (s : List Char) : Bool :=
  match s.dropWhile (inRanges passedOverRanges) with
  | [] => false
  | c :: _ => inRanges casedRanges c

/-- Lower-cases the rest of a text; `before` is what stands before it, last character first. -/
def lowerFrom (before : List Char) : List Char → List Char
  | [] => []
  | c :: rest =>
    let lowered :=
      if c = 'Σ' then [if touchesLetter before && !touchesLetter rest then 'ς' else 'σ']
      else if c = 'İ' then ['i', '\u0307']
      else [lowerChar c]
    lowered ++ lowerFrom (c :: before) rest

def chars (s : List Char) : List Char := lowerFrom [] s

def text (s : String) : String := String.ofList (chars s.toList)

end IssueFilter.Lowercase
