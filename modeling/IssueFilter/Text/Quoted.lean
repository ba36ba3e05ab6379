/-! Quoted texts of the filter language. Between quotes a backslash stands for the character after
it; writing puts a backslash before each backslash and each double quote and before nothing
else. -/
namespace IssueFilter.Quoted

def encode : List Char → List Char
  | [] => []
  | c :: rest => if c = '\\' ∨ c = '"' then '\\' :: c :: encode rest else c :: encode rest

/-- Reads up to the closing quote. The text stands first, what follows the quote second; there is
no answer when the quote is missing. -/
def decode (quote : Char) : List Char → Option (List Char × List Char)
  | [] => none
  | '\\' :: c :: rest => (decode quote rest).map fun (text, after) => (c :: text, after)
  | c :: rest =>
    if c = quote then some ([], rest)
    else if c = '\\' then none
    else (decode quote rest).map fun (text, after) => (c :: text, after)

/-- What stands between the quotes, as it is written: up to the closing quote, or up to a backslash
behind which the text ends. What follows stands second. -/
def inside (quote : Char) : List Char → List Char × List Char
  | [] => ([], [])
  | '\\' :: c :: rest =>
    let (text, after) := inside quote rest
    ('\\' :: c :: text, after)
  | c :: rest =>
    if c = quote ∨ c = '\\' then ([], c :: rest)
    else
      let (text, after) := inside quote rest
      (c :: text, after)

/-- Each backslash goes, and the character after it stays. -/
def unescape : List Char → List Char
  | [] => []
  | '\\' :: c :: rest => c :: unescape rest
  | c :: rest => if c = '\\' then [] else c :: unescape rest

def chars (s : List Char) : List Char := '"' :: (encode s ++ ['"'])

end IssueFilter.Quoted
