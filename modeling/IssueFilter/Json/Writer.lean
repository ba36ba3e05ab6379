import IssueFilter.Json.Basic

/-! Writing JSON texts without any white space. Only quotes, backslashes and control characters are
escaped. -/
namespace IssueFilter.Json

def hexDigit (n : Nat) : Char := (Nat.toDigits 16 n).getLastD '0'

def escaped (c : Char) : List Char :=
  match c with
  | '"' => ['\\', '"']
  | '\\' => ['\\', '\\']
  | '\x08' => ['\\', 'b']
  | '\x0c' => ['\\', 'f']
  | '\n' => ['\\', 'n']
  | '\r' => ['\\', 'r']
  | '\t' => ['\\', 't']
  | c =>
    if c.toNat < 0x20 then ['\\', 'u', '0', '0', hexDigit (c.toNat / 16), hexDigit (c.toNat % 16)]
    else [c]

def stringChars (s : String) : List Char := '"' :: (s.toList.flatMap escaped ++ ['"'])

def Number.chars (n : Number) : List Char :=
  (if n.negative then ['-'] else []) ++ n.digits ++
    (match n.fraction with
      | none => []
      | some digits => '.' :: digits) ++
    (match n.exponent with
      | none => []
      | some (true, digits) => 'e' :: '-' :: digits
      | some (false, digits) => 'e' :: digits)

mutual

def chars : Json → List Char
  | .null | .broken | .string none => "null".toList
  | .bool b => (if b then "true" else "false").toList
  | .number n => n.chars
  | .string (some s) => stringChars s
  | .array items _ => '[' :: ([','].intercalate (charsOfList items) ++ [']'])
  | .object members _ => '\x7b' :: ([','].intercalate (charsOfMembers members) ++ ['\x7d'])

def charsOfList : List Json → List (List Char)
  | [] => []
  | item :: items => item.chars :: charsOfList items

def charsOfMembers : List (Option String × Json) → List (List Char)
  | [] => []
  | (name, value) :: members =>
    (stringChars (name.getD "") ++ ':' :: value.chars) :: charsOfMembers members

end

def text (value : Json) : String := String.ofList value.chars

end IssueFilter.Json
