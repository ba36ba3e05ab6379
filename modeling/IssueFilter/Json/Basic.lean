import IssueFilter.Json.Number

/-! JSON values as a reader sees them. A text may break off or go wrong somewhere inside a value;
what stands before that place is kept, so that whoever decodes the value meets a wrong shape and a
wrong text in the order in which they are written. -/
namespace IssueFilter

/-- A string or member name is `none` when its escapes spell no text (half of a surrogate pair).
An array or object is closed when it was read up to its closing bracket. -/
inductive Json where
  | null
  | bool (b : Bool)
  | number (n : Json.Number)
  | string (text : Option String)
  | array (items : List Json) (closed : Bool)
  | object (members : List (Option String × Json)) (closed : Bool)
  | broken
  deriving Repr, Inhabited

namespace Json

def nat (n : Nat) : Json := .number ⟨false, Nat.toDigits 10 n, none, none⟩

def str (s : String) : Json := .string (some s)

def arr (items : List Json) : Json := .array items true

def obj (members : List (String × Json)) : Json :=
  .object (members.map fun (name, value) => (some name, value)) true

/-- The value, or `null`. -/
def nullable {α : Type} (f : α → Json) : Option α → Json
  | none => .null
  | some a => f a

mutual

/-- Whether the text of the value is there to its end. Skipping a value asks for no more. -/
def isWhole : Json → Bool
  | .null | .bool _ | .number _ | .string _ => true
  | .array items closed => closed && isWholeList items
  | .object members closed => closed && isWholeMembers members
  | .broken => false

def isWholeList : List Json → Bool
  | [] => true
  | item :: items => item.isWhole && isWholeList items

def isWholeMembers : List (Option String × Json) → Bool
  | [] => true
  | (_, value) :: members => value.isWhole && isWholeMembers members

end

end Json

end IssueFilter
