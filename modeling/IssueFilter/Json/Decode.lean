import IssueFilter.Json.Reader
import IssueFilter.Literal

/-! Decoding JSON into typed values. Decoding follows the text from left to right, so of two faults
the one written first is reported. Members that a record does not know are skipped; a record may
also be written as an array of its members in their order. -/
namespace IssueFilter

/-- What can be wrong with a text that should hold a typed value. -/
inductive Json.Fault where
  /-- The text is no JSON, or breaks off. -/
  | malformed
  /-- The JSON is not of the wanted shape. -/
  | mismatched
  deriving DecidableEq, Repr

namespace Json

/-- The fault of a value of another kind than the wanted one. -/
def faultOf : Json → Fault
  | .broken | .string none => .malformed
  | .number n => if n.isTooLarge then .malformed else .mismatched
  | _ => .mismatched

def asString : Json → Except Fault String
  | .string (some s) => .ok s
  | v => .error v.faultOf

def asNatural : Json → Except Fault UInt64
  | .number n =>
    match n.natural? with
    | some n => .ok n
    | none => .error (Json.number n).faultOf
  | v => .error v.faultOf

def asBool : Json → Except Fault Bool
  | .bool b => .ok b
  | v => .error v.faultOf

def asOptional {α : Type} (f : Json → Except Fault α) : Json → Except Fault (Option α)
  | .null => .ok none
  | v => some <$> f v

def asList {α : Type} (f : Json → Except Fault α) : Json → Except Fault (List α)
  | .array items closed => do
    let values ← items.mapM f
    if closed then return values else throw .malformed
  | v => .error v.faultOf

/-- A member of a record under construction. -/
structure Member (σ : Type) where
  name : String
  store : Json → σ → Except Fault σ

/-- A member with its decoder and its place in the record. -/
def member {σ α : Type} (name : String) (decode : Json → Except Fault α) (place : α → σ → σ) :
    Member σ :=
  ⟨name, fun v record => (place · record) <$> decode v⟩

/-- Stores the members of an object as they come. A known member may come only once. -/
def storeMembers {σ : Type} (known : List (Member σ)) :
    (seen : List String) → List (Option String × Json) → σ → Except Fault σ
  | _, [], record => .ok record
  | _, (none, _) :: _, _ => .error .malformed
  | seen, (some name, value) :: rest, record =>
    match known.find? (·.name == name) with
    | none => if value.isWhole then storeMembers known seen rest record else .error .malformed
    | some m =>
      if seen.contains name then .error .mismatched
      else do storeMembers known (name :: seen) rest (← m.store value record)

/-- Stores items in the order of the members; there may not be more items than members. -/
def storeItems {σ : Type} : List (Member σ) → List Json → σ → Except Fault σ
  | _, [], record => .ok record
  | [], _ :: _, _ => .error .malformed
  | m :: known, value :: rest, record => do storeItems known rest (← m.store value record)

/-- A record: it starts out with the defaults, and `finish` says whether anything is missing. -/
def asRecord {σ α : Type} (known : List (Member σ)) (start : σ) (finish : σ → Option α) (v : Json) :
    Except Fault α := do
  let (record, closed) ← match v with
    | .object members closed => (·, closed) <$> storeMembers known [] members start
    | .array items closed => (·, closed) <$> storeItems known items start
    | v => throw v.faultOf
  if !closed then throw .malformed
  match finish record with
  | some a => return a
  | none => throw .mismatched

/-- Decodes the value at the beginning of a text, whatever comes after it. -/
def decodeLeading {α : Type} (f : Json → Except Fault α) (text : String) : Except Fault α :=
  f (read text.toList).1

/-- Decodes a text that holds one value and nothing else but white space. -/
def decode {α : Type} (f : Json → Except Fault α) (text : String) : Except Fault α := do
  let (value, rest) := read text.toList
  let a ← f value
  if skipSpace rest = [] then return a else throw .malformed

end Json

/-! Literals in JSON are numbers and strings. -/
namespace Literal

def ofJson : Json → Except Json.Fault Literal
  | .number n =>
    match n.natural? with
    | some n => .ok (.number n)
    | none => .error (Json.number n).faultOf
  | v => .text <$> v.asString

def toJson : Literal → Json
  | .number n => .nat n.toNat
  | .text s => .str s

end Literal

end IssueFilter
