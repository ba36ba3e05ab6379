import IssueFilter.Failure
import IssueFilter.Function.Basic
import IssueFilter.Message.Catalog
import IssueFilter.Query.Traversal
import IssueFilter.Table
import IssueFilter.Text.Lowercase

/-! The functions that a host knows, and filters with calls of them. The calls of a filter are
validated, sanitised or replaced by values one by one from left to right, and a filter is searched
only after validation found no error. -/
namespace IssueFilter

/-- Functions by name. Names differ only if they differ in lower case. -/
structure Registry (m : Type → Type) where
  functions : Table String (FilterFunction m)

namespace Registry

variable {m : Type → Type}

def empty : Registry m := ⟨.empty⟩

/-- Takes the place of a function of the same name. -/
def register (registry : Registry m) (function : FilterFunction m) : Registry m :=
  ⟨registry.functions.insert (Lowercase.text function.name) function⟩

def find? (registry : Registry m) (name : String) : Option (FilterFunction m) :=
  registry.functions.get? (Lowercase.text name)

theorem find?_empty (name : String) : (empty : Registry m).find? name = none :=
  Table.get?_empty _

theorem find?_register (registry : Registry m) (function : FilterFunction m) (name : String) :
    (registry.register function).find? name =
      if Lowercase.text name = Lowercase.text function.name then some function
      else registry.find? name := by
  rw [find?, register, Table.get?_insert, find?]

def size (registry : Registry m) : Nat := registry.functions.entries.length

def isEmpty (registry : Registry m) : Bool := registry.functions.entries.isEmpty

end Registry

structure Runner (m : Type → Type) where
  parse : QueryParser
  search : SearchService m
  catalog : Catalog
  registry : Registry m

namespace Runner

variable {m : Type → Type} [Monad m] (runner : Runner m)

/-- A call must name a function that is known, fit the field it is compared with, and please the
function. -/
def validateCall (viewer : Viewer) (condition : Condition) (call : Call) : m MessageSet :=
  match runner.registry.find? call.name with
  | none =>
    return MessageSet.empty.addError (runner.catalog.message .functionUnknown [call.name])
  | some function =>
    if function.dataType.fits condition.field then function.validate viewer call condition
    else
      return MessageSet.empty.addError (runner.catalog.message .functionIncompatible
        [call.name, function.dataType.name, condition.field])

def validate (viewer : Viewer) (query : Query) : m MessageSet :=
  query.calls.foldlM
    (fun messages (condition, call) => do
      return messages.merge (← runner.validateCall viewer condition call))
    .empty

def sanitiseCall (viewer : Viewer) (call : Call) : m Call :=
  match (runner.registry.find? call.name).bind FilterFunction.sanitise? with
  | some sanitise => do return (← sanitise viewer call).getD call
  | none => pure call

def sanitise (viewer : Viewer) (query : Query) : m Query :=
  query.mapCallsM fun _ call => do return .call (← runner.sanitiseCall viewer call)

/-- The values of a call; a function that is not known has none. -/
def valuesOf (viewer : Viewer) (condition : Condition) (call : Call) : m (List CallValue) :=
  match runner.registry.find? call.name with
  | some function => function.values viewer call condition
  | none => pure []

def resolve (viewer : Viewer) (query : Query) : m Query :=
  query.mapCallsM fun condition call => do
    return .list ((← runner.valuesOf viewer condition call).map fun value => .single value.value)

def run (viewer : Viewer) (text : String) (page : Page) : m (Except Failure SearchResults) :=
  match runner.parse text with
  | .error e => return .error (.parse e)
  | .ok query => do
    let messages ← runner.validate viewer query
    if messages.hasErrors then return .error (.validation messages)
    let resolved ← runner.resolve viewer query
    match ← runner.search viewer resolved page with
    | .error e => return .error (.search e)
    | .ok results => return .ok results

end Runner

end IssueFilter
