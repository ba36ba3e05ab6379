import IssueFilter.Query.Equality
import IssueFilter.Search.Match

/-! Searching an index. The hits of a query are the visible issues that satisfy it, in the order it
asks for; what is returned of them is one page. Each sort field contributes the first value an issue
has in it; issues without a value come last in either direction, and issues that agree in all fields
keep the order in which they were added. -/
namespace IssueFilter

def Direction.compare (direction : Direction) : Option FieldValue → Option FieldValue → Ordering
  | some a, some b =>
    match direction with
    | ascending => Ord.compare a b
    | descending => Ord.compare b a
  | some _, none => .lt
  | none, some _ => .gt
  | none, none => .eq

/-- The first sort field in which two issues differ decides. -/
def compareKeys : List SortKey → List (Option FieldValue) → List (Option FieldValue) → Ordering
  | key :: keys, a :: as, b :: bs => (key.direction.compare a b).then (compareKeys keys as bs)
  | _, _, _ => .eq

/-- Which part of a result is wanted: at most `max` hits after the first `start` ones. -/
structure Page where
  start : Nat
  max : Option Nat
  deriving DecidableEq, Repr

namespace Page

def unlimited : Page := ⟨0, none⟩

def isUnlimited (page : Page) : Bool := page.start = 0 && page.max.isNone

def select {α : Type} (page : Page) (hits : List α) : List α :=
  match page.max with
  | none => hits.drop page.start
  | some max => (hits.drop page.start).take max

end Page

/-- One page of hits, and the number of hits on all pages together. -/
structure SearchResults where
  issues : List Issue
  total : Nat
  deriving DecidableEq, Repr

/-- Whatever answers queries on behalf of viewers, perhaps with effects in `m`. -/
abbrev SearchService (m : Type → Type) :=
  Viewer → Query → Page → m (Except SearchError SearchResults)

structure SearchCall where
  viewer : Viewer
  query : Query
  page : Page
  deriving DecidableEq, Repr

/-- Computations in `m` with a record of searches, the latest one last. -/
abbrev Recorded (m : Type → Type) := StateT (List SearchCall) m

/-- The service that also keeps a record of what it is asked. -/
def SearchService.recorded {m : Type → Type} [Monad m] (service : SearchService m) :
    SearchService (Recorded m) := fun viewer query page => do
  modify (· ++ [⟨viewer, query, page⟩])
  service viewer query page

namespace Index

def satisfying (index : Index) (clause : Clause) : List Issue → Except SearchError (List Issue)
  | [] => .ok []
  | issue :: issues => do
    let hit ← index.satisfies issue clause
    let others ← index.satisfying clause issues
    return if hit then issue :: others else others

def hits (index : Index) (query : Query) (issues : List Issue) : Except SearchError (List Issue) :=
  match query.clause with
  | none => .ok issues
  | some clause => index.satisfying clause issues

def sortValues (index : Index) (keys : List SortKey) (issue : Issue) :
    Except SearchError (List (Option FieldValue)) :=
  keys.mapM fun key => do return (← index.valuesOf issue key.field).head?

def arranged (index : Index) (keys : List SortKey) (hits : List Issue) :
    Except SearchError (List Issue) := do
  let keyed ← hits.mapM fun issue => do return (← index.sortValues keys issue, issue)
  return (keyed.mergeSort fun a b => (compareKeys keys a.1 b.1).isLE).map (·.2)

def search (index : Index) (viewer : Viewer) (query : Query) (page : Page) :
    Except SearchError SearchResults := do
  let hits ← index.hits query (index.visibleIssues viewer)
  let hits ← if query.orderBy.isEmpty then pure hits else index.arranged query.orderBy hits
  return ⟨page.select hits, hits.length⟩

end Index

end IssueFilter
