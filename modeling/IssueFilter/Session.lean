import IssueFilter.Issue

/-! The user logged in on a thread. While a request is served its user is entered; leaving with the
ticket that entering gave brings back whoever was there before. -/
namespace IssueFilter

/-- Computations on a thread, which always has a current user. -/
abbrev OnThread := StateM Viewer

structure Ticket where
  previous : Viewer
  deriving DecidableEq, Repr

namespace Session

def current : OnThread Viewer := get

def enter (viewer : Viewer) : OnThread Ticket := do
  let previous ← get
  set viewer
  return ⟨previous⟩

def leave (ticket : Ticket) : OnThread Unit := set ticket.previous

def within {α : Type} (viewer : Viewer) (action : OnThread α) : OnThread α := do
  let ticket ← enter viewer
  let a ← action
  leave ticket
  return a

end Session

end IssueFilter
