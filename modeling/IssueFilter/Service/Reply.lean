import IssueFilter.Failure
import IssueFilter.Json.Basic
import IssueFilter.Query.Printer
import IssueFilter.Search.Basic

/-! Replies of the service. -/
namespace IssueFilter

inductive Status where
  | ok
  | badRequest
  | internalServerError
  deriving DecidableEq, Repr

def Status.code : Status → Nat
  | ok => 200
  | badRequest => 400
  | internalServerError => 500

structure IssueSummary where
  id : UInt64
  key : String
  summary : String
  status : String
  deriving DecidableEq, Repr

def Issue.toSummary (issue : Issue) : IssueSummary :=
  ⟨issue.id, issue.key, issue.summary, issue.status⟩

structure ReplyBody where
  succeeded : Bool
  filter : Option String := none
  total : Option Nat := none
  issues : Option (List IssueSummary) := none
  errors : List String := []
  warnings : List String := []
  deriving DecidableEq, Repr

structure Reply where
  status : Status
  body : ReplyBody
  deriving DecidableEq, Repr

namespace Reply

/-- A failure is the fault of the request unless data or configuration are broken. -/
def statusOf : Failure → Status
  | .parse _ | .validation _ | .search _ => .badRequest
  | .config _ | .seed _ | .io _ => .internalServerError

def errorsOf : Failure → List String
  | .validation messages => messages.errors
  | failure => [failure.message]

def ofFailure (failure : Failure) : Reply :=
  ⟨statusOf failure, { succeeded := false, errors := errorsOf failure }⟩

def ofMessages (messages : MessageSet) : Reply where
  status := .ok
  body :=
    { succeeded := !messages.hasErrors, errors := messages.errors, warnings := messages.warnings }

/-- A query that may be shown, as its canonical text. -/
def ofQuery (query : Query) : Reply := ⟨.ok, { succeeded := true, filter := some query.text }⟩

def ofResults (results : SearchResults) : Reply where
  status := .ok
  body :=
    { succeeded := true, total := some results.total,
      issues := some (results.issues.map Issue.toSummary) }

end Reply

namespace ReplyBody

def word (body : ReplyBody) : String := if body.succeeded then "ok" else "error"

/-- Absent parts and empty lists of messages are left out. -/
def toMembers (body : ReplyBody) : List (String × Json) :=
  let summary (s : IssueSummary) : Json := .obj
    [("id", .nat s.id.toNat), ("key", .str s.key), ("summary", .str s.summary),
      ("status", .str s.status)]
  let texts (name : String) (texts : List String) :=
    if texts.isEmpty then [] else [(name, Json.arr (texts.map .str))]
  ("status", .str body.word) ::
    ((body.filter.toList.map fun text => ("jql", .str text)) ++
      (body.total.toList.map fun n => ("total", .nat n)) ++
      (body.issues.toList.map fun issues => ("issues", .arr (issues.map summary))) ++
      texts "errors" body.errors ++ texts "warnings" body.warnings)

def toJson (body : ReplyBody) : Json := .obj body.toMembers

end ReplyBody

end IssueFilter
