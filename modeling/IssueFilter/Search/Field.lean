import IssueFilter.Index.Basic

/-! The fields of an issue that a filter can ask for, and the values they have. A field may have
several values, or none. -/
namespace IssueFilter

inductive Field where
  | issue | project | summary | status | kind | priority | assignee | reporter | labels | created
  deriving DecidableEq, Repr

namespace Field

def names : List (String × Field) :=
  [("issue", issue), ("issuekey", issue), ("key", issue), ("id", issue), ("project", project),
    ("summary", summary), ("status", status), ("type", kind), ("issuetype", kind),
    ("priority", priority), ("assignee", assignee), ("reporter", reporter), ("labels", labels),
    ("created", created)]

def ofName? (name : String) : Option Field := names.lookup (Ascii.lower name)

end Field

inductive FieldValue where
  | number (n : UInt64)
  | text (s : String)
  | date (d : Date)
  deriving DecidableEq, Repr

/-- Numbers come before texts and texts before dates. -/
instance : Ord FieldValue where
  compare
    | .number a, .number b => compare a b
    | .number _, .text _ | .number _, .date _ | .text _, .date _ => .lt
    | .text _, .number _ | .date _, .number _ | .date _, .text _ => .gt
    | .text a, .text b => compare a b
    | .date a, .date b => compare a b

/-- The values of a field. An issue answers to its number and its key, a project to its number, its
key and its name. -/
def Index.fieldValues (index : Index) (issue : Issue) : Field → List FieldValue
  | .issue => [.number issue.id, .text issue.key]
  | .project =>
    match index.projects.get? issue.projectId with
    | some project => [.number project.id, .text project.key, .text project.name]
    | none => []
  | .summary => [.text issue.summary]
  | .status => [.text issue.status]
  | .kind => [.text issue.kind]
  | .priority => issue.priority.toList.map .text
  | .assignee => issue.assignee.toList.map .text
  | .reporter => issue.reporter.toList.map .text
  | .labels => issue.labels.map .text
  | .created => [.date issue.created]

end IssueFilter
