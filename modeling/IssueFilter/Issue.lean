import IssueFilter.Date

/-! Issues, the projects they belong to, and who looks at them. -/
namespace IssueFilter

/-- On whose behalf something is done: a user, known by a key, or nobody in particular. -/
inductive Viewer where
  | anonymous
  | user (key : String)
  deriving DecidableEq, Repr, Inhabited

def Viewer.ofKey? : Option String → Viewer
  | none => anonymous
  | some key => user key

structure Project where
  id : UInt64
  key : String
  name : String
  deriving DecidableEq, Repr, Inhabited

structure Issue where
  id : UInt64
  key : String
  projectId : UInt64
  summary : String
  status : String
  kind : String
  priority : Option String
  assignee : Option String
  reporter : Option String
  labels : List String
  created : Date
  deriving DecidableEq, Repr

end IssueFilter
