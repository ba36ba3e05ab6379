/-! What can be configured. -/
namespace IssueFilter

/-- What becomes of a project argument that names no project the viewer may browse. -/
inductive ProjectArgumentPolicy where
  | ignore
  | warn
  | strict
  deriving DecidableEq, Repr, Inhabited

/-- Who evaluates a sub-query: the user of the current session, or the viewer the filter was
compiled for. -/
inductive IdentitySource where
  | session
  | context
  deriving DecidableEq, Repr, Inhabited

structure FunctionConfig where
  name : String := "issuesInQuery"
  projectArguments : ProjectArgumentPolicy := .warn
  evaluateAs : IdentitySource := .session
  deriving DecidableEq, Repr, Inhabited

structure ServerConfig where
  bind : String := "127.0.0.1:8095"
  seed : Option String := none
  deriving DecidableEq, Repr, Inhabited

structure Config where
  function : FunctionConfig := {}
  server : ServerConfig := {}
  /-- Texts that replace built-in messages, by message key. -/
  messages : List (String × String) := []
  deriving DecidableEq, Repr, Inhabited

def ProjectArgumentPolicy.name : ProjectArgumentPolicy → String
  | ignore => "ignore"
  | warn => "warn"
  | strict => "strict"

def ProjectArgumentPolicy.ofName? : String → Option ProjectArgumentPolicy
  | "ignore" => some ignore
  | "warn" => some warn
  | "strict" => some strict
  | _ => none

def IdentitySource.name : IdentitySource → String
  | session => "session"
  | context => "context"

def IdentitySource.ofName? : String → Option IdentitySource
  | "session" => some session
  | "context" => some context
  | _ => none

end IssueFilter
