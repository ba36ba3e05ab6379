import IssueFilter.Config.Basic
import IssueFilter.Failure
import IssueFilter.Function.Basic
import IssueFilter.Message.Catalog
import IssueFilter.Query.Parser

/-! The function that stands for the issues a sub-query finds. Its first argument is the text of the
sub-query; the others name projects, by id or by key. Two identities play a part: a call is
validated and sanitised for the viewer of the filter, while the sub-query is searched on behalf of
whoever the configuration says. -/
namespace IssueFilter

/-- What the function talks to. -/
structure Host (m : Type → Type) where
  parse : QueryParser
  search : SearchService m
  projectById? : UInt64 → Option Project
  projectByKey? : String → Option Project
  canBrowse : Viewer → Project → Bool
  loggedIn : m Viewer
  catalog : Catalog

/-- The index as the host: sub-queries are written in the filter language and searched in the index. -/
def Index.host {m : Type → Type} [Monad m] (index : Index) (loggedIn : m Viewer)
    (catalog : Catalog) : Host m where
  parse := Query.parse
  search viewer query page := pure (index.search viewer query page)
  projectById? := index.projectById?
  projectByKey? := index.projectByKey?
  canBrowse viewer project := index.canBrowse viewer project.id
  loggedIn := loggedIn
  catalog := catalog

namespace SubQuery

def minimumArguments : Nat := 1

section

variable {m : Type → Type} (host : Host m) (config : FunctionConfig)

def compile (call : Call) : Except CompileError Query :=
  match call.args with
  | [] => .error (.wrongArgumentCount call.name minimumArguments)
  | text :: _ =>
    match host.parse text with
    | .ok query => .ok query
    | .error e => .error (.malformedQuery text e)

/-- A numeral is the id of a project and everything else its key. -/
def resolveProject (argument : String) : Option Project :=
  match Numeral.ofText? argument with
  | some id => host.projectById? id
  | none => host.projectByKey? argument

def checkArgument (viewer : Viewer) (argument : String) : Except CompileError Project :=
  match resolveProject host argument with
  | some project =>
    if host.canBrowse viewer project then .ok project else .error (.unknownProject argument)
  | none => .error (.unknownProject argument)

def messageFor : CompileError → String
  | .wrongArgumentCount function expected =>
    host.catalog.message .badArgumentCount [function, toString expected]
  | .malformedQuery query source =>
    host.catalog.message .malformedSubQuery [query, source.message]
  | .unknownProject argument => host.catalog.message .projectNotFound [argument]

/-- Notes what is wrong with a project argument in the channel that the policy asks for. -/
def noteArgument (viewer : Viewer) (messages : MessageSet) (argument : String) : MessageSet :=
  match checkArgument host viewer argument with
  | .ok _ => messages
  | .error e =>
    match config.projectArguments with
    | .ignore => messages
    | .warn => messages.addWarning (messageFor host e)
    | .strict => messages.addError (messageFor host e)

/-- Project arguments are looked at only if there is a sub-query to go with them. -/
def check (viewer : Viewer) (call : Call) : MessageSet :=
  match compile host call with
  | .ok _ => (call.args.drop 1).foldl (noteArgument host config viewer) .empty
  | .error e => MessageSet.empty.addError (messageFor host e)

/-- The argument to show to a viewer, if it has to be another: a key of a project that the viewer
may not browse gives way to the id of the project. -/
def sanitiseArgument (viewer : Viewer) (argument : String) : Option String :=
  match host.projectByKey? argument with
  | some project =>
    if host.canBrowse viewer project then none else some (Numeral.text project.id)
  | none => none

/-- The sub-query itself is never touched. -/
def sanitise (viewer : Viewer) (call : Call) : Option Call :=
  match call.args with
  | [] => none
  | text :: arguments =>
    let replacements := arguments.map (sanitiseArgument host viewer)
    if replacements.any Option.isSome then
      some (call.withArgs (text :: arguments.zipWith (fun a r => r.getD a) replacements))
    else none

variable [Monad m]

/-- On whose behalf the sub-query of a filter compiled for the viewer is searched. -/
def runtimeIdentity (viewer : Viewer) : m Viewer :=
  match config.evaluateAs with
  | .session => host.loggedIn
  | .context => pure viewer

/-- The ids of the issues that the sub-query finds, in the order of the search, or the reason why
there are none. -/
def tryValues (viewer : Viewer) (call : Call) : m (Except FunctionError (List CallValue)) :=
  match compile host call with
  | .error e => return .error (.compile e)
  | .ok query => do
    let user ← runtimeIdentity host config viewer
    match ← host.search user query .unlimited with
    | .error e => return .error (.execution e)
    | .ok results => return .ok (results.issues.map fun issue => ⟨call, .number issue.id⟩)

/-- A sub-query that cannot be evaluated stands for no issue. -/
def values (viewer : Viewer) (call : Call) : m (List CallValue) := do
  match ← tryValues host config viewer call with
  | .ok values => return values
  | .error _ => return []

def function : FilterFunction m where
  name := config.name
  minimumArguments := minimumArguments
  dataType := .issue
  validate viewer call _ := pure (check host config viewer call)
  values viewer call _ := values host config viewer call
  sanitise? := some fun viewer call => pure (sanitise host viewer call)

end

end SubQuery

end IssueFilter
