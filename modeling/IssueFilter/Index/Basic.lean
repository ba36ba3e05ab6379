import IssueFilter.Failure
import IssueFilter.Issue
import IssueFilter.Table
import IssueFilter.Text.Ascii

/-! The index: projects, who may browse them, and their issues. Project keys are kept in upper
case, and looking one up ignores the case of ASCII letters. An index is changed in place: a change
goes through its collections one after the other, and may fail on the way. -/
namespace IssueFilter

structure Grant where
  anyone : Bool
  users : List String
  deriving DecidableEq, Repr, Inhabited

def Grant.allows (grant : Grant) : Viewer → Bool
  | .anonymous => grant.anyone
  | .user key => grant.anyone || grant.users.contains key

structure Index where
  keys : Table String UInt64
  projects : Table UInt64 Project
  grants : Table UInt64 Grant
  /-- The issues in the order in which they were added. -/
  issues : List Issue
  issueIds : List UInt64
  byProject : Table UInt64 (List UInt64)
  deriving DecidableEq, Repr

namespace Index

def empty : Index := ⟨.empty, .empty, .empty, [], [], .empty⟩

/-- Changes of an index in place. What a change has done before it fails stays done. -/
abbrev Update := ExceptT SeedError (StateM Index)

/-- A project starts out without issues, and nobody may browse it. -/
def addProject (project : Project) : Update Unit := do
  let key := Ascii.upper project.key
  let index ← get
  if index.projects.contains project.id || index.keys.contains key then
    throw (.duplicateProject key project.id)
  modify fun index => { index with keys := index.keys.insert key project.id }
  modify fun index => { index with byProject := index.byProject.insert project.id [] }
  modify fun index => { index with grants := index.grants.insert project.id ⟨false, []⟩ }
  modify fun index =>
    { index with projects := index.projects.insert project.id { project with key } }

/-- Puts an id into the set of issue ids and tells whether it is new there. -/
def noteIssueId (id : UInt64) : Update Bool :=
  modifyGet fun index =>
    if index.issueIds.contains id then (false, index)
    else (true, { index with issueIds := id :: index.issueIds })

def addIssue (issue : Issue) : Update Unit := do
  match (← get).byProject.get? issue.projectId with
  | none => throw (.unknownProjectOfIssue issue.key issue.projectId)
  | some ids =>
    if ← noteIssueId issue.id then
      modify fun index =>
        { index with byProject := index.byProject.insert issue.projectId (issue.id :: ids) }
      modify fun index => { index with issues := index.issues ++ [issue] }
    else throw (.duplicateIssue issue.id)

def changeGrant (projectKey : String) (f : Grant → Grant) : Update Unit := do
  let index ← get
  match index.keys.get? (Ascii.upper projectKey) with
  | none => throw (.unknownProject projectKey)
  | some id =>
    match index.grants.get? id with
    | none => throw (.noGrants projectKey)
    | some grant => set { index with grants := index.grants.insert id (f grant) }

def grantBrowse (projectKey user : String) : Update Unit :=
  changeGrant projectKey fun grant => { grant with users := grant.users.insert user }

/-- From now on everybody may browse the project, anonymous viewers included. -/
def grantBrowseToAnyone (projectKey : String) : Update Unit :=
  changeGrant projectKey fun grant => { grant with anyone := true }

def size (index : Index) : Nat := index.issues.length

def isEmpty (index : Index) : Bool := index.issues.isEmpty

def projectById? (index : Index) (id : UInt64) : Option Project := index.projects.get? id

def projectByKey? (index : Index) (key : String) : Option Project :=
  (index.keys.get? (Ascii.upper key)).bind index.projects.get?

def canBrowse (index : Index) (viewer : Viewer) (projectId : UInt64) : Bool :=
  match index.grants.get? projectId with
  | some grant => grant.allows viewer
  | none => false

/-- The ids of the issues that the viewer may see, project by project. -/
def visibleIds (index : Index) (viewer : Viewer) : List UInt64 :=
  index.byProject.entries.flatMap fun (projectId, ids) =>
    if index.canBrowse viewer projectId then ids else []

/-- The issues that the viewer may see, in the order in which they were added. -/
def visibleIssues (index : Index) (viewer : Viewer) : List Issue :=
  let visible := index.visibleIds viewer
  index.issues.filter fun issue => visible.contains issue.id

end Index

/-! Changes as data, and the indexes that a run of changes leads to. -/

inductive Change where
  | addProject (project : Project)
  | addIssue (issue : Issue)
  | grantBrowse (projectKey user : String)
  | grantBrowseToAnyone (projectKey : String)
  deriving DecidableEq, Repr

def Change.perform : Change → Index.Update Unit
  | addProject project => Index.addProject project
  | addIssue issue => Index.addIssue issue
  | grantBrowse projectKey user => Index.grantBrowse projectKey user
  | grantBrowseToAnyone projectKey => Index.grantBrowseToAnyone projectKey

namespace Index

/-- What a change leaves behind, and whether it succeeded. -/
def step (index : Index) (change : Change) : Index × Except SeedError Unit :=
  (change.perform.run.run index).swap

def run (index : Index) (changes : List Change) : Index :=
  changes.foldl (fun index change => (index.step change).1) index

/-- An index that can come about: it is the outcome of some run of changes on the empty index. -/
def Reachable (index : Index) : Prop := ∃ changes, index = empty.run changes

end Index

end IssueFilter
