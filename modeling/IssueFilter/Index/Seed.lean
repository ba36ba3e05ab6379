import IssueFilter.Index.Basic

/-! Seeds: the whole content of an index at once. Projects come before issues, and each project
brings its grants along. -/
namespace IssueFilter

structure SeedProject where
  id : UInt64
  key : String
  name : String
  isPublic : Bool
  /-- The users who may browse it in any case. -/
  browsers : List String
  deriving DecidableEq, Repr

structure Seed where
  projects : List SeedProject
  issues : List Issue
  deriving DecidableEq, Repr

namespace Index

def addSeedProject (p : SeedProject) : Update Unit := do
  addProject ⟨p.id, p.key, p.name⟩
  if p.isPublic then grantBrowseToAnyone p.key
  p.browsers.forM fun user => grantBrowse p.key user

def addSeed (seed : Seed) : Update Unit := do
  seed.projects.forM addSeedProject
  seed.issues.forM addIssue

/-- The index with this content, or the first thing that is wrong with it. -/
def ofSeed (seed : Seed) : Except SeedError Index :=
  match (addSeed seed).run.run empty with
  | (.ok (), index) => .ok index
  | (.error e, _) => .error e

end Index

end IssueFilter
