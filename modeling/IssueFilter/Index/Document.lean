import IssueFilter.Index.Seed
import IssueFilter.Json.Decode
import IssueFilter.Json.Writer

/-! Projects, issues and seeds as JSON documents. -/
namespace IssueFilter

open Json (member asString asNatural asBool asOptional asList asRecord)

namespace Project

structure Draft where
  id : Option UInt64 := none
  key : Option String := none
  name : Option String := none

def ofJson : Json → Except Json.Fault Project :=
  asRecord
    [member "id" asNatural fun v (d : Draft) => { d with id := some v },
      member "key" asString fun v d => { d with key := some v },
      member "name" asString fun v d => { d with name := some v }]
    {} fun d => do return ⟨← d.id, ← d.key, ← d.name⟩

def toJson (project : Project) : Json :=
  .obj [("id", .nat project.id.toNat), ("key", .str project.key), ("name", .str project.name)]

end Project

namespace Issue

structure Draft where
  id : Option UInt64 := none
  key : Option String := none
  projectId : Option UInt64 := none
  summary : Option String := none
  status : Option String := none
  kind : String := "Task"
  priority : Option String := none
  assignee : Option String := none
  reporter : Option String := none
  labels : List String := []
  created : Option Date := none

def dateOfJson (v : Json) : Except Json.Fault Date := do
  match Date.parseLoosely? (← asString v) with
  | some date => return date
  | none => throw .mismatched

/-- An issue whose kind is not given is a task. -/
def ofJson : Json → Except Json.Fault Issue :=
  asRecord
    [member "id" asNatural fun v (d : Draft) => { d with id := some v },
      member "key" asString fun v d => { d with key := some v },
      member "project_id" asNatural fun v d => { d with projectId := some v },
      member "summary" asString fun v d => { d with summary := some v },
      member "status" asString fun v d => { d with status := some v },
      member "type" asString fun v d => { d with kind := v },
      member "priority" (asOptional asString) fun v d => { d with priority := v },
      member "assignee" (asOptional asString) fun v d => { d with assignee := v },
      member "reporter" (asOptional asString) fun v d => { d with reporter := v },
      member "labels" (asList asString) fun v d => { d with labels := v },
      member "created" dateOfJson fun v d => { d with created := some v }]
    {} fun d => do
      return ⟨← d.id, ← d.key, ← d.projectId, ← d.summary, ← d.status, d.kind, d.priority,
        d.assignee, d.reporter, d.labels, ← d.created⟩

def toJson (issue : Issue) : Json :=
  .obj
    [("id", .nat issue.id.toNat), ("key", .str issue.key),
      ("project_id", .nat issue.projectId.toNat),
      ("summary", .str issue.summary), ("status", .str issue.status), ("type", .str issue.kind),
      ("priority", .nullable .str issue.priority), ("assignee", .nullable .str issue.assignee),
      ("reporter", .nullable .str issue.reporter), ("labels", .arr (issue.labels.map .str)),
      ("created", .str issue.created.text)]

end Issue

namespace SeedProject

structure Draft where
  id : Option UInt64 := none
  key : Option String := none
  name : Option String := none
  isPublic : Bool := false
  browsers : List String := []

def ofJson : Json → Except Json.Fault SeedProject :=
  asRecord
    [member "id" asNatural fun v (d : Draft) => { d with id := some v },
      member "key" asString fun v d => { d with key := some v },
      member "name" asString fun v d => { d with name := some v },
      member "public" asBool fun v d => { d with isPublic := v },
      member "browsers" (asList asString) fun v d => { d with browsers := v }]
    {} fun d => do return ⟨← d.id, ← d.key, ← d.name, d.isPublic, d.browsers⟩

end SeedProject

namespace Seed

def ofJson : Json → Except Json.Fault Seed :=
  asRecord
    [member "projects" (asList SeedProject.ofJson) fun v (s : Seed) => { s with projects := v },
      member "issues" (asList Issue.ofJson) fun v s => { s with issues := v }]
    ⟨[], []⟩ some

end Seed

def Index.ofDocument (text : String) : Except SeedError Index :=
  match Json.decode Seed.ofJson text with
  | .ok seed => Index.ofSeed seed
  | .error _ => .error (.unreadable "The seed is not a JSON document of the expected shape")

end IssueFilter
