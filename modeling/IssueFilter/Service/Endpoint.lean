import IssueFilter.Function.SubQuery
import IssueFilter.Json.Decode
import IssueFilter.Runner
import IssueFilter.Service.Reply
import IssueFilter.Session

/-! Requests and the three endpoints of the service that answer them. Each endpoint serves a request
as the user who sends it, and leaves the thread to the user it found there. -/
namespace IssueFilter

/-- A filter text, the user who sends it, and the wanted page. -/
structure Request where
  filter : String
  viewer : Viewer
  page : Page
  deriving DecidableEq, Repr

namespace Request

structure Draft where
  filter : Option String := none
  user : Option String := none
  start : UInt64 := 0
  max : Option UInt64 := none

open Json (member asString asNatural asOptional asRecord)

/-- Only the filter has to be there. -/
def ofJson : Json → Except Json.Fault Request :=
  asRecord
    [member "jql" asString fun v (d : Draft) => { d with filter := some v },
      member "user" (asOptional asString) fun v d => { d with user := v },
      member "start" asNatural fun v d => { d with start := v },
      member "max_results" (asOptional asNatural) fun v d => { d with max := v }]
    {} fun d => do
      return ⟨← d.filter, .ofKey? d.user, ⟨d.start.toNat, d.max.map UInt64.toNat⟩⟩

end Request

inductive Endpoint where
  | validate
  | sanitise
  | search
  deriving DecidableEq, Repr

/-- The texts that the configuration replaces, and the built-in ones for the others. -/
def Config.catalog (config : Config) : Catalog := DefaultCatalog.catalog ⟨config.messages⟩

/-- The runner that serves requests: its one function is the sub-query function, which takes the
user of the thread for the user of the session. -/
def Runner.ofIndex (config : Config) (index : Index) : Runner OnThread :=
  let host := index.host Session.current config.catalog
  ⟨Query.parse, host.search, host.catalog,
    Registry.empty.register (SubQuery.function host config.function)⟩

theorem Runner.find?_ofIndex (config : Config) (index : Index) (name : String) :
    (Runner.ofIndex config index).registry.find? name =
      if Lowercase.text name = Lowercase.text config.function.name then
        some (SubQuery.function (index.host Session.current config.catalog) config.function)
      else none := by
  simp only [Runner.ofIndex, Registry.find?_register, Registry.find?_empty, SubQuery.function]

namespace Endpoint

variable (runner : Runner OnThread)

def validated (request : Request) : OnThread Reply :=
  match runner.parse request.filter with
  | .error e => return .ofFailure (.parse e)
  | .ok query => do return .ofMessages (← runner.validate request.viewer query)

def sanitised (request : Request) : OnThread Reply :=
  match runner.parse request.filter with
  | .error e => return .ofFailure (.parse e)
  | .ok query => do return .ofQuery (← runner.sanitise request.viewer query)

def searched (request : Request) : OnThread Reply := do
  match ← runner.run request.viewer request.filter request.page with
  | .error failure => return .ofFailure failure
  | .ok results => return .ofResults results

def answer (endpoint : Endpoint) (request : Request) : OnThread Reply :=
  match endpoint with
  | validate => validated runner request
  | sanitise => sanitised runner request
  | search => searched runner request

def handle (endpoint : Endpoint) (request : Request) : OnThread Reply :=
  Session.within request.viewer (endpoint.answer runner request)

end Endpoint

end IssueFilter
