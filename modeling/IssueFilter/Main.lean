import IssueFilter.Config.Load
import IssueFilter.Http.Exchange
import IssueFilter.Index.Document
import IssueFilter.Json.Writer

/-! The service as a program. It is configured by a file and by the environment, fills its index
from a seed file, and then answers one request per line of the standard input: the path of an
endpoint, a blank, and the JSON body. -/
namespace IssueFilter.Program

def defaultFile : String := "issuefunc.toml"

/-- The content of a file, or nothing if there is no such file. -/
def readIfPresent (path : String) : IO (Option String) := do
  try return some (← IO.FS.readFile path) catch e =>
    match e with
    | .noFileOrDirectory .. => return none
    | e => throw e

def ofAssignment? (assignment : String) : Option (String × String) :=
  match assignment.splitOn "=" with
  | name :: value :: more => some (name, "=".intercalate (value :: more))
  | _ => none

def environment : IO (List (String × String)) := do
  match ← readIfPresent "/proc/self/environ" with
  | some text => return (text.splitOn "\x00").filterMap ofAssignment?
  | none => return []

def orThrow {α : Type} : Except Failure α → IO α
  | .ok a => return a
  | .error failure => throw (.userError failure.message)

def loadConfig (file : String) : IO Config := do
  orThrow (Config.load (← readIfPresent file) (← environment))

def loadIndex (config : Config) : IO Index := do
  match config.server.seed with
  | none => return .empty
  | some file => orThrow ((Index.ofDocument (← IO.FS.readFile file)).mapError .seed)

def request (line : String) : Http.Request :=
  let target := line.toList.takeWhile (· ≠ ' ')
  { method := "POST", target := String.ofList target,
    headers := [("content-type", "application/json")],
    body := String.ofList (line.toList.drop (target.length + 1)) }

def milliseconds (nanoseconds : Nat) : Json :=
  let digits := (Nat.toDigits 10 (nanoseconds % 1000000)).leftpad 6 '0'
  .number ⟨false, Nat.toDigits 10 (nanoseconds / 1000000), some digits, none⟩

/-- The line for a response: its status, and its body with the time it took. -/
def line (response : Http.Response) (nanoseconds : Nat) : String :=
  match response.body with
  | none => toString response.status
  | some body =>
    let timed := Json.obj (body.toMembers ++ [("elapsed_ms", milliseconds nanoseconds)])
    toString response.status ++ " " ++ timed.text

partial def serve (runner : Runner OnThread) (input output : IO.FS.Stream) : IO Unit := do
  let text ← input.getLine
  if text.isEmpty then return
  let start ← IO.monoNanosNow
  let (response, _) := (Http.respond runner (request text.trimAsciiEnd.copy)).run .anonymous
  output.putStrLn (line response ((← IO.monoNanosNow) - start))
  output.flush
  serve runner input output

end IssueFilter.Program

/-- Takes the name of a configuration file. -/
def main (args : List String) : IO Unit := do
  let config ← IssueFilter.Program.loadConfig (args.headD IssueFilter.Program.defaultFile)
  let index ← IssueFilter.Program.loadIndex config
  IssueFilter.Program.serve (.ofIndex config index) (← IO.getStdin) (← IO.getStdout)
