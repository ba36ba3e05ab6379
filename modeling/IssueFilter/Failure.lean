import IssueFilter.Message.Set
import IssueFilter.Query.ParseError
import IssueFilter.Text.Numeral

/-! Everything that can go wrong, as the host of the filter functions reports it. -/
namespace IssueFilter

/-- Why data cannot be taken into an index. -/
inductive SeedError where
  | duplicateProject (key : String) (id : UInt64)
  | unknownProjectOfIssue (issueKey : String) (projectId : UInt64)
  | duplicateIssue (id : UInt64)
  | unknownProject (key : String)
  | noGrants (key : String)
  /-- The data could not be read at all. -/
  | unreadable (reason : String)
  deriving DecidableEq, Repr

def SeedError.message : SeedError → String
  | duplicateProject key id => "Duplicate project " ++ key ++ " (" ++ Numeral.text id ++ ")"
  | unknownProjectOfIssue issueKey projectId =>
    "Issue " ++ issueKey ++ " refers to unknown project " ++ Numeral.text projectId
  | duplicateIssue id => "Duplicate issue id " ++ Numeral.text id
  | unknownProject key => "Unknown project " ++ key
  | noGrants key => "No grants kept for project " ++ key
  | unreadable reason => reason

/-- Why a query cannot be evaluated. -/
inductive SearchError where
  | unknownField (field : String)
  | invalidValue (field value : String)
  | unsupportedOperator (field operator : String)
  | unresolvedFunction (name : String)
  /-- The search itself broke down. -/
  | backend (reason : String)
  deriving DecidableEq, Repr

def SearchError.message : SearchError → String
  | unknownField field =>
    "Field '" ++ field ++ "' does not exist or you do not have permission to view it"
  | invalidValue field value => "Value '" ++ value ++ "' is not valid for field '" ++ field ++ "'"
  | unsupportedOperator field operator =>
    "Operator '" ++ operator ++ "' is not supported for field '" ++ field ++ "'"
  | unresolvedFunction name =>
    "Function '" ++ name ++ "' was not resolved before the query reached the index"
  | backend reason => "Search failed: " ++ reason

inductive CompileError where
  | wrongArgumentCount (function : String) (expected : Nat)
  | malformedQuery (query : String) (source : ParseError)
  | unknownProject (argument : String)
  deriving DecidableEq, Repr

def CompileError.message : CompileError → String
  | wrongArgumentCount function expected =>
    "Function '" ++ function ++ "' expects at least " ++ toString expected ++ " argument(s)"
  | malformedQuery query source => "Sub-query '" ++ query ++ "' is malformed: " ++ source.message
  | unknownProject argument => "Project '" ++ argument ++ "' does not exist or cannot be browsed"

inductive FunctionError where
  | compile (e : CompileError)
  | execution (e : SearchError)
  deriving DecidableEq, Repr

def FunctionError.message : FunctionError → String
  | compile e => e.message
  | execution e => e.message

inductive Failure where
  | config (reason : String)
  | seed (e : SeedError)
  | parse (e : ParseError)
  | search (e : SearchError)
  | validation (messages : MessageSet)
  | io (reason : String)
  deriving DecidableEq, Repr

def Failure.message : Failure → String
  | config reason => "Config error: " ++ reason
  | seed e => "Seed error: " ++ e.message
  | parse e => "Parse error: " ++ e.message
  | search e => "Search error: " ++ e.message
  | validation messages => "Validation failed: " ++ messages.summary
  | io reason => "I/O error: " ++ reason

end IssueFilter
