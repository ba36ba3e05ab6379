import IssueFilter.Message.Set
import IssueFilter.Query.Basic
import IssueFilter.Search.Basic
import IssueFilter.Text.Ascii

/-! Functions that a filter can call. A call is validated when the filter is compiled, evaluated
when it is executed, and sanitised before a filter compiled for one viewer is shown to another.
None of the three can fail: validation answers with messages, and evaluation with no values. What a
function does besides answering is an effect in `m`. -/
namespace IssueFilter

inductive DataType where
  | issue
  deriving DecidableEq, Repr

namespace DataType

def name : DataType → String
  | issue => "issue"

/-- Whether a field of that name holds values of the kind. -/
def fits (type : DataType) (field : String) : Bool :=
  match type with
  | issue => ["issue", "issuekey", "key", "id"].contains (Ascii.lower field)

end DataType

/-- A value that a call stands for, with the call it came from. -/
structure CallValue where
  source : Call
  value : Literal
  deriving DecidableEq, Repr

def CallValue.id? (value : CallValue) : Option UInt64 := value.value.asNumber?

structure FilterFunction (m : Type → Type) where
  name : String
  minimumArguments : Nat
  dataType : DataType
  /-- What is to be said about a call in a filter that the viewer writes. -/
  validate : Viewer → Call → Condition → m MessageSet
  /-- What a call stands for in a filter that was compiled for the viewer. -/
  values : Viewer → Call → Condition → m (List CallValue)
  /-- The call to show to a viewer instead of the given one, if it has to be another. -/
  sanitise? : Option (Viewer → Call → m (Option Call))

end IssueFilter
