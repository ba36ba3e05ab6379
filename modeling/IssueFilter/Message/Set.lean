/-! Distinct error and warning texts, kept in the order in which they were first added. The two
channels do not affect each other. -/
namespace IssueFilter

structure MessageSet where
  errors : List String
  warnings : List String
  deriving DecidableEq, Repr, Inhabited

namespace MessageSet

def empty : MessageSet := ⟨[], []⟩

/-- Puts a text at the end unless it is there already. -/
def insertText (texts : List String) (text : String) : List String :=
  if texts.contains text then texts else texts ++ [text]

def addError (messages : MessageSet) (text : String) : MessageSet :=
  { messages with errors := insertText messages.errors text }

def addWarning (messages : MessageSet) (text : String) : MessageSet :=
  { messages with warnings := insertText messages.warnings text }

/-- Adds the messages of the second set one by one. -/
def merge (messages added : MessageSet) : MessageSet :=
  added.warnings.foldl addWarning (added.errors.foldl addError messages)

def ofLists (errors warnings : List String) : MessageSet :=
  warnings.foldl addWarning (errors.foldl addError empty)

def hasErrors (messages : MessageSet) : Bool := !messages.errors.isEmpty

def hasMessages (messages : MessageSet) : Bool := messages.hasErrors || !messages.warnings.isEmpty

def summary (messages : MessageSet) : String := "; ".intercalate messages.errors

end MessageSet

end IssueFilter
