import IssueFilter.Text.Numeral

/-! The texts shown to users. What a catalog says under a key is up to the catalog. The default one
fills a template, its own or one that replaces it; a key that it does not know is shown as it is, so
that the problem stays visible. -/
namespace IssueFilter

/-! Templates are texts with numbered placeholders: digits in braces stand for the argument of that
number, counted from zero. A template is read once from left to right, so what an argument brings in
is never taken for a placeholder, and a placeholder without an argument stays as it is. -/
namespace Template

/-- What stands for a placeholder with these digits. -/
def expansion (args : List String) (digits : List Char) : List Char :=
  match (Numeral.unsigned? digits).bind (args[·.toNat]?) with
  | some arg => arg.toList
  | none => '\x7b' :: (digits ++ ['\x7d'])

/-- Fills in a template. `pending` holds the digits, last one first, that were read since an opening
brace which may begin a placeholder. -/
def fillFrom (args : List String) : (pending : Option (List Char)) → List Char → List Char
  | none, [] => []
  | some digits, [] => '\x7b' :: digits.reverse
  | none, c :: rest =>
    if c = '\x7b' then fillFrom args (some []) rest else c :: fillFrom args none rest
  | some digits, c :: rest =>
    if c.isDigit then fillFrom args (some (c :: digits)) rest
    else if c = '\x7d' ∧ digits ≠ [] then
      expansion args digits.reverse ++ fillFrom args none rest
    else if c = '\x7b' then '\x7b' :: (digits.reverse ++ fillFrom args (some []) rest)
    else '\x7b' :: (digits.reverse ++ c :: fillFrom args none rest)

def fill (template : String) (args : List String) : String :=
  String.ofList (fillFrom args none template.toList)

end Template

inductive Message where
  | badArgumentCount
  | malformedSubQuery
  | projectNotFound
  | functionUnknown
  | functionIncompatible
  deriving DecidableEq, Repr

namespace Message

def key : Message → String
  | badArgumentCount => "issuesfunc.bad.num.arguments"
  | malformedSubQuery => "issuesfunc.validate.query"
  | projectNotFound => "issuesfunc.project.not.found"
  | functionUnknown => "issuesfunc.function.unknown"
  | functionIncompatible => "issuesfunc.function.incompatible"

def template : Message → String
  | badArgumentCount =>
    "Incorrect number of arguments for function '\x7b0\x7d'. Expected at least \x7b1\x7d."
  | malformedSubQuery => "The sub-query '\x7b0\x7d' is not a valid query: \x7b1\x7d"
  | projectNotFound =>
    "The project '\x7b0\x7d' does not exist or you do not have permission to browse it."
  | functionUnknown => "Unable to find a function named '\x7b0\x7d'."
  | functionIncompatible =>
    "Function '\x7b0\x7d' produces \x7b1\x7d values and cannot be used with field '\x7b2\x7d'."

def all : List Message :=
  [badArgumentCount, malformedSubQuery, projectNotFound, functionUnknown, functionIncompatible]

end Message

/-- Whatever makes texts of keys and arguments. -/
structure Catalog where
  text : String → List String → String

def Catalog.message (catalog : Catalog) (message : Message) (args : List String) : String :=
  catalog.text message.key args

/-- The built-in texts, with some of them replaced by others, by message key. -/
structure DefaultCatalog where
  overrides : List (String × String)
  deriving DecidableEq, Repr, Inhabited

namespace DefaultCatalog

def template? (texts : DefaultCatalog) (key : String) : Option String :=
  (texts.overrides.lookup key).or ((Message.all.find? (·.key == key)).map Message.template)

def text (texts : DefaultCatalog) (key : String) (args : List String) : String :=
  match texts.template? key with
  | some template => Template.fill template args
  | none => key

def catalog (texts : DefaultCatalog) : Catalog := ⟨texts.text⟩

end DefaultCatalog

def Catalog.builtIn : Catalog := DefaultCatalog.catalog ⟨[]⟩

end IssueFilter
