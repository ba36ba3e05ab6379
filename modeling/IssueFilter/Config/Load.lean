import IssueFilter.Config.Basic
import IssueFilter.Config.Setting
import IssueFilter.Failure
import IssueFilter.Text.Lowercase
import IssueFilter.Toml.Reader

/-! Configurations from their sources: the built-in settings, then a TOML document, then variables
of the environment. Settings that nobody asks for are ignored. -/
namespace IssueFilter.Config

def asText? : Setting → Option String
  | .word s | .scalar s => some s
  | .absent | .list _ | .table _ => none

def asOptional? {α : Type} (read : Setting → Option α) : Setting → Option (Option α)
  | .absent => some none
  | s => some <$> read s

/-- A setting that is one of several words. A table with a single entry stands for its name. -/
def asChoice? {α : Type} (ofName? : String → Option α) : Setting → Option α
  | .word s => ofName? s
  | .table [(name, _)] => ofName? name
  | _ => none

/-- The settings of a group by name. A list gives its items to the names in their order, and is not
asked for more than that. -/
def asGroup? (names : List String) : Setting → Option (List (String × Setting))
  | .table es => some es
  | .list items => some (names.zip items)
  | _ => none

/-- Reads a setting of a group, which has a default. -/
def read? {α : Type} (group : List (String × Setting)) (name : String) (read : Setting → Option α)
    (default : α) : Option α :=
  match group.lookup name with
  | none => some default
  | some s => read s

def functionOf? (s : Setting) : Option FunctionConfig := do
  let es ← asGroup? ["name", "project_arguments", "evaluate_as"] s
  let default : FunctionConfig := {}
  return {
    name := ← read? es "name" asText? default.name
    projectArguments := ← read? es "project_arguments" (asChoice? ProjectArgumentPolicy.ofName?)
      default.projectArguments
    evaluateAs := ← read? es "evaluate_as" (asChoice? IdentitySource.ofName?) default.evaluateAs }

def serverOf? (s : Setting) : Option ServerConfig := do
  let es ← asGroup? ["bind", "seed"] s
  let default : ServerConfig := {}
  return {
    bind := ← read? es "bind" asText? default.bind
    seed := ← read? es "seed" (asOptional? asText?) default.seed }

def messagesOf? : Setting → Option (List (String × String))
  | .table es => es.mapM fun (key, text) => return (key, ← asText? text)
  | _ => none

def ofSetting (s : Setting) : Except Failure Config :=
  let es := s.entries
  let config? := do
    return {
      function := ← read? es "function" functionOf? {}
      server := ← read? es "server" serverOf? {}
      messages := ← read? es "messages" messagesOf? [] }
  match config? with
  | some config => .ok config
  | none => .error (.config "A setting is not of the expected kind")

def builtIn : Setting :=
  let default : Config := {}
  .table
    [("function", .table
      [("name", .word default.function.name),
        ("project_arguments", .word default.function.projectArguments.name),
        ("evaluate_as", .word default.function.evaluateAs.name)]),
      ("server", .table [("bind", .word default.server.bind)])]

def settingsOf (document : String) : Except Failure (List (String × Setting)) :=
  match Toml.parse? document with
  | some entries => .ok (Setting.ofTomlEntries entries)
  | none => .error (.config "The configuration is not a TOML document")

def variablePrefix : List Char := "issuefunc__".toList

/-- Two underscores in a name stand for a dot. -/
def dotted : List Char → List Char
  | '_' :: '_' :: rest => '.' :: dotted rest
  | c :: rest => c :: dotted rest
  | [] => []

/-- The setting that a variable of the environment stands for. Letter case in its name does not
matter. -/
def ofVariable? (name value : String) : Option (String × Setting) :=
  let s := name.toList
  if variablePrefix.isPrefixOf (Lowercase.chars s) then
    let path := dotted (s.drop variablePrefix.length)
    some (String.ofList (Lowercase.chars path), .word value)
  else none

def ofDocument (document : String) : Except Failure Config := do
  ofSetting (builtIn.layer (← settingsOf document))

/-- The text of a file without a byte order mark in front of it. -/
def withoutMark (text : String) : String :=
  match text.toList with
  | '\ufeff' :: rest => String.ofList rest
  | _ => text

/-- The configuration of a file, if there is one, and an environment. -/
def load (file : Option String) (environment : List (String × String)) :
    Except Failure Config := do
  let fromFile ← match file with
    | some text => settingsOf (withoutMark text)
    | none => pure []
  let fromEnvironment := environment.filterMap fun (name, value) => ofVariable? name value
  ofSetting ((builtIn.layer fromFile).layer fromEnvironment)

end IssueFilter.Config
