import IssueFilter.Toml.Scalar

/-! How the lines of a TOML document make up its tables. A table may be opened by one header only,
and a value may be given only once; tables that come about on the way to another one may still be
opened later, unless a dotted key has led into them. -/
namespace IssueFilter.Toml

/-- How a table came about: on the way to a deeper header, by its own header, or, at least in part,
by a dotted key. -/
inductive Origin where
  | passed
  | dotted
  | opened
  deriving DecidableEq, Repr

/-- A part of a document under construction. A list of tables is never empty. -/
inductive Node where
  | value (v : Toml)
  | table (origin : Origin) (entries : List (String × Node))
  | tables (former : List (List (String × Node))) (last : List (String × Node))
  deriving Inhabited

abbrev Entries := List (String × Node)

/-- Puts a node in the place of the one of that name, or at the end. -/
def Entries.put (entries : Entries) (name : String) (node : Node) : Entries :=
  if (entries.lookup name).isSome then
    entries.map fun (k, old) => if k = name then (k, node) else (k, old)
  else entries ++ [(name, node)]

/-- Gives a value to a dotted name inside a table. Dotted names do not lead into opened tables, and
values of listed tables are not given by them. -/
def Entries.assign (v : Toml) : (path : List String) → (inDotted : Bool) → Entries → Option Entries
  | [], _, _ => none
  | [name], inDotted, entries =>
    if inDotted && (entries.lookup name).isNone then some (entries ++ [(name, .value v)]) else none
  | name :: path, _, entries =>
    match entries.lookup name with
    | none => do
      return entries ++ [(name, .table .dotted (← Entries.assign v path true []))]
    | some (.table .dotted inner) | some (.table .passed inner) => do
      return entries.put name (.table .dotted (← Entries.assign v path true inner))
    | some (.tables former last) => do
      return entries.put name (.tables former (← Entries.assign v path false last))
    | some (.table .opened _) | some (.value _) => none

def Entries.assignAll (entries : Entries) (pairs : List (List String × Toml)) : Option Entries :=
  pairs.foldlM (fun entries (path, v) => Entries.assign v path true entries) entries

/-- The part of a document under one header: whether it is one of a list of tables, its path and its
pairs. -/
structure Section where
  repeated : Bool
  path : List String
  pairs : List (List String × Toml)

def Entries.openTable (s : Section) : (path : List String) → Entries → Option Entries
  | [], _ => none
  | [name], entries =>
    match entries.lookup name, s.repeated with
    | none, false => do return entries ++ [(name, .table .opened (← Entries.assignAll [] s.pairs))]
    | none, true => do return entries ++ [(name, .tables [] (← Entries.assignAll [] s.pairs))]
    | some (.table .passed inner), false => do
      return entries.put name (.table .opened (← Entries.assignAll inner s.pairs))
    | some (.tables former last), true => do
      return entries.put name (.tables (former ++ [last]) (← Entries.assignAll [] s.pairs))
    | _, _ => none
  | name :: path, entries =>
    match entries.lookup name with
    | none => do return entries ++ [(name, .table .passed (← Entries.openTable s path []))]
    | some (.table origin inner) => do
      return entries.put name (.table origin (← Entries.openTable s path inner))
    | some (.tables former last) => do
      return entries.put name (.tables former (← Entries.openTable s path last))
    | some (.value _) => none

mutual

def Node.toToml : Node → Toml
  | .value v => v
  | .table _ entries => .table (entriesToToml entries)
  | .tables former last => .array (listToToml former ++ [.table (entriesToToml last)])

def entriesToToml : List (String × Node) → List (String × Toml)
  | [] => []
  | (name, node) :: entries => (name, node.toToml) :: entriesToToml entries

def listToToml : List (List (String × Node)) → List Toml
  | [] => []
  | entries :: rest => .table (entriesToToml entries) :: listToToml rest

end

/-- The entries of the table that the pairs between braces make up. -/
def inlineTable (pairs : List (List String × Toml)) : Option Toml := do
  return .table (entriesToToml (← Entries.assignAll [] pairs))

/-- The tables of a document: the pairs before the first header and the sections after them. -/
def assemble (top : List (List String × Toml)) (sections : List Section) :
    Option (List (String × Toml)) := do
  let root ← Entries.assignAll [] top
  let root ← sections.foldlM (fun entries s => Entries.openTable s s.path entries) root
  return entriesToToml root

end IssueFilter.Toml
