import Tenancy.Json

namespace Tenancy.Toml

/-- How a table came about. That decides who may add to it: a header opens a table once, and a
dotted key adds only to tables that dotted keys made. -/
inductive Origin where
  /-- Opened by a header of its own. -/
  | explicit
  /-- Made on the way to a table further down. -/
  | implied
  /-- Made by a dotted key. -/
  | dotted
  deriving DecidableEq

inductive Node where
  | value (v : Json)
  | table (origin : Origin) (entries : List (String × Node))
  /-- An array of tables, the latest first. -/
  | tables (items : List (List (String × Node)))

abbrev Entries := List (String × Node)

mutual

def Node.toJson : Node → Json
  | .value v => v
  | .table _ entries => .obj (membersOf entries)
  | .tables items => .arr (itemsOf items).reverse

def membersOf : List (String × Node) → List (String × Json)
  | [] => []
  | (key, node) :: rest => (key, node.toJson) :: membersOf rest

def itemsOf : List (List (String × Node)) → List Json
  | [] => []
  | entries :: rest => .obj (membersOf entries) :: itemsOf rest

end

namespace Entries

def toJson (entries : Entries) : Json := .obj (membersOf entries)

/-- Puts a node in the place of the one of that name. -/
def replace (key : String) (node : Node) (entries : Entries) : Entries :=
  entries.map fun (k, old) => if k == key then (k, node) else (k, old)

def add? (key : String) (node : Node) (entries : Entries) : Option Entries :=
  if (entries.lookup key).isSome then none else some (entries ++ [(key, node)])

/-- Adds a value under a dotted key; `path` are the parts of the key before the last. The table it
lands in must have come about by dotted keys. -/
def put? (key : String) (v : Json) : List String → Entries → Option Entries
  | [], entries => entries.add? key (.value v)
  | part :: path, entries =>
    match entries.lookup part with
    | none => do
      let inner ← put? key v path []
      return entries ++ [(part, .table .dotted inner)]
    | some (.table .dotted inner) => do
      let inner ← put? key v path inner
      return entries.replace part (.table .dotted inner)
    | some (.table .implied inner) =>
      if path.isEmpty then none
      else do
        let inner ← put? key v path inner
        return entries.replace part (.table .implied inner)
    | some (.tables (last :: items)) =>
      if path.isEmpty then none
      else do
        let last ← put? key v path last
        return entries.replace part (.tables (last :: items))
    | some _ => none

/-- Changes the table at the end of a path of headers; tables missing on the way are made. -/
def within? (f : Entries → Option Entries) : List String → Entries → Option Entries
  | [], entries => f entries
  | part :: path, entries =>
    match entries.lookup part with
    | none => do
      let inner ← within? f path []
      return entries ++ [(part, .table .implied inner)]
    | some (.table origin inner) => do
      let inner ← within? f path inner
      return entries.replace part (.table origin inner)
    | some (.tables (last :: items)) => do
      let last ← within? f path last
      return entries.replace part (.tables (last :: items))
    | some _ => none

/-- Opens the table of a header. -/
def openTable? (key : String) (entries : Entries) : Option Entries :=
  match entries.lookup key with
  | none => some (entries ++ [(key, .table .explicit [])])
  | some (.table .implied inner) => some (entries.replace key (.table .explicit inner))
  | some _ => none

/-- Adds a table to the array of a double header. -/
def openItem? (key : String) (entries : Entries) : Option Entries :=
  match entries.lookup key with
  | none => some (entries ++ [(key, .tables [[]])])
  | some (.tables items) => some (entries.replace key (.tables ([] :: items)))
  | some _ => none

end Entries
end Tenancy.Toml
