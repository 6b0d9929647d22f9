import Acceptance.Toml.Value

namespace Acceptance.Toml

inductive Origin where
  | header
  | implied
  | dotted
  deriving DecidableEq, Repr

inductive Node where
  | leaf (value : Value)
  | table (origin : Origin) (entries : List (String × Node))
  | tables (items : List (List (String × Node)))

abbrev Entries := List (String × Node)

namespace Entries

def find? (entries : Entries) (key : String) : Option Node := entries.lookup key

def put : Entries → String → Node → Entries
  | [], key, node => [(key, node)]
  | (key', node') :: entries, key, node =>
      if key' = key then (key, node) :: entries else (key', node') :: put entries key node

-- Changes the table at the end of a path by `change`. Tables missing on the way are made with
-- the origin `via`; the latest of several tables is entered.
def edit (via : Origin) (change : Origin → Entries → Option Entries) :
    List String → Origin → Entries → Option Entries
  | [], origin, entries => change origin entries
  | key :: path, _, entries =>
      match entries.find? key with
      | none => (edit via change path via []).map fun inner => entries.put key (.table via inner)
      | some (.table origin inner) =>
          if via = .dotted ∧ origin = .header then none
          else (edit via change path origin inner).map fun inner =>
            entries.put key (.table origin inner)
      | some (.tables (latest :: earlier)) =>
          (edit via change path .header latest).map fun latest =>
            entries.put key (.tables (latest :: earlier))
      | some (.tables []) | some (.leaf _) => none

def insert (path : List String) (key : String) (value : Value) :
    Origin → Entries → Option Entries :=
  edit .dotted (fun origin entries =>
    if (origin == .dotted) == path.isEmpty then none
    else if (entries.find? key).isSome then none
    else some (entries.put key (.leaf value))) path

-- Opens the table of a header. A table that was only implied so far may still get its own.
def openTable (path : List String) (key : String) : Origin → Entries → Option Entries :=
  edit .implied (fun _ entries =>
    match entries.find? key with
    | none => some (entries.put key (.table .header []))
    | some (.table .implied inner) => some (entries.put key (.table .header inner))
    | some _ => none) path

def openItem (path : List String) (key : String) : Origin → Entries → Option Entries :=
  edit .implied (fun _ entries =>
    match entries.find? key with
    | none => some (entries.put key (.tables [[]]))
    | some (.tables items) => some (entries.put key (.tables ([] :: items)))
    | some _ => none) path

end Entries

mutual

def Node.value : Node → Value
  | .leaf value => value
  | .table _ entries => .table (entryValues entries)
  | .tables items => .array (itemValues items).reverse

def entryValues : List (String × Node) → List (String × Value)
  | [] => []
  | (key, node) :: entries => (key, node.value) :: entryValues entries

def itemValues : List (List (String × Node)) → List Value
  | [] => []
  | entries :: items => .table (entryValues entries) :: itemValues items

end

end Acceptance.Toml
