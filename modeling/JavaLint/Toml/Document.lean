import JavaLint.Toml.Statement
/-!
# TOML documents

The tables of a document are built from its statements. A table is defined at
most once, by its header or by the keys that mention it.

## Main definitions

- `Toml.Node` — an entry of a table under construction
- `Toml.define?`, `Toml.append?`, `Toml.set?` — the effect of the three kinds of statements
- `Toml.parse?` — the table that a text writes
-/

namespace JavaLint.Toml

/-- How a table came to be. -/
inductive Origin where
  /-- Its own header defines it. -/
  | header
  /-- The header of a table further down mentions it. -/
  | implied
  /-- A key with several parts mentions it. -/
  | key
  deriving DecidableEq, Repr, Inhabited

/-- An entry of a table under construction. -/
inductive Node where
  | value (v : Toml)
  | table (origin : Origin) (entries : List (String × Node))
  /-- The items of an array of tables, the last one first. -/
  | tables (items : List (List (String × Node)))
  deriving Inhabited

/-- The entries of a table under construction. -/
abbrev Nodes := List (String × Node)

/-- The entries with that of `key` set; a new one comes last. -/
def setNode (key : String) (node : Node) (entries : Nodes) : Nodes :=
  if (entries.lookup key).isSome then
    entries.map fun (k, n) => if k = key then (k, node) else (k, n)
  else entries ++ [(key, node)]

/-- Changes the table that the header path `path` leads to; missing tables on
    the way are implied. -/
def within? (change : Nodes → Option Nodes) : List String → Nodes → Option Nodes
  | [], entries => change entries
  | k :: path, entries => match entries.lookup k with
    | none => (within? change path []).map fun sub => setNode k (.table .implied sub) entries
    | some (.value _) => none
    | some (.table origin sub) =>
      (within? change path sub).map fun sub => setNode k (.table origin sub) entries
    | some (.tables []) => none
    | some (.tables (last :: before)) =>
      (within? change path last).map fun last => setNode k (.tables (last :: before)) entries

/-- Sets the value of a key in a table. Tables that the key mentions are
    created; one that has a header of its own is not extended. -/
def set? (v : Toml) : List String → Nodes → Option Nodes
  | [], _ => none
  | [k], entries => if (entries.lookup k).isSome then none else some (setNode k (.value v) entries)
  | k :: path, entries => match entries.lookup k with
    | none => (set? v path []).map fun sub => setNode k (.table .key sub) entries
    | some (.table .key sub) => (set? v path sub).map fun sub => setNode k (.table .key sub) entries
    | some (.table .implied sub) =>
      if path.length = 1 then none
      else (set? v path sub).map fun sub => setNode k (.table .implied sub) entries
    | some (.tables (last :: before)) =>
      if path.length = 1 then none
      else (set? v path last).map fun last => setNode k (.tables (last :: before)) entries
    | some (.table .header _) | some (.value _) | some (.tables []) => none

/-- The entries after the keys with values of a section. -/
def setAll? (pairs : List (List String × Toml)) (entries : Nodes) : Option Nodes :=
  pairs.foldlM (fun entries (path, v) => set? v path entries) entries

/-- Defines the table `key` with the given keys and values. Only a table that
    is merely implied can be there already. -/
def define? (key : String) (pairs : List (List String × Toml)) (entries : Nodes) : Option Nodes :=
  let finish (old : Nodes) : Option Nodes :=
    (setAll? pairs old).map fun new => setNode key (.table .header new) entries
  match entries.lookup key with
  | none => finish []
  | some (.table .implied old) => finish old
  | some _ => none

/-- Adds an item with the given keys and values to the array of tables `key`. -/
def append? (key : String) (pairs : List (List String × Toml)) (entries : Nodes) : Option Nodes :=
  match entries.lookup key with
  | none => (setAll? pairs []).map fun item => setNode key (.tables [item]) entries
  | some (.tables items) =>
    (setAll? pairs []).map fun item => setNode key (.tables (item :: items)) entries
  | some _ => none

/-- The keys with values that a list of statements starts with, and the rest. -/
def leadingEntries : List Statement → List (List String × Toml) × List Statement
  | .entry path v :: rest =>
    let (pairs, rest) := leadingEntries rest
    ((path, v) :: pairs, rest)
  | rest => ([], rest)

/-- The entries after the sections of a document, of which there are at most `fuel`. -/
def sections? : Nat → List Statement → Nodes → Option Nodes
  | 0, _, _ => none
  | _ + 1, [], entries => some entries
  | fuel + 1, head :: rest, entries =>
    let (pairs, rest) := leadingEntries rest
    let next := match head with
      | .table path => path.getLast?.bind fun key =>
        within? (define? key pairs) path.dropLast entries
      | .item path => path.getLast?.bind fun key =>
        within? (append? key pairs) path.dropLast entries
      | .entry _ _ => none
    next.bind (sections? fuel rest)

mutual

/-- The value of a finished entry. -/
def Node.finish : Node → Toml
  | .value v => v
  | .table _ entries => .table (Node.finishAll entries)
  | .tables items => .array (Node.finishItems items [])

/-- The values of finished entries. -/
def Node.finishAll : Nodes → TomlTable
  | [] => []
  | (name, node) :: rest => (name, node.finish) :: Node.finishAll rest

/-- The tables of finished items, the last one first, in front of `done`. -/
def Node.finishItems : List Nodes → List Toml → List Toml
  | [], done => done
  | item :: rest, done => Node.finishItems rest (.table (Node.finishAll item) :: done)

end

/-- The table that a list of statements writes. -/
def ofStatements? (statements : List Statement) : Option TomlTable := do
  let (pairs, rest) := leadingEntries statements
  let root ← setAll? pairs []
  let entries ← sections? (rest.length + 1) rest root
  return Node.finishAll entries

/-- The table that a text writes. -/
def parse? (text : String) : Option TomlTable :=
  (statements? text).bind ofStatements?

end JavaLint.Toml
