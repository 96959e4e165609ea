import NotePager.Settings.Value

/-!
# Tables under construction

While a document is read, tables grow. A table may be mentioned before it is defined, by a longer
header or a dotted key; such a table is *implied* and may still be defined, once. What a header
defines no dotted key may extend, and what a dotted key made no header may define.
-/

namespace NotePager.Toml

/-- How a table came to be. -/
structure Origin where
  /-- It was only mentioned so far. -/
  implied : Bool
  /-- A dotted key made it. -/
  dotted : Bool
  deriving DecidableEq, Repr

/-- Where a table comes from that a header or a pair of braces defines. -/
def Origin.defined : Origin := ⟨false, false⟩

/-- What stands under a key. -/
inductive Node where
  | value (v : SettingValue)
  | table (origin : Origin) (entries : List (String × Node))
  /-- Tables that headers with double brackets define, the last one first. -/
  | tables (items : List (List (String × Node)))

/-- A table that has been reached. -/
structure Reached where
  origin : Origin
  entries : List (String × Node)

/-- The table as a node. -/
def Reached.node (t : Reached) : Node := .table t.origin t.entries

/-- Change what stands under a key. -/
def alter (key : String) (f : Option Node → Option Node) :
    List (String × Node) → Option (List (String × Node))
  | [] => (f none).map fun node => [(key, node)]
  | (k, node) :: entries =>
    if k = key then (f (some node)).map fun node => (k, node) :: entries
    else (alter key f entries).map fun entries => (k, node) :: entries

/-- Change the table at the end of a path. Tables on the way are made if they are not there, and of
an array of tables the last one is meant. A dotted key goes only through tables that are implied. -/
def descend (dotted : Bool) (f : Reached → Option Reached) : List String → Reached → Option Reached
  | [], t => f t
  | key :: path, t => do
    let entries ← alter key (fun
      | none => (descend dotted f path ⟨⟨true, dotted⟩, []⟩).map Reached.node
      | some (.value _) => none
      | some (.table origin entries) =>
        if dotted && !origin.implied then none
        else (descend dotted f path ⟨origin, entries⟩).map Reached.node
      | some (.tables []) => none
      | some (.tables (last :: items)) =>
        (descend dotted f path ⟨.defined, last⟩).map fun t => .tables (t.entries :: items))
      t.entries
    return { t with entries }

/-- Put a value under a key that is not taken. A key without dots belongs in a table that no dotted
key made, and a key with dots in one that a dotted key made. -/
def insert (path : List String) (key : String) (v : SettingValue) (t : Reached) :
    Option Reached :=
  descend true (fun t =>
    if t.origin.dotted == path.isEmpty then none
    else (alter key (fun | none => some (.value v) | some _ => none) t.entries).map fun entries =>
      { t with entries }) path t

/-- Define a table by its header. -/
def define (path : List String) (key : String) : Reached → Option Reached :=
  descend false (fun t =>
    (alter key (fun
      | none => some (.table .defined [])
      | some (.table origin entries) =>
        if origin.implied && !origin.dotted then some (.table .defined entries) else none
      | some _ => none) t.entries).map fun entries => { t with entries }) path

/-- Add a table to an array of tables by its header. -/
def append (path : List String) (key : String) : Reached → Option Reached :=
  descend false (fun t =>
    (alter key (fun
      | none => some (.tables [[]])
      | some (.tables items) => some (.tables ([] :: items))
      | some _ => none) t.entries).map fun entries => { t with entries }) path

mutual

/-- The value of a node. -/
def Node.finish : Node → SettingValue
  | .value v => v
  | .table _ entries => .table (finishEntries entries)
  | .tables items => .list (finishTables items).reverse

/-- The entries of a table. -/
def finishEntries : List (String × Node) → List (String × SettingValue)
  | [] => []
  | (key, node) :: entries => (key, node.finish) :: finishEntries entries

/-- The tables of an array. -/
def finishTables : List (List (String × Node)) → List SettingValue
  | [] => []
  | entries :: items => .table (finishEntries entries) :: finishTables items

end

/-- The value of a table that is complete. -/
def Reached.finish (t : Reached) : SettingValue := t.node.finish

/-- A table without entries. -/
def emptyTable : Reached := ⟨.defined, []⟩

end NotePager.Toml
