/-!
# Setting values

Settings come as trees of named values from several layers. A later layer overrides an earlier one
key by key: where both have a table the tables are merged, and anywhere else the later value stands.
-/

namespace NotePager

/-- A value that a layer gives. -/
inductive SettingValue where
  | text (s : String)
  | integer (n : Int)
  /-- A number that is not written as an integer. No setting takes one. -/
  | fraction
  | boolean (b : Bool)
  | list (items : List SettingValue)
  | table (entries : List (String × SettingValue))

namespace SettingValue

/-- Put a value under a key: in the place of the value that is there, if one is. -/
def put (key : String) (f : Option SettingValue → SettingValue) :
    List (String × SettingValue) → List (String × SettingValue)
  | [] => [(key, f none)]
  | (k, v) :: entries => if k = key then (k, f (some v)) :: entries else (k, v) :: put key f entries

mutual

/-- The value that stands when a later layer gives the second one. -/
def merge (earlier : SettingValue) : SettingValue → SettingValue
  | table entries =>
    match earlier with
    | table under => table (mergeEntries under entries)
    | _ => table entries
  | text s => text s
  | integer n => integer n
  | fraction => fraction
  | boolean b => boolean b
  | list items => list items

/-- The entries that stand when a later layer gives the second ones. -/
def mergeEntries (under : List (String × SettingValue)) :
    List (String × SettingValue) → List (String × SettingValue)
  | [] => under
  | (key, value) :: entries =>
    mergeEntries (put key (fun | none => value | some earlier => merge earlier value) under) entries

end

/-- The table with these entries. Of two entries with one key the later counts. -/
def ofEntries (entries : List (String × SettingValue)) : SettingValue :=
  table (entries.foldl (fun es (key, v) => put key (fun _ => v) es) [])

/-- A tree with one value, at the end of a path of keys. -/
def atPath (path : List String) (value : SettingValue) : SettingValue :=
  path.foldr (fun key v => table [(key, v)]) value

end SettingValue

end NotePager
