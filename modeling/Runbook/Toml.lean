import Runbook.Number.Binary64
import Runbook.Table

/-!
TOML values, and the building of tables from headers and keys. A table that only came up on the
way to another one is implicit and may be opened later; one that came up in a dotted key may
only grow through dotted keys.
-/

namespace Runbook

inductive Toml
  | text (value : String)
  | int (value : Int)
  | float (value : Binary64)
  | bool (value : Bool)
  /-- Dates and times are kept as they are written. -/
  | datetime (value : String)
  | array (items : List Toml)
  | table (entries : List (String × Toml))
deriving Inhabited

namespace Toml

inductive Draft
  /-- A value is finished, and so are arrays and tables in braces. -/
  | value (v : Toml)
  | table (isImplicit isDotted : Bool) (entries : List (String × Draft))
  /-- Tables in an array, the last one first. -/
  | tables (items : List (List (String × Draft)))
deriving Inhabited

namespace Draft

mutual

def finish : Draft → Toml
  | .value v => v
  | .table _ _ entries => .table (finishEntries entries)
  | .tables items => .array (finishTables items).reverse

def finishEntries : List (String × Draft) → List (String × Toml)
  | [] => []
  | (k, d) :: rest => (k, finish d) :: finishEntries rest

def finishTables : List (List (String × Draft)) → List Toml
  | [] => []
  | entries :: rest => .table (finishEntries entries) :: finishTables rest

end

/-- Changes the table at a path by `f`, which is also told whether a dotted key made that table.
`dotted` says that the path itself is part of a dotted key. -/
def descend (dotted : Bool) (f : Bool → Table Draft → Option (Table Draft)) :
    Bool → Table Draft → List String → Option (Table Draft)
  | isDotted, entries, [] => f isDotted entries
  | _, entries, key :: path =>
      match entries.find? key with
      | none => do
          let inner ← descend dotted f dotted [] path
          return entries.insert key (.table true dotted inner)
      | some (.table isImplicit isDotted inner) => do
          if dotted && !isImplicit then none
          else do
            let inner ← descend dotted f isDotted inner path
            return entries.insert key (.table isImplicit isDotted inner)
      | some (.tables (last :: before)) => do
          let last ← descend dotted f false last path
          return entries.insert key (.tables (last :: before))
      | some (.tables []) | some (.value _) => none

/-- Puts a value at a key that may be dotted. No key may be given twice. -/
def assign (entries : Table Draft) (path : List String) (key : String) (v : Toml) :
    Option (Table Draft) :=
  descend (!path.isEmpty) (fun isDotted table =>
    if isDotted == path.isEmpty || table.contains key then none
    else some (table.insert key (.value v))) false entries path

/-- The table that a header opens: a new one, or one that is only implicit so far. -/
def opened? (table : Table Draft) (key : String) : Option (Table Draft) :=
  match table.find? key with
  | none => some []
  | some (.table true false inner) => some inner
  | some _ => none

def openTable (entries : Table Draft) (path : List String) (key : String) :
    Option (Table Draft) :=
  descend false (fun _ table => do
    return table.insert key (.table false false (← opened? table key))) false entries path

def openItem (entries : Table Draft) (path : List String) (key : String) :
    Option (Table Draft) :=
  descend false (fun _ table =>
    match table.find? key with
    | none => some (table.insert key (.tables [[]]))
    | some (.tables items) => some (table.insert key (.tables ([] :: items)))
    | some _ => none) false entries path

def within (entries : Table Draft) (header : List String)
    (f : Table Draft → Option (Table Draft)) : Option (Table Draft) :=
  descend false (fun _ table => f table) false entries header

end Draft

end Toml

end Runbook
