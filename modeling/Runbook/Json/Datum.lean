import Runbook.Json

/-!
Values on their way between a type and a format. A writer hands a value over as a datum, and a
reader is given one; a datum has signed and unsigned integers, and does not say which type it comes
from. Reading the datum of a JSON value gives the value back (`Json.ofDatum_toDatum`).
-/

namespace Runbook

inductive Datum
  | null
  | bool (value : Bool)
  | signed (value : Int)
  | unsigned (value : Nat)
  | float (value : Binary64)
  | text (value : String)
  | list (items : List Datum)
  | map (entries : List (String × Datum))

namespace Json

mutual

/-- Only negative integers are handed over as signed ones. -/
def toDatum : Json → Datum
  | .null => .null
  | .bool b => .bool b
  | .number (.int n) => if n < 0 then .signed n else .unsigned n.toNat
  | .number (.float x) => .float x
  | .text s => .text s
  | .array items => .list (toDatumItems items)
  | .object members => .map (toDatumEntries members)

def toDatumItems : List Json → List Datum
  | [] => []
  | j :: rest => toDatum j :: toDatumItems rest

def toDatumEntries : List (String × Json) → List (String × Datum)
  | [] => []
  | (name, j) :: rest => (name, toDatum j) :: toDatumEntries rest

end

mutual

/-- A number that is not finite is read as null; of several entries with one name the last one
counts. -/
def ofDatum : Datum → Json
  | .null => .null
  | .bool b => .bool b
  | .signed n => .int n
  | .unsigned n => .int n
  | .float x => .float x
  | .text s => .text s
  | .list items => .array (ofDatumItems items)
  | .map entries => .object (Table.ofList (ofDatumEntries entries))

def ofDatumItems : List Datum → List Json
  | [] => []
  | d :: rest => ofDatum d :: ofDatumItems rest

def ofDatumEntries : List (String × Datum) → List (String × Json)
  | [] => []
  | (name, d) :: rest => (name, ofDatum d) :: ofDatumEntries rest

end

end Json

end Runbook
