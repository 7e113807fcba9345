import Runbook.Json.Datum

/-!
The variables of a run: native values where JSON has them, and JSON values else. A variable is made
of a JSON value by its kind, or read from a datum by trying one kind after the other.
-/

namespace Runbook

inductive Variable
  | bool (value : Bool)
  | int (value : Int)
  | float (value : Binary64)
  | text (value : String)
  /-- Null, arrays and objects. -/
  | structured (value : Json)

namespace Variable

/-- A number that is no signed 64-bit integer becomes a floating-point number. -/
def ofJson : Json → Variable
  | .bool b => .bool b
  | .number (.int n) => if isInt64 n then .int n else .float (.ofInt n)
  | .number (.float x) => .float x
  | .text s => .text s
  | j => .structured j

def toJson : Variable → Json
  | .bool b => .bool b
  | .int n => .int n
  | .float x => .float x
  | .text s => .text s
  | .structured j => j

def asText? : Variable → Option String
  | .text s => some s
  | _ => none

def toDatum : Variable → Datum
  | .bool b => .bool b
  | .int n => .signed n
  | .float x => .float x
  | .text s => .text s
  | .structured j => j.toDatum

def readBool? : Datum → Option Variable
  | .bool b => some (.bool b)
  | _ => none

def readInt? : Datum → Option Variable
  | .signed n => if isInt64 n then some (.int n) else none
  | .unsigned n => if isInt64 n then some (.int n) else none
  | _ => none

def readFloat? : Datum → Option Variable
  | .signed n => some (.float (.ofInt n))
  | .unsigned n => some (.float (.ofInt n))
  | .float x => some (.float x)
  | _ => none

def readText? : Datum → Option Variable
  | .text s => some (.text s)
  | _ => none

/-- Tries the kinds of variables one after the other and takes the first one that fits. -/
def ofDatum (d : Datum) : Variable :=
  (readBool? d <|> readInt? d <|> readFloat? d <|> readText? d).getD (.structured (.ofDatum d))

def read (j : Json) : Variable := ofDatum j.toDatum

def write (v : Variable) : Json := .ofDatum v.toDatum

/-- Equality of values, numbers of one kind being compared numerically. -/
def same : Variable → Variable → Bool
  | .bool a, .bool b => a == b
  | .int a, .int b => a == b
  | .float a, .float b => a.same b
  | .text a, .text b => a == b
  | .structured a, .structured b => a.same b
  | _, _ => false

end Variable

end Runbook
