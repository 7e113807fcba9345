import Runbook.Json
import Runbook.Yaml

/-!
JSON forms of YAML values. Keys become texts where they are texts, truth values or finite
numbers, and a mapping with any other key has no JSON form. A tag stays as the one key of an
object; numbers that are not finite become null.
-/

namespace Runbook.Yaml

def keyText? : Yaml → Option String
  | .text s => some s
  | .bool b => some (if b then "true" else "false")
  | .number (.int n) => some (toString n)
  | .number (.float x) => if x.isFinite then some (x.render .snapshot) else none
  | _ => none

mutual

def toJson? : Yaml → Option Json
  | .null => some .null
  | .bool b => some (.bool b)
  | .number (.int n) => some (.int n)
  | .number (.float x) => some (.float x)
  | .text s => some (.text s)
  | .list items => (toItems? items).map .array
  | .map entries => (toMembers? [] entries).map .object
  | .tagged tag v => (toJson? v).map fun j => .object [("!" ++ tag, j)]

def toItems? : List Yaml → Option (List Json)
  | [] => some []
  | v :: rest => do return (← toJson? v) :: (← toItems? rest)

/-- Of several keys with one text the last one counts. -/
def toMembers? (seen : Table Json) : List (Yaml × Yaml) → Option (Table Json)
  | [] => some seen
  | (k, v) :: rest => do
      let key ← keyText? k
      let value ← toJson? v
      toMembers? (seen.insert key value) rest

end

end Runbook.Yaml
