import Runbook.Number

/-!
YAML values. Mappings keep the order of the text; a tag other than the core ones stays around
its value. Two keys of a mapping are the same when they are equal as values: integers and
floating-point numbers are never the same, and the order within a mapping does not count.
-/

namespace Runbook

inductive Yaml
  | null
  | bool (value : Bool)
  | number (value : Number)
  | text (value : String)
  | list (items : List Yaml)
  | map (entries : List (Yaml × Yaml))
  /-- The tag is kept without its exclamation mark. -/
  | tagged (tag : String) (value : Yaml)
deriving Inhabited

namespace Yaml

/-- Numbers as keys: every NaN is the same key. -/
def sameNumber : Number → Number → Bool
  | .float a, .float b => a.same b || (a.isNaN && b.isNaN)
  | a, b => a.same b

mutual

def same : Yaml → Yaml → Bool
  | .null, .null => true
  | .bool a, .bool b => a == b
  | .number a, .number b => sameNumber a b
  | .text a, .text b => a == b
  | .list a, .list b => sameItems a b
  | .map a, .map b => a.length == b.length && sameEntries a b
  | .tagged s a, .tagged t b => s == t && same a b
  | _, _ => false

def sameItems : List Yaml → List Yaml → Bool
  | [], [] => true
  | a :: as, b :: bs => same a b && sameItems as bs
  | _, _ => false

/-- Every entry of the first mapping has its like in the second. -/
def sameEntries : List (Yaml × Yaml) → List (Yaml × Yaml) → Bool
  | [], _ => true
  | (k, v) :: rest, other =>
      other.any (fun entry => same k entry.1 && same v entry.2) && sameEntries rest other

end

def hasKey (key : Yaml) (entries : List (Yaml × Yaml)) : Bool :=
  entries.any fun entry => same key entry.1

def untag : Yaml → Yaml
  | .tagged _ v => untag v
  | v => v

mutual

def hasTag : Yaml → Bool
  | .list items => hasTagItems items
  | .map entries => hasTagEntries entries
  | .tagged _ _ => true
  | _ => false

def hasTagItems : List Yaml → Bool
  | [] => false
  | v :: rest => hasTag v || hasTagItems rest

def hasTagEntries : List (Yaml × Yaml) → Bool
  | [] => false
  | (k, v) :: rest => hasTag k || hasTag v || hasTagEntries rest

end

end Yaml

end Runbook
