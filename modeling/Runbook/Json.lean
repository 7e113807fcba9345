import Runbook.Number
import Runbook.Table

/-!
JSON values as snapshots hold them. The members of an object stand in ascending order of their
names and no name repeats (`Json.Canonical`).
-/

namespace Runbook

inductive Json
  | null
  | bool (value : Bool)
  | number (value : Number)
  | text (value : String)
  | array (items : List Json)
  | object (members : List (String × Json))
deriving Inhabited

namespace Json

def int (n : Int) : Json := .number (.int n)

def strings (items : List String) : Json := .array (items.map .text)

def option : Option Json → Json
  | none => .null
  | some j => j

/-- A number that is not finite has no JSON form and is written as null. -/
def float (x : Binary64) : Json := if x.isFinite then .number (.float x) else .null

mutual

/-- Equality of values, numbers of one kind being compared numerically. -/
def same : Json → Json → Bool
  | .null, .null => true
  | .bool a, .bool b => a == b
  | .number a, .number b => a.same b
  | .text a, .text b => a == b
  | .array a, .array b => sameItems a b
  | .object a, .object b => sameMembers a b
  | _, _ => false

def sameItems : List Json → List Json → Bool
  | [], [] => true
  | a :: as, b :: bs => same a b && sameItems as bs
  | _, _ => false

def sameMembers : List (String × Json) → List (String × Json) → Bool
  | [], [] => true
  | (k, a) :: as, (l, b) :: bs => k == l && same a b && sameMembers as bs
  | _, _ => false

end

mutual

/-- How many arrays and objects stand around the innermost value. -/
def depth : Json → Nat
  | .array items => depthItems items + 1
  | .object members => depthMembers members + 1
  | _ => 0

def depthItems : List Json → Nat
  | [] => 0
  | j :: rest => max (depth j) (depthItems rest)

def depthMembers : List (String × Json) → Nat
  | [] => 0
  | (_, j) :: rest => max (depth j) (depthMembers rest)

end

mutual

/-- Integers fit into 64 bits, floating-point numbers are finite, and the members of objects are
sorted: what reading a text can give. -/
def Canonical : Json → Prop
  | .number (.int n) => isInt64 n ∨ isNat64 n
  | .number (.float x) => x.isFinite
  | .array items => CanonicalItems items
  | .object members => Table.Sorted members ∧ CanonicalMembers members
  | _ => True

def CanonicalItems : List Json → Prop
  | [] => True
  | j :: rest => Canonical j ∧ CanonicalItems rest

def CanonicalMembers : List (String × Json) → Prop
  | [] => True
  | (_, j) :: rest => Canonical j ∧ CanonicalMembers rest

end

end Json

end Runbook
