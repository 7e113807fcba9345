import Runbook.Json

/-!
JSON texts as trees. A tree keeps what a text says before it is known what is wanted of it:
members in their order and with repetitions, numbers that may be out of range, strings whose
escapes may not spell characters. A reader that skips a part of the tree accepts such leaves
there; `toJson?` does not.
-/

namespace Runbook

inductive Source
  | null
  | bool (value : Bool)
  /-- `none` for a number beyond the range of floating-point numbers. -/
  | number (value : Option Number)
  /-- `none` for a string with half a surrogate pair. -/
  | text (value : Option String)
  | array (items : List Source)
  | object (members : List (Option String × Source))
deriving Inhabited

namespace Source

mutual

/-- The value of a tree with at most `levels` arrays and objects around any part of it. Of
several members with one name the last one counts. -/
def toJson? (levels : Nat) : Source → Option Json
  | .null => some .null
  | .bool b => some (.bool b)
  | .number n => n.map .number
  | .text s => s.map .text
  | .array items =>
      if levels = 0 then none else (toItems? (levels - 1) items).map .array
  | .object members =>
      if levels = 0 then none else (toMembers? (levels - 1) [] members).map .object

def toItems? (levels : Nat) : List Source → Option (List Json)
  | [] => some []
  | s :: rest => do return (← toJson? levels s) :: (← toItems? levels rest)

def toMembers? (levels : Nat) (seen : Table Json) :
    List (Option String × Source) → Option (Table Json)
  | [] => some seen
  | (key, s) :: rest => do
      let key ← key
      let value ← toJson? levels s
      toMembers? levels (seen.insert key value) rest

end

mutual

def ofJson : Json → Source
  | .null => .null
  | .bool b => .bool b
  | .number n => .number (some n)
  | .text s => .text (some s)
  | .array items => .array (ofItems items)
  | .object members => .object (ofMembers members)

def ofItems : List Json → List Source
  | [] => []
  | j :: rest => ofJson j :: ofItems rest

def ofMembers : List (String × Json) → List (Option String × Source)
  | [] => []
  | (k, j) :: rest => (some k, ofJson j) :: ofMembers rest

end

end Source

end Runbook
