import Runbook.Json.Source

/-!
Typed readings of JSON texts. A reading knows how many arrays and objects may still nest. A
record is read from an object, whose other members are passed over unread, or from an array
that gives the fields in their order.
-/

namespace Runbook.Json

abbrev Reading (α : Type) := Nat → Source → Option α

def asText : Reading String
  | _, .text s => s
  | _, _ => none

def asBool : Reading Bool
  | _, .bool b => some b
  | _, _ => none

def asNat (fits : Int → Bool) : Reading Nat
  | _, .number (some (.int n)) => if fits n then some n.toNat else none
  | _, _ => none

def asOption {α : Type} (read : Reading α) : Reading (Option α)
  | _, .null => some none
  | levels, s => (read levels s).map some

def inside {α : Type} (levels : Nat) (read : Nat → Option α) : Option α :=
  match levels with
  | 0 => none
  | levels + 1 => read levels

def asList {α : Type} (read : Reading α) : Reading (List α)
  | levels, .array items => inside levels fun levels => items.mapM (read levels)
  | _, _ => none

def asTable : Reading (Table Json)
  | levels, .object members => inside levels fun levels => Source.toMembers? levels [] members
  | _, _ => none

/-- One of several values that are written by name, or as the one key of an object with null. -/
def asChoice {α : Type} (choices : List (String × α)) : Reading α
  | _, .text (some name) => choices.lookup name
  | levels, .object [(some name, .null)] => inside levels fun _ => choices.lookup name
  | _, _ => none

/-- The fields that a text gives of a record, and how deep they may nest. -/
structure Members where
  levels : Nat
  fields : List (String × Source)

namespace Members

/-- The members that are fields; none of them may repeat. -/
def known? (names : List String) (seen : List (String × Source)) :
    List (Option String × Source) → Option (List (String × Source))
  | [] => some seen
  | (key, s) :: rest => do
      let key ← key
      if names.contains key then
        if (seen.lookup key).isSome then none else known? names ((key, s) :: seen) rest
      else known? names seen rest

def read (names : List String) : Reading Members
  | levels, .object members => inside levels fun levels =>
      (known? names [] members).map fun fields => ⟨levels, fields⟩
  | levels, .array items => inside levels fun levels =>
      if items.length ≤ names.length then some ⟨levels, names.zip items⟩ else none
  | _, _ => none

def required {α : Type} (m : Members) (name : String) (read : Reading α) : Option α := do
  read m.levels (← m.fields.lookup name)

def withDefault {α : Type} (m : Members) (name : String) (default : α) (read : Reading α) :
    Option α :=
  match m.fields.lookup name with
  | none => some default
  | some s => read m.levels s

end Members

end Runbook.Json
