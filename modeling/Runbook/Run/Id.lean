import Runbook.Error
import Runbook.Text.Digits
import Runbook.Text.Quoted
import Runbook.Time.Rfc3339

/-!
Run ids. They name files, so that they are made of ASCII letters, digits, hyphens and
underscores only.
-/

namespace Runbook.RunId

def maxLength : Nat := 128

def isAllowed (c : Char) : Bool := c.isAlphanum || c == '-' || c == '_'

/-- What is wrong with an id. Its length is counted in UTF-8 bytes. -/
def problem? (id : String) : Option String :=
  if id.isEmpty then some "must not be empty"
  else if maxLength < id.utf8ByteSize then
    some ("longer than " ++ toString maxLength ++ " characters")
  else (id.toList.find? fun c => !isAllowed c).map fun c =>
    "character " ++ Text.quoteChar c ++ " is not allowed"

def isValid (id : String) : Bool := (problem? id).isNone

def check (id : String) : Except Error Unit :=
  match problem? id with
  | some reason => .error (.invalidRunId id reason)
  | none => .ok ()

def generate (now : Instant) (random : UInt16) : String :=
  Instant.renderYear now.date.year ++ Instant.padded 2 now.date.month ++
    Instant.padded 2 now.date.day ++ "T" ++ Instant.padded 2 now.hour ++
    Instant.padded 2 now.minute ++ Instant.padded 2 now.second ++ "-" ++
    .ofList (Text.padZeros 4 (Text.hex random.toNat))

end Runbook.RunId
