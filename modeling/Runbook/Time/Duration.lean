import Runbook.Text.Digits
import Runbook.Time.Instant

/-!
Lengths of time with nanosecond resolution, and going back in time by one of them.
-/

namespace Runbook

structure Duration where
  seconds : Nat
  /-- Nanoseconds within the second. -/
  nanos : Nat
  nanos_lt : nanos < 1000000000
deriving DecidableEq

namespace Duration

def ofSeconds (n : Nat) : Duration := ⟨n, 0, by decide⟩

def longerThan (a b : Duration) : Bool :=
  b.seconds < a.seconds || (b.seconds == a.seconds && b.nanos < a.nanos)

def places (d : Duration) : List Char :=
  ((Text.padZeros 9 (Nat.toDigits 10 d.nanos)).reverse.dropWhile (· == '0')).reverse

/-- A length of at least one second as text. -/
def render (d : Duration) : String :=
  toString d.seconds ++ (if d.places.isEmpty then "" else "." ++ .ofList d.places) ++ "s"

end Duration

/-- The instant that lies a length of time before one that is not in a leap second. -/
def Instant.minus (t : Instant) (d : Duration) : Instant :=
  if t.nanos < d.nanos then ⟨t.seconds - d.seconds - 1, t.nanos + 1000000000 - d.nanos⟩
  else ⟨t.seconds - d.seconds, t.nanos - d.nanos⟩

end Runbook
