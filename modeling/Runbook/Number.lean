import Runbook.Number.Decimal

/-!
The numbers of headers and snapshots: integers, and floating-point numbers. The two kinds are
kept apart even where they stand for the same value.
-/

namespace Runbook

inductive Number
  | int (value : Int)
  | float (value : Binary64)
deriving DecidableEq, Inhabited

namespace Number

/-- Equality of values of one kind: floating-point numbers compare numerically. -/
def same : Number → Number → Bool
  | .int a, .int b => a == b
  | .float a, .float b => a.same b
  | _, _ => false

def toBinary64 : Number → Binary64
  | .int n => .ofInt n
  | .float x => x

def render (style : Binary64.Layout) : Number → String
  | .int n => toString n
  | .float x => x.render style

end Number

def isInt64 (n : Int) : Bool := -9223372036854775808 ≤ n && n < 9223372036854775808

def isNat64 (n : Int) : Bool := 0 ≤ n && n < 18446744073709551616

def isNat32 (n : Int) : Bool := 0 ≤ n && n < 4294967296

end Runbook
