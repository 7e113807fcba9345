/-!
Digits in bases up to 36, natural numbers written with them, and the powers that their places stand
for. Letters count in either case when they are read and are small when they are written.
-/

namespace Runbook

def twoTo (n : Nat) : Nat := Nat.pow 2 n

def tenTo (n : Nat) : Nat := Nat.pow 10 n

end Runbook

namespace Runbook.Text

def digitIn? (radix : Nat) (c : Char) : Option Nat :=
  let n :=
    if c.isDigit then c.toNat - 48
    else if 'a' ≤ c && c ≤ 'z' then c.toNat - 87
    else if 'A' ≤ c && c ≤ 'Z' then c.toNat - 55
    else radix
  if n < radix then some n else none

/-- The number that a run of digits stands for, zero for the empty one. -/
def digits? (radix : Nat) (s : List Char) : Option Nat :=
  s.foldlM (fun n c => (digitIn? radix c).map (radix * n + ·)) 0

def natural? (radix : Nat) (s : List Char) : Option Nat :=
  if s.isEmpty then none else digits? radix s

def decimal (s : List Char) : Nat := s.foldl (fun n c => 10 * n + (c.toNat - 48)) 0

def hex (n : Nat) : List Char := Nat.toDigits 16 n

def padZeros (width : Nat) (digits : List Char) : List Char :=
  List.replicate (width - digits.length) '0' ++ digits

end Runbook.Text
