import Runbook.Text.Digits

/-!
Binary floating-point numbers of 64 bits, given by their bits. Rounding a quotient of natural
numbers to the nearest such number, ties to the even one, is exact integer arithmetic; reading
decimals, multiplying and dividing are special cases of it.
-/

namespace Runbook

structure Binary64 where
  bits : UInt64
deriving DecidableEq, Inhabited

namespace Binary64

def ofBits (n : Nat) : Binary64 := ⟨UInt64.ofNat n⟩

def isNegative (x : Binary64) : Bool := twoTo 63 ≤ x.bits.toNat

def magnitude (x : Binary64) : Nat := x.bits.toNat % twoTo 63

def infinityBits : Nat := 0x7ff * twoTo 52

def isFinite (x : Binary64) : Bool := x.magnitude < infinityBits

def isInfinite (x : Binary64) : Bool := x.magnitude == infinityBits

def isNaN (x : Binary64) : Bool := infinityBits < x.magnitude

def isZero (x : Binary64) : Bool := x.magnitude == 0

def withSign (negative : Bool) (magnitude : Nat) : Binary64 :=
  ofBits (if negative then twoTo 63 + magnitude else magnitude)

def zero (negative : Bool) : Binary64 := withSign negative 0

def infinity (negative : Bool) : Binary64 := withSign negative infinityBits

def nan : Binary64 := ofBits 0x7ff8000000000000

def negate (x : Binary64) : Binary64 := withSign (!x.isNegative) x.magnitude

/-- A finite number is its significand times a power of two: `(m, e)` stands for `m * 2 ^ e`. -/
def significand (x : Binary64) : Nat × Int :=
  let exponent : Nat := x.magnitude / twoTo 52
  let fraction : Nat := x.magnitude % twoTo 52
  if exponent = 0 then (fraction, -1074) else (twoTo 52 + fraction, (exponent : Int) - 1075)

def scale (n : Nat) (e : Int) : Nat × Nat :=
  if 0 ≤ e then (n * twoTo e.toNat, 1) else (n, twoTo (-e).toNat)

/-- The bits of the number nearest to `num / den`; beyond the largest finite one, infinity. -/
def nearestBits (num den : Nat) : Nat :=
  if num = 0 then 0 else
    let low : Int := max ((num.log2 : Int) - den.log2 - 53) (-1074)
    let quotient (e : Int) : Nat × Nat :=
      if 0 ≤ e then (num, den * twoTo e.toNat) else (num * twoTo (-e).toNat, den)
    let e := if (quotient low).1 / (quotient low).2 < twoTo 53 then low else low + 1
    let (n, d) := quotient e
    let q := n / d
    let r := n % d
    let q := if 2 * r > d || (2 * r == d && q % 2 == 1) then q + 1 else q
    min ((e + 1074).toNat * twoTo 52 + q) infinityBits

def ofRatio (negative : Bool) (num den : Nat) : Binary64 :=
  withSign negative (nearestBits num den)

def ofInt (n : Int) : Binary64 := ofRatio (n < 0) n.natAbs 1

/-- The number nearest to `digits * 10 ^ exponent`. Exponents so far out that the result is
certain are not computed. -/
def ofDecimal (negative : Bool) (digits : Nat) (exponent : Int) : Binary64 :=
  if digits = 0 then zero negative
  else
    let places := (Nat.toDigits 10 digits).length
    if exponent + places > 400 then infinity negative
    else if exponent + places < -400 then zero negative
    else if 0 ≤ exponent then ofRatio negative (digits * tenTo exponent.toNat) 1
    else ofRatio negative digits (tenTo (-exponent).toNat)

def mul (x y : Binary64) : Binary64 :=
  let (m, e) := x.significand
  let (n, f) := y.significand
  let (num, den) := scale (m * n) (e + f)
  ofRatio (x.isNegative != y.isNegative) num den

def div (x y : Binary64) : Binary64 :=
  let (m, e) := x.significand
  let (n, f) := y.significand
  let (num, den) := scale m (e - f)
  ofRatio (x.isNegative != y.isNegative) num (den * n)

/-- An integer key that orders the numbers other than NaN; the two zeros share one. -/
def rank (x : Binary64) : Int := if x.isNegative then -(x.magnitude : Int) else x.magnitude

/-- Numeric comparison: NaN is below nothing and above nothing. -/
def le (x y : Binary64) : Bool := !x.isNaN && !y.isNaN && x.rank ≤ y.rank

def same (x y : Binary64) : Bool := !x.isNaN && !y.isNaN && x.rank == y.rank

end Binary64

end Runbook
