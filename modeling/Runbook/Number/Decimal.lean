import Runbook.Number.Binary64

/-!
Decimal texts of binary floating-point numbers. The digits are the fewest that read back as the
same number, and of those the nearest; the layout of digits and exponent is a separate choice,
made by the record `Layout` of each output format.
-/

namespace Runbook.Binary64

/-- The fewest digits `d` and the exponent `k` such that `d * 10 ^ k` reads back as a given
finite positive number. -/
structure Digits where
  value : Nat
  exponent : Int

/-- The interval of reals that round to `m * 2 ^ e`, as three numerators over one denominator:
lower end, the number itself, upper end. -/
structure Neighbourhood where
  low : Nat
  mid : Nat
  high : Nat
  den : Nat
  closed : Bool

def neighbourhood (m : Nat) (e : Int) : Neighbourhood :=
  let quarter : Int := e - 2
  let (unit, den) := scale 1 quarter
  let below := if m = twoTo 52 && e > -1074 then 4 * m - 1 else 4 * m - 2
  { low := below * unit, mid := 4 * m * unit, high := (4 * m + 2) * unit, den,
    closed := m % 2 = 0 }

def Neighbourhood.contains (i : Neighbourhood) (num den : Nat) : Bool :=
  let x := num * i.den
  if i.closed then i.low * den ≤ x && x ≤ i.high * den
  else i.low * den < x && x < i.high * den

/-- The grid point `d * 10 ^ k` nearest to the middle among its two neighbours, when it lies in
the interval; of two equally near ones the even one. -/
def Neighbourhood.onGrid (i : Neighbourhood) (k : Int) : Option Nat :=
  let (num, den) : Nat × Nat := if 0 ≤ k then (tenTo k.toNat, 1) else (1, tenTo (-k).toNat)
  let below := i.mid * den / (i.den * num)
  let inside (d : Nat) : Bool := i.contains (d * num) den
  let gapBelow := i.mid * den - below * num * i.den
  let gapAbove := (below + 1) * num * i.den - i.mid * den
  let belowFirst := gapBelow < gapAbove || (gapBelow == gapAbove && below % 2 == 0)
  let (first, second) := if belowFirst then (below, below + 1) else (below + 1, below)
  if inside first then some first else if inside second then some second else none

/-- Tries the grids from coarse to fine: `top` is the exponent of the coarsest. -/
def Neighbourhood.search (i : Neighbourhood) (top : Int) : Nat → Option Digits
  | 0 => none
  | fuel + 1 =>
      match i.onGrid top with
      | some d => if d = 0 then search i (top - 1) fuel else some ⟨d, top⟩
      | none => search i (top - 1) fuel

def Digits.strip (d : Digits) : Nat → Digits
  | 0 => d
  | fuel + 1 =>
      if d.value ≠ 0 && d.value % 10 = 0 then strip ⟨d.value / 10, d.exponent + 1⟩ fuel else d

/-- The shortest digits of a finite number other than zero. No double needs more than 17. -/
def shortest (x : Binary64) : Digits :=
  let (m, e) := x.significand
  let i := neighbourhood m e
  let top : Int := ((Nat.toDigits 10 (i.high / i.den)).length : Int)
  let start : Int := if i.high / i.den = 0 then
      -((Nat.toDigits 10 (i.den / i.high)).length : Int) + 1
    else top
  ((i.search start 20).getD ⟨0, 0⟩).strip 20

/-- How a number is laid out: which places of the decimal point are written positionally, what
comes between the digits and the exponent, and the texts of the numbers that are not finite. -/
structure Layout where
  lowest : Int
  highest : Int
  /-- Whether integral values in positional notation end in `.0`. -/
  point : Bool
  plus : String
  infinity : String
  minusInfinity : String
  nan : String

def zeros (n : Nat) : String := .ofList (List.replicate n '0')

/-- A finite positive number with digits `ds` whose first one counts `10 ^ lead`. -/
def Layout.digits (style : Layout) (ds : List Char) (lead : Int) : String :=
  if style.lowest ≤ lead && lead ≤ style.highest then
    if lead < 0 then "0." ++ zeros (-lead - 1).toNat ++ .ofList ds
    else if ds.length ≤ lead.toNat + 1 then
      .ofList ds ++ zeros (lead.toNat + 1 - ds.length) ++ (if style.point then ".0" else "")
    else .ofList (ds.take (lead.toNat + 1)) ++ "." ++ .ofList (ds.drop (lead.toNat + 1))
  else
    let body : List Char := match ds with
      | [d] => [d]
      | d :: rest => d :: '.' :: rest
      | [] => []
    .ofList body ++ "e" ++ (if 0 ≤ lead then style.plus ++ toString lead else toString lead)

def render (style : Layout) (x : Binary64) : String :=
  if x.isNaN then style.nan
  else if x.isInfinite then if x.isNegative then style.minusInfinity else style.infinity
  else
    let body :=
      if x.isZero then if style.point then "0.0" else "0"
      else
        let d := x.shortest
        let ds := Nat.toDigits 10 d.value
        style.digits ds (d.exponent + ds.length - 1)
    if x.isNegative then "-" ++ body else body

/-- Numbers in a header are positional from `1e-5` to below `1e16` and show a point. -/
def Layout.header : Layout :=
  ⟨-5, 15, true, "", ".inf", "-.inf", ".nan"⟩

/-- Numbers in a snapshot are laid out as in a header, with a plus sign in the exponent; one that
is not finite cannot be written and stands as null. -/
def Layout.snapshot : Layout :=
  ⟨-5, 15, true, "+", "null", "null", "null"⟩

/-- Messages never use an exponent and show no needless point. -/
def Layout.message : Layout :=
  ⟨-400, 400, false, "", "inf", "-inf", "NaN"⟩

end Runbook.Binary64
