import Runbook.Proofs.NumberText
import Runbook.Proofs.Rounding

/-!
The digits that a floating-point number is written with. They always stand for a decimal in the
interval of the values that are rounded to the number: the search goes through the powers of ten
from the order of the interval's upper end down, and the grid of the last ones is finer than the
interval. Since the intervals of different numbers lie apart, so do their decimals.
-/

namespace Runbook.Binary64

/-- The power of ten that the exponent of a grid stands for, as terms of a quotient. -/
def gridTerms (k : ℤ) : ℕ × ℕ := if 0 ≤ k then (tenTo k.toNat, 1) else (1, tenTo (-k).toNat)

theorem gridTerms_spec (k : ℤ) : 0 < (gridTerms k).1 ∧ 0 < (gridTerms k).2 ∧
    ((gridTerms k).1 : ℚ) / (gridTerms k).2 = 10 ^ k := by
  have hpower : ∀ n : ℕ, ((tenTo n : ℕ) : ℚ) = 10 ^ n := fun n => by
    change ((10 ^ n : ℕ) : ℚ) = 10 ^ n
    push_cast
    rfl
  have hpos : ∀ n, 0 < tenTo n := fun n => Nat.pow_pos (by decide)
  unfold gridTerms
  split
  · next hk =>
    refine ⟨hpos _, Nat.one_pos, ?_⟩
    rw [hpower, Nat.cast_one, div_one, ← zpow_natCast, Int.toNat_of_nonneg hk]
  · next hk =>
    refine ⟨Nat.one_pos, hpos _, ?_⟩
    rw [hpower, Nat.cast_one, one_div, ← zpow_natCast, ← zpow_neg,
      Int.toNat_of_nonneg (by omega), neg_neg]

namespace Neighbourhood

/-- A value lies in the interval, whose ends may belong to it. -/
def Inside (i : Neighbourhood) (v : ℚ) : Prop :=
  if i.closed then (i.low / i.den : ℚ) ≤ v ∧ v ≤ i.high / i.den
  else (i.low / i.den : ℚ) < v ∧ v < i.high / i.den

theorem Inside.le {i : Neighbourhood} {v : ℚ} (h : i.Inside v) :
    (i.low / i.den : ℚ) ≤ v ∧ v ≤ i.high / i.den := by
  unfold Inside at h
  split at h
  · exact h
  · exact ⟨h.1.le, h.2.le⟩

theorem inside_of_lt {i : Neighbourhood} {v : ℚ} (hlow : (i.low / i.den : ℚ) < v)
    (hhigh : v < i.high / i.den) : i.Inside v := by
  unfold Inside
  split
  · exact ⟨hlow.le, hhigh.le⟩
  · exact ⟨hlow, hhigh⟩

theorem contains_iff {i : Neighbourhood} (hi : 0 < i.den) (num : ℕ) {den : ℕ} (hden : 0 < den) :
    i.contains num den = true ↔ i.Inside (num / den) := by
  have hi' : (0 : ℚ) < i.den := Nat.cast_pos.mpr hi
  have hden' : (0 : ℚ) < den := Nat.cast_pos.mpr hden
  unfold contains Inside
  simp only [div_le_div_iff₀ hi' hden', div_le_div_iff₀ hden' hi', div_lt_div_iff₀ hi' hden',
    div_lt_div_iff₀ hden' hi']
  cases i.closed with
  | true =>
    simp only [if_true, Bool.and_eq_true, decide_eq_true_eq]
    exact_mod_cast Iff.rfl
  | false =>
    simp only [Bool.false_eq_true, if_false, Bool.and_eq_true, decide_eq_true_eq]
    exact_mod_cast Iff.rfl

/-- The last point of a grid that is not above the middle of the interval. -/
def below (i : Neighbourhood) (k : ℤ) : ℕ :=
  i.mid * (gridTerms k).2 / (i.den * (gridTerms k).1)

theorem below_spec {i : Neighbourhood} (hi : 0 < i.den) (k : ℤ) :
    (i.below k : ℚ) * 10 ^ k ≤ i.mid / i.den ∧ (i.mid / i.den : ℚ) < (i.below k + 1) * 10 ^ k := by
  obtain ⟨hnum, hden, hvalue⟩ := gridTerms_spec k
  have hi' : (0 : ℚ) < i.den := Nat.cast_pos.mpr hi
  have hnum' : (0 : ℚ) < (gridTerms k).1 := Nat.cast_pos.mpr hnum
  have hden' : (0 : ℚ) < (gridTerms k).2 := Nat.cast_pos.mpr hden
  have hproduct : 0 < i.den * (gridTerms k).1 := Nat.mul_pos hi hnum
  have hfloor : i.below k * (i.den * (gridTerms k).1) ≤ i.mid * (gridTerms k).2 :=
    Nat.div_mul_le_self _ _
  have hceil : i.mid * (gridTerms k).2 < (i.below k + 1) * (i.den * (gridTerms k).1) := by
    rw [Nat.mul_comm (i.below k + 1)]
    exact Nat.lt_mul_div_succ _ hproduct
  rw [← hvalue, mul_div_assoc', mul_div_assoc', div_le_div_iff₀ hden' hi',
    div_lt_div_iff₀ hi' hden']
  constructor
  · have hfloor' : (i.below k : ℚ) * (i.den * (gridTerms k).1) ≤ i.mid * (gridTerms k).2 := by
      exact_mod_cast hfloor
    linarith
  · have hceil' : (i.mid : ℚ) * (gridTerms k).2 <
        (i.below k + 1) * (i.den * (gridTerms k).1) := by
      exact_mod_cast hceil
    linarith

/-- What is found on a grid is one of the two points around the middle, and in the interval. One
of them is found when the lower one is in the interval. -/
theorem onGrid_spec {i : Neighbourhood} (hi : 0 < i.den) (k : ℤ) :
    (∀ d, i.onGrid k = some d → i.Inside (d * 10 ^ k) ∧ (d = i.below k ∨ d = i.below k + 1)) ∧
    (i.Inside (i.below k * 10 ^ k) → (i.onGrid k).isSome = true) := by
  obtain ⟨hnum, hden, hvalue⟩ := gridTerms_spec k
  have hinside : ∀ d : ℕ, i.contains (d * (gridTerms k).1) (gridTerms k).2 = true ↔
      i.Inside (d * 10 ^ k) := by
    intro d
    rw [contains_iff hi _ hden, ← hvalue, Nat.cast_mul, mul_div_assoc']
  have hgrid : i.onGrid k =
      let below := i.below k
      let gapBelow := i.mid * (gridTerms k).2 - below * (gridTerms k).1 * i.den
      let gapAbove := (below + 1) * (gridTerms k).1 * i.den - i.mid * (gridTerms k).2
      let belowFirst := gapBelow < gapAbove || (gapBelow == gapAbove && below % 2 == 0)
      let points := if belowFirst then (below, below + 1) else (below + 1, below)
      if i.contains (points.1 * (gridTerms k).1) (gridTerms k).2 then some points.1
      else if i.contains (points.2 * (gridTerms k).1) (gridTerms k).2 then some points.2
      else none :=
    rfl
  rw [hgrid]
  extract_lets below gapBelow gapAbove belowFirst points
  obtain ⟨first, second, hpair, hpoints⟩ : ∃ first second, points = (first, second) ∧
      (first = below ∧ second = below + 1 ∨ first = below + 1 ∧ second = below) := by
    unfold points
    split
    · exact ⟨_, _, rfl, .inl ⟨rfl, rfl⟩⟩
    · exact ⟨_, _, rfl, .inr ⟨rfl, rfl⟩⟩
  rw [hpair]
  dsimp only
  refine ⟨?_, ?_⟩
  · intro d h
    split at h
    · next hfirst =>
      obtain rfl := Option.some.inj h
      exact ⟨(hinside _).mp hfirst, by omega⟩
    · split at h
      · next hsecond =>
        obtain rfl := Option.some.inj h
        exact ⟨(hinside _).mp hsecond, by omega⟩
      · simp at h
  · intro hbelow
    have hcontains := (hinside below).mpr hbelow
    rcases hpoints with ⟨rfl, -⟩ | ⟨-, rfl⟩
    · rw [if_pos hcontains]
      rfl
    · split
      · rfl
      · rfl

/-- A grid as fine as a quarter of the unit has a point in the interval. -/
theorem exists_onGrid {i : Neighbourhood} (hi : 0 < i.den) {k : ℤ} {quarter : ℚ}
    (hfine : 10 ^ k ≤ quarter) (hlow : (i.low / i.den : ℚ) ≤ i.mid / i.den - quarter)
    (hhigh : (i.mid / i.den : ℚ) < i.high / i.den) (hmid : quarter < i.mid / i.den) :
    ∃ d, d ≠ 0 ∧ i.onGrid k = some d := by
  obtain ⟨hle, hlt⟩ := below_spec hi k
  have hpos : (0 : ℚ) < 10 ^ k := zpow_pos (by norm_num) k
  obtain ⟨hpoint, hsome⟩ := onGrid_spec hi k
  have hinside : i.Inside (i.below k * 10 ^ k) := by
    apply inside_of_lt
    · have hstep : ((i.below k : ℚ) + 1) * 10 ^ k = i.below k * 10 ^ k + 10 ^ k := by ring
      linarith
    · linarith
  have hbelow : i.below k ≠ 0 := by
    intro hzero
    rw [hzero] at hlt
    push_cast at hlt
    linarith
  obtain ⟨d, hd⟩ := Option.isSome_iff_exists.mp (hsome hinside)
  refine ⟨d, ?_, hd⟩
  rcases (hpoint d hd).2 with rfl | rfl
  · exact hbelow
  · exact Nat.succ_ne_zero _

/-- What a search finds stands on one of the grids that it goes through. -/
theorem search_spec {i : Neighbourhood} {top : ℤ} {fuel : ℕ} {d : Digits}
    (h : i.search top fuel = some d) : ∃ j < fuel, d.exponent = top - j ∧
      i.onGrid d.exponent = some d.value := by
  induction fuel generalizing top with
  | zero => simp [search] at h
  | succ fuel ih =>
    have hnext : i.search (top - 1) fuel = some d → ∃ j < fuel + 1, d.exponent = top - j ∧
        i.onGrid d.exponent = some d.value := by
      intro hd
      obtain ⟨j, hj, hexponent, hgrid⟩ := ih hd
      refine ⟨j + 1, by omega, ?_, hgrid⟩
      push_cast
      omega
    rw [search] at h
    split at h
    · next n hgrid =>
      split at h
      · exact hnext h
      · obtain rfl := Option.some.inj h
        exact ⟨0, by omega, by simp, hgrid⟩
    · exact hnext h

/-- A search that comes to a grid with a point in the interval finds one. -/
theorem search_isSome {i : Neighbourhood} {top : ℤ} {fuel j : ℕ} (hj : j < fuel)
    (h : ∃ d, d ≠ 0 ∧ i.onGrid (top - j) = some d) : (i.search top fuel).isSome = true := by
  induction fuel generalizing top j with
  | zero => omega
  | succ fuel ih =>
    rw [search]
    cases j with
    | zero =>
      obtain ⟨d, hd, hgrid⟩ := h
      rw [Nat.cast_zero, sub_zero] at hgrid
      rw [hgrid]
      simp [hd]
    | succ j =>
      have hstep : top - ((j + 1 : ℕ) : ℤ) = top - 1 - j := by
        push_cast
        ring
      rw [hstep] at h
      have hrest := ih (Nat.lt_of_succ_lt_succ hj) h
      split
      · split
        · exact hrest
        · rfl
      · exact hrest

end Neighbourhood

/-- The decimal that digits stand for. -/
def Digits.toRat (d : Digits) : ℚ := d.value * 10 ^ d.exponent

theorem Digits.toRat_strip (d : Digits) (fuel : ℕ) : (d.strip fuel).toRat = d.toRat := by
  induction fuel generalizing d with
  | zero => rfl
  | succ fuel ih =>
    rw [strip]
    split
    · next hzero =>
      have hmod : d.value % 10 = 0 := by
        by_contra hne
        simp [hne] at hzero
      have hvalue : ((d.value / 10 : ℕ) : ℚ) * 10 = d.value := by
        exact_mod_cast Nat.div_mul_cancel (Nat.dvd_of_mod_eq_zero hmod)
      rw [ih, toRat, toRat, zpow_add_one₀ (by norm_num), ← hvalue]
      ring
    · rfl

theorem Digits.strip_value_le (d : Digits) (fuel : ℕ) : (d.strip fuel).value ≤ d.value := by
  induction fuel generalizing d with
  | zero => exact le_rfl
  | succ fuel ih =>
    rw [strip]
    split
    · exact (ih _).trans (Nat.div_le_self _ _)
    · exact le_rfl

/-- The midpoint between a magnitude and the one before it. -/
def lowerEnd (m : ℕ) : ℚ := (valueOf (m - 1) + valueOf m) / 2

/-- The midpoint between a magnitude and the next one. -/
def upperEnd (m : ℕ) : ℚ := (valueOf m + valueOf (m + 1)) / 2

theorem upperEnd_eq_lowerEnd (m : ℕ) : upperEnd m = lowerEnd (m + 1) := rfl

/-- The interval of a number reaches to the midpoints to its neighbours, and has them when its
magnitude is even. -/
structure Neighbourhood.Of (i : Neighbourhood) (m e : ℕ) : Prop where
  den : 0 < i.den
  mid : (i.mid / i.den : ℚ) = valueOf m
  low : (i.low / i.den : ℚ) = lowerEnd m
  high : (i.high / i.den : ℚ) = upperEnd m
  closed : i.closed = decide (m % 2 = 0)
  quarter : (i.low / i.den : ℚ) ≤ i.mid / i.den - unit e / 4

theorem upperEnd_grid {e s : ℕ} (hs : s < 2 ^ 53) (hnormal : e = 0 ∨ 2 ^ 52 ≤ s) :
    upperEnd (e * 2 ^ 52 + s) = (4 * s + 2) * (unit e / 4) := by
  rw [upperEnd, Nat.add_assoc, valueOf_grid hs.le hnormal,
    valueOf_grid hs (hnormal.imp_right fun h => h.trans (Nat.le_succ s))]
  push_cast
  ring

/-- Below the least significand the units are half as large. -/
theorem lowerEnd_grid {e s : ℕ} (hpos : 0 < s) (hs : s < 2 ^ 53) (hnormal : e = 0 ∨ 2 ^ 52 ≤ s) :
    lowerEnd (e * 2 ^ 52 + s) =
      (4 * s - if s = 2 ^ 52 ∧ 0 < e then 1 else 2) * (unit e / 4) := by
  rw [lowerEnd, valueOf_grid hs.le hnormal]
  split
  · next hedge =>
    obtain ⟨hleast, he⟩ := hedge
    obtain ⟨d, rfl⟩ : ∃ d, e = d + 1 := ⟨e - 1, by omega⟩
    have hbefore : (d + 1) * 2 ^ 52 + s - 1 = d * 2 ^ 52 + (2 ^ 53 - 1) := by omega
    have hs' : (s : ℚ) = 2 ^ 52 := by exact_mod_cast hleast
    have hvalue := @valueOf_grid d (2 ^ 53 - 1) (Nat.sub_le _ _) (.inr (by decide))
    have hcast : ((2 ^ 53 - 1 : ℕ) : ℚ) = 2 ^ 53 - 1 := by norm_num
    rw [hbefore, hvalue, hcast, unit_succ, hs']
    ring
  · next hinner =>
    have hbefore : e * 2 ^ 52 + s - 1 = e * 2 ^ 52 + (s - 1) := by omega
    have hcast : ((s - 1 : ℕ) : ℚ) = s - 1 := by
      push_cast [Nat.one_le_iff_ne_zero.mpr (Nat.ne_of_gt hpos)]
      rfl
    rw [hbefore, valueOf_grid (by omega) (by omega), hcast]
    ring

/-- The terms of a neighbourhood count quarters of the unit. -/
theorem quarters_eq (e n : ℕ) :
    ((n * (scale 1 ((e : ℤ) - 1074 - 2)).1 : ℕ) : ℚ) / (scale 1 ((e : ℤ) - 1074 - 2)).2 =
      n * (unit e / 4) := by
  have hquarter : ((scale 1 ((e : ℤ) - 1074 - 2)).1 : ℚ) / (scale 1 ((e : ℤ) - 1074 - 2)).2 =
      unit e / 4 := by
    rw [(scale_spec 1 ((e : ℤ) - 1074 - 2)).2, unit, zpow_sub₀ (by norm_num)]
    norm_num
  rw [Nat.cast_mul, mul_div_assoc, hquarter]

theorem lowQuarters_eq {e s : ℕ} (hpos : 0 < s) :
    ((if s = twoTo 52 && (e : ℤ) - 1074 > -1074 then 4 * s - 1 else 4 * s - 2 : ℕ) : ℚ) =
      4 * s - if s = 2 ^ 52 ∧ 0 < e then 1 else 2 := by
  have hiff : ((s = twoTo 52 && (e : ℤ) - 1074 > -1074) = true) ↔ s = 2 ^ 52 ∧ 0 < e := by
    rw [Bool.and_eq_true, decide_eq_true_eq, decide_eq_true_eq]
    exact and_congr Iff.rfl (by omega)
  by_cases hedge : s = 2 ^ 52 ∧ 0 < e
  · rw [if_pos (hiff.mpr hedge), if_pos hedge, Nat.cast_sub (by omega)]
    push_cast
    rfl
  · rw [if_neg fun h => hedge (hiff.mp h), if_neg hedge, Nat.cast_sub (by omega)]
    push_cast
    rfl

theorem neighbourhood_of {e s : ℕ} (hpos : 0 < s) (hs : s < 2 ^ 53) (hnormal : e = 0 ∨ 2 ^ 52 ≤ s) :
    (neighbourhood s ((e : ℤ) - 1074)).Of (e * 2 ^ 52 + s) e := by
  have hunit := unit_pos e
  have hmid : ((neighbourhood s ((e : ℤ) - 1074)).mid : ℚ) /
      (neighbourhood s ((e : ℤ) - 1074)).den = ((4 * s : ℕ) : ℚ) * (unit e / 4) :=
    quarters_eq e (4 * s)
  have hlow : ((neighbourhood s ((e : ℤ) - 1074)).low : ℚ) /
      (neighbourhood s ((e : ℤ) - 1074)).den =
        (4 * s - if s = 2 ^ 52 ∧ 0 < e then 1 else 2) * (unit e / 4) := by
    rw [← lowQuarters_eq hpos]
    exact quarters_eq e _
  refine ⟨(scale_spec 1 ((e : ℤ) - 1074 - 2)).1, ?_, ?_, ?_, ?_, ?_⟩
  · rw [valueOf_grid hs.le hnormal, hmid]
    push_cast
    ring
  · rw [lowerEnd_grid hpos hs hnormal, hlow]
  · rw [upperEnd_grid hs hnormal]
    refine (quarters_eq e (4 * s + 2)).trans ?_
    push_cast
    rfl
  · have hparity : (e * 2 ^ 52 + s) % 2 = s % 2 := by omega
    rw [hparity]
    rfl
  · have hgap : 4 * (s : ℚ) - (if s = 2 ^ 52 ∧ 0 < e then 1 else 2) ≤ 4 * s - 1 := by
      split <;> linarith
    have hstep := mul_le_mul_of_nonneg_right hgap (by linarith : 0 ≤ unit e / 4)
    rw [hlow, hmid]
    push_cast
    linarith

/-- The number of its digits places a number between powers of ten. -/
theorem length_toDigits_spec {n : ℕ} (hn : 0 < n) :
    (10 : ℚ) ^ (((Nat.toDigits 10 n).length : ℤ) - 1) ≤ n ∧
      (n : ℚ) + 1 ≤ 10 ^ ((Nat.toDigits 10 n).length : ℤ) := by
  obtain ⟨k, hk⟩ : ∃ k, (Nat.toDigits 10 n).length = k + 1 :=
    ⟨(Nat.toDigits 10 n).length - 1, by
      have := Nat.length_toDigits_pos (b := 10) (n := n)
      omega⟩
  have hupper : n < 10 ^ (k + 1) :=
    (Nat.length_toDigits_le_iff (by decide) (Nat.succ_pos k)).mp hk.le
  have hlower : 10 ^ k ≤ n := by
    rcases Nat.eq_zero_or_pos k with rfl | hpos
    · exact hn
    · by_contra hsmall
      have hshort := (Nat.length_toDigits_le_iff (b := 10) (by decide) hpos).mpr
        (Nat.not_le.mp hsmall)
      omega
  have hpred : ((k + 1 : ℕ) : ℤ) - 1 = (k : ℤ) := by
    push_cast
    ring
  rw [hk, hpred, zpow_natCast, zpow_natCast]
  exact ⟨by exact_mod_cast hlower, by exact_mod_cast hupper⟩

/-- The exponent that the search for digits starts with. -/
def start (i : Neighbourhood) : ℤ :=
  if i.high / i.den = 0 then -((Nat.toDigits 10 (i.den / i.high)).length : ℤ) + 1
  else (Nat.toDigits 10 (i.high / i.den)).length

theorem shortest_eq (x : Binary64) : x.shortest =
    (((neighbourhood x.significand.1 x.significand.2).search
      (start (neighbourhood x.significand.1 x.significand.2)) 20).getD ⟨0, 0⟩).strip 20 := rfl

/-- The search starts at the order of the upper end. -/
theorem start_spec {i : Neighbourhood} (hden : 0 < i.den) (hhigh : 0 < i.high) :
    (10 : ℚ) ^ (start i - 1) ≤ i.high / i.den ∧ (i.high / i.den : ℚ) ≤ 10 ^ start i := by
  have hden' : (0 : ℚ) < i.den := Nat.cast_pos.mpr hden
  have hhigh' : (0 : ℚ) < i.high := Nat.cast_pos.mpr hhigh
  have hfloor : ∀ {a b : ℕ}, 0 < b → ((a / b : ℕ) : ℚ) ≤ a / b ∧ (a / b : ℚ) < (a / b : ℕ) + 1 := by
    intro a b hb
    have hb' : (0 : ℚ) < b := Nat.cast_pos.mpr hb
    rw [le_div_iff₀ hb', div_lt_iff₀ hb']
    have hle : a / b * b ≤ a := Nat.div_mul_le_self a b
    have hlt : a < (a / b + 1) * b := by
      rw [Nat.mul_comm]
      exact Nat.lt_mul_div_succ a hb
    exact ⟨by exact_mod_cast hle, by exact_mod_cast hlt⟩
  unfold start
  by_cases hsmall : i.high / i.den = 0
  · rw [if_pos hsmall]
    have hless : i.high < i.den := (Nat.div_eq_zero_iff_lt hden).mp hsmall
    obtain ⟨hlow, hup⟩ := length_toDigits_spec (Nat.div_pos hless.le hhigh)
    obtain ⟨hle, hlt⟩ := hfloor (a := i.den) hhigh
    have hinverse : (i.high / i.den : ℚ) = (i.den / i.high : ℚ)⁻¹ := (inv_div _ _).symm
    have hfirst : -((Nat.toDigits 10 (i.den / i.high)).length : ℤ) + 1 - 1 =
        -((Nat.toDigits 10 (i.den / i.high)).length : ℤ) := by ring
    have hsecond : -((Nat.toDigits 10 (i.den / i.high)).length : ℤ) + 1 =
        -(((Nat.toDigits 10 (i.den / i.high)).length : ℤ) - 1) := by ring
    have hpositive : ∀ k : ℤ, (0 : ℚ) < 10 ^ k := fun k => zpow_pos (by norm_num) k
    rw [hinverse, hfirst, zpow_neg]
    refine ⟨inv_anti₀ (div_pos hden' hhigh') (hlt.le.trans hup), ?_⟩
    rw [hsecond, zpow_neg]
    exact inv_anti₀ (hpositive _) (hlow.trans hle)
  · rw [if_neg hsmall]
    obtain ⟨hlow, hup⟩ := length_toDigits_spec (Nat.pos_of_ne_zero hsmall)
    obtain ⟨hle, hlt⟩ := hfloor (a := i.high) hden
    exact ⟨hlow.trans hle, hlt.le.trans hup⟩

section Shortest

variable {i : Neighbourhood} {e s : ℕ}

theorem Neighbourhood.Of.high_pos (hof : i.Of (e * 2 ^ 52 + s) e) (hpos : 0 < s)
    (hs : s < 2 ^ 53) (hnormal : e = 0 ∨ 2 ^ 52 ≤ s) : 0 < i.high := by
  have hunit := unit_pos e
  have hs' : (1 : ℚ) ≤ s := by exact_mod_cast hpos
  by_contra hnone
  obtain hnone : i.high = 0 := by omega
  have hupper := hof.high.trans (upperEnd_grid hs hnormal)
  rw [hnone, Nat.cast_zero, zero_div] at hupper
  nlinarith

/-- The last grid of the search has a decimal in the interval. -/
theorem Neighbourhood.Of.search_isSome (hof : i.Of (e * 2 ^ 52 + s) e) (hpos : 0 < s)
    (hs : s < 2 ^ 53) (hnormal : e = 0 ∨ 2 ^ 52 ≤ s) :
    (i.search (start i) 20).isSome = true := by
  have hunit := unit_pos e
  have hupper : (i.high / i.den : ℚ) = (4 * s + 2) * (unit e / 4) :=
    hof.high.trans (upperEnd_grid hs hnormal)
  have hmid : (i.mid / i.den : ℚ) = s * unit e := hof.mid.trans (valueOf_grid hs.le hnormal)
  have hs' : (1 : ℚ) ≤ s := by exact_mod_cast hpos
  have hs'' : (s : ℚ) + 1 ≤ 2 ^ 53 := by exact_mod_cast hs
  obtain ⟨hbelow, -⟩ := start_spec hof.den (hof.high_pos hpos hs hnormal)
  have hfine : (10 : ℚ) ^ (start i - (18 : ℕ)) ≤ unit e / 4 := by
    have hsplit : (10 : ℚ) ^ (start i - 1) = 10 ^ (start i - (18 : ℕ)) * 10 ^ 17 := by
      rw [← zpow_natCast, ← zpow_add₀ (by norm_num)]
      congr 1
      push_cast
      ring
    rw [hsplit, hupper] at hbelow
    nlinarith
  have hfound := Neighbourhood.exists_onGrid hof.den hfine hof.quarter
    (by rw [hmid, hupper]; linarith) (by rw [hmid]; nlinarith)
  exact Neighbourhood.search_isSome (by decide) hfound

/-- The digits that are found lie in the interval, and are no more than the grids passed. -/
theorem Neighbourhood.found_spec (hden : 0 < i.den) (hhigh : 0 < i.high) {d : Digits}
    (hd : i.search (start i) 20 = some d) : i.Inside d.toRat ∧ d.value ≤ 10 ^ 19 := by
  obtain ⟨j, hj, hexponent, hgrid⟩ := Neighbourhood.search_spec hd
  have hinside := ((Neighbourhood.onGrid_spec hden d.exponent).1 d.value hgrid).1
  have hvalue : (d.value : ℚ) ≤ 10 ^ j := by
    have hsplit : (10 : ℚ) ^ start i = 10 ^ j * 10 ^ d.exponent := by
      rw [hexponent, ← zpow_natCast, ← zpow_add₀ (by norm_num)]
      congr 1
      ring
    have hscale : (0 : ℚ) < 10 ^ d.exponent := zpow_pos (by norm_num) _
    have hle := hinside.le.2.trans (start_spec hden hhigh).2
    rw [hsplit] at hle
    exact le_of_mul_le_mul_right hle hscale
  have hvalue' : d.value ≤ 10 ^ j := by exact_mod_cast hvalue
  exact ⟨hinside, hvalue'.trans (Nat.pow_le_pow_right (by decide) (by omega))⟩

end Shortest

/-- What the digits of a finite number other than zero have to do with it. -/
structure Digits.Near (d : Digits) (m : ℕ) : Prop where
  ne_zero : d.value ≠ 0
  le : d.value ≤ 10 ^ 19
  within : lowerEnd m ≤ d.toRat ∧ d.toRat ≤ upperEnd m
  odd : m % 2 = 1 → lowerEnd m < d.toRat ∧ d.toRat < upperEnd m

theorem shortest_near {x : Binary64} (hzero : x.magnitude ≠ 0) :
    x.shortest.Near x.magnitude := by
  obtain ⟨e, s, hsignificand, hmagnitude, hs, hnormal⟩ := significand_eq x
  have hpos : 0 < s := by
    by_contra hnone
    omega
  have hof := neighbourhood_of hpos hs hnormal
  rw [shortest_eq, hsignificand, hmagnitude]
  dsimp only
  generalize neighbourhood s ((e : ℤ) - 1074) = i at hof
  obtain ⟨d, hd⟩ := Option.isSome_iff_exists.mp (hof.search_isSome hpos hs hnormal)
  obtain ⟨hinside, hvalue⟩ :=
    Neighbourhood.found_spec hof.den (hof.high_pos hpos hs hnormal) hd
  rw [hd, Option.getD_some]
  refine ⟨strip_value_ne_zero (search_value_ne_zero hd) 20, ?_, ?_, ?_⟩
  · exact (Digits.strip_value_le d 20).trans hvalue
  · rw [Digits.toRat_strip, ← hof.low, ← hof.high]
    exact hinside.le
  · intro hodd
    have hopen : i.closed = false := by
      rw [hof.closed]
      exact decide_eq_false (by omega)
    rw [Digits.toRat_strip, ← hof.low, ← hof.high]
    unfold Neighbourhood.Inside at hinside
    rwa [hopen, if_neg Bool.false_ne_true] at hinside

theorem lowerEnd_mono {m n : ℕ} (h : m ≤ n) : lowerEnd m ≤ lowerEnd n := by
  have hbefore := valueOf_strictMono.monotone (Nat.sub_le_sub_right h 1)
  have hself := valueOf_strictMono.monotone h
  unfold lowerEnd
  linarith

/-- The decimals of different numbers are different: their intervals meet in an end at most, and
one of two neighbours does not have it. -/
theorem toRat_lt_of_near {a b : Digits} {m n : ℕ} (ha : a.Near m) (hb : b.Near n) (h : m < n) :
    a.toRat < b.toRat := by
  have hbetween : upperEnd m ≤ lowerEnd n := by
    rw [upperEnd_eq_lowerEnd]
    exact lowerEnd_mono h
  by_cases hodd : m % 2 = 1
  · exact ((ha.odd hodd).2.trans_le hbetween).trans_le hb.within.1
  · by_cases hnext : n = m + 1
    · exact (ha.within.2.trans hbetween).trans_lt (hb.odd (by omega)).1
    · have hlater : upperEnd m < lowerEnd n := by
        have hgap : valueOf m < valueOf (n - 1) := valueOf_strictMono (by omega)
        have hstep : valueOf (m + 1) ≤ valueOf n := valueOf_strictMono.monotone h
        unfold upperEnd lowerEnd
        linarith
      exact (ha.within.2.trans_lt hlater).trans_le hb.within.1

theorem magnitude_eq_of_toRat {x y : Binary64} (hx : x.magnitude ≠ 0) (hy : y.magnitude ≠ 0)
    (h : x.shortest.toRat = y.shortest.toRat) : x.magnitude = y.magnitude := by
  have hnearX := shortest_near hx
  have hnearY := shortest_near hy
  rcases Nat.lt_trichotomy x.magnitude y.magnitude with hlt | heq | hgt
  · exact absurd h (toRat_lt_of_near hnearX hnearY hlt).ne
  · exact heq
  · exact absurd h (toRat_lt_of_near hnearY hnearX hgt).ne'

end Runbook.Binary64
