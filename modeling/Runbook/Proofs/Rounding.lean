import Mathlib.Algebra.Order.Field.Power
import Mathlib.Algebra.Order.Ring.Abs
import Mathlib.Tactic.FieldSimp
import Mathlib.Tactic.Linarith
import Mathlib.Tactic.Positivity
import Runbook.Proofs.NumberOrder

/-!
Rounding quotients to floating-point numbers. The numbers with one exponent are the multiples of a
unit; a quotient is rounded to a multiple that is off by at most half of it. From the normal range
on this is a relative error, and nothing that stays below the last midpoint is rounded to an
infinity.
-/

namespace Runbook.Binary64

/-- The distance between neighbouring numbers, as their exponent says. -/
def unit (e : ℕ) : ℚ := 2 ^ ((e : ℤ) - 1074)

theorem unit_pos (e : ℕ) : 0 < unit e := zpow_pos (by norm_num) _

theorem unit_succ (e : ℕ) : unit (e + 1) = 2 * unit e := by
  have hexponent : ((e + 1 : ℕ) : ℤ) - 1074 = ((e : ℤ) - 1074) + 1 := by
    push_cast
    ring
  rw [unit, hexponent, zpow_add_one₀ (by norm_num), unit, mul_comm]

theorem valueOf_grid {e q : ℕ} (hq : q ≤ 2 ^ 53) (h : e = 0 ∨ 2 ^ 52 ≤ q) :
    valueOf (e * 2 ^ 52 + q) = q * unit e := by
  unfold valueOf
  by_cases hsmall : q < 2 ^ 52
  · obtain rfl : e = 0 := by omega
    have hexponent : (0 * 2 ^ 52 + q) / 2 ^ 52 = 0 := by omega
    have hfraction : (0 * 2 ^ 52 + q) % 2 ^ 52 = q := by omega
    rw [if_pos hexponent, hfraction]
    rfl
  by_cases hfull : q = 2 ^ 53
  · subst hfull
    have hexponent : (e * 2 ^ 52 + 2 ^ 53) / 2 ^ 52 = e + 2 := by omega
    have hfraction : 2 ^ 52 + (e * 2 ^ 52 + 2 ^ 53) % 2 ^ 52 = 2 ^ 52 := by omega
    have hpower : ((e + 2 : ℕ) : ℤ) - 1075 = ((e + 1 : ℕ) : ℤ) - 1074 := by omega
    have hunit : (2 : ℚ) ^ (((e + 2 : ℕ) : ℤ) - 1075) = unit (e + 1) := by rw [unit, hpower]
    rw [if_neg (by omega), hexponent, hfraction, hunit, unit_succ]
    push_cast
    ring
  · have hexponent : (e * 2 ^ 52 + q) / 2 ^ 52 = e + 1 := by omega
    have hfraction : 2 ^ 52 + (e * 2 ^ 52 + q) % 2 ^ 52 = q := by omega
    have hpower : ((e + 1 : ℕ) : ℤ) - 1075 = (e : ℤ) - 1074 := by omega
    have hunit : (2 : ℚ) ^ (((e + 1 : ℕ) : ℤ) - 1075) = unit e := by rw [unit, hpower]
    rw [if_neg (by omega), hexponent, hfraction, hunit]

theorem cast_twoTo (n : ℕ) : ((twoTo n : ℕ) : ℚ) = 2 ^ n := by
  change ((2 ^ n : ℕ) : ℚ) = 2 ^ n
  push_cast
  rfl

theorem scale_spec (n : ℕ) (e : ℤ) :
    0 < (scale n e).2 ∧ ((scale n e).1 : ℚ) / (scale n e).2 = n * 2 ^ e := by
  unfold scale
  split
  · next he =>
    refine ⟨Nat.one_pos, ?_⟩
    rw [Nat.cast_mul, cast_twoTo, Nat.cast_one, div_one, ← zpow_natCast, Int.toNat_of_nonneg he]
  · next he =>
    refine ⟨Nat.pow_pos (by decide), ?_⟩
    rw [cast_twoTo, div_eq_mul_inv, ← zpow_natCast, ← zpow_neg, Int.toNat_of_nonneg (by omega),
      neg_neg]

/-- A quotient brought to the exponent of a unit. -/
def quotientAt (num den : ℕ) (k : ℤ) : ℕ × ℕ :=
  if 0 ≤ k then (num, den * twoTo k.toNat) else (num * twoTo (-k).toNat, den)

theorem quotientAt_spec (num : ℕ) {den : ℕ} (hden : 0 < den) (k : ℤ) :
    0 < (quotientAt num den k).2 ∧
      ((quotientAt num den k).1 : ℚ) / (quotientAt num den k).2 = num / den / 2 ^ k := by
  have hpos : (0 : ℚ) < den := Nat.cast_pos.mpr hden
  unfold quotientAt
  split
  · next hk =>
    have hscale : (2 : ℚ) ^ k = 2 ^ k.toNat := by
      rw [← zpow_natCast, Int.toNat_of_nonneg hk]
    refine ⟨Nat.mul_pos hden (Nat.pow_pos (by decide)), ?_⟩
    rw [Nat.cast_mul, cast_twoTo, hscale, div_div]
  · next hk =>
    have hscale : (2 : ℚ) ^ k = (2 ^ (-k).toNat)⁻¹ := by
      rw [← zpow_natCast, ← zpow_neg, Int.toNat_of_nonneg (by omega), neg_neg]
    refine ⟨hden, ?_⟩
    rw [Nat.cast_mul, cast_twoTo, hscale, div_inv_eq_mul]
    ring

/-- Half a unit is what rounding a quotient to an integer can make of an error. -/
theorem rounded_near {n d : ℕ} (hd : 0 < d) {q : ℕ}
    (hq : q = if 2 * (n % d) > d || (2 * (n % d) == d && n / d % 2 == 1)
      then n / d + 1 else n / d) :
    |(q : ℚ) - n / d| ≤ 1 / 2 := by
  have hsplit : d * (n / d) + n % d = n := Nat.div_add_mod n d
  have hrest : n % d < d := Nat.mod_lt n hd
  have hpos : (0 : ℚ) < d := Nat.cast_pos.mpr hd
  have hclose : 2 * (d * q) ≤ 2 * n + d ∧ 2 * n ≤ 2 * (d * q) + d := by
    rw [hq]
    split
    · next hup =>
      have hhalf : d ≤ 2 * (n % d) := by
        simp only [Bool.or_eq_true, decide_eq_true_eq, Bool.and_eq_true, beq_iff_eq] at hup
        omega
      rw [Nat.mul_add, Nat.mul_one]
      omega
    · next hdown =>
      have hhalf : 2 * (n % d) ≤ d := by
        by_contra hover
        exact hdown (by simp [Nat.not_le.mp hover])
      omega
  obtain ⟨habove, hbelow⟩ := hclose
  have habove' : 2 * ((d : ℚ) * q) ≤ 2 * n + d := by exact_mod_cast habove
  have hbelow' : 2 * (n : ℚ) ≤ 2 * ((d : ℚ) * q) + d := by exact_mod_cast hbelow
  have hscaled : (q : ℚ) - n / d = (d * q - n) / d := by
    field_simp
  rw [hscaled, abs_le, le_div_iff₀ hpos, div_le_iff₀ hpos]
  constructor <;> linarith

/-- The binary logarithms of its terms place a quotient between powers of two. -/
theorem quotient_between {num den : ℕ} (hnum : 0 < num) (hden : 0 < den) :
    (2 : ℚ) ^ ((num.log2 : ℤ) - den.log2 - 1) < num / den ∧
      (num / den : ℚ) < 2 ^ ((num.log2 : ℤ) - den.log2 + 1) := by
  have hbounds : ∀ {n : ℕ}, 0 < n →
      (2 : ℚ) ^ (n.log2 : ℤ) ≤ n ∧ (n : ℚ) < 2 ^ (n.log2 + 1 : ℤ) := by
    intro n hn
    have hlow : 2 ^ n.log2 ≤ n := Nat.log2_self_le (by omega)
    have hhigh : n < 2 ^ (n.log2 + 1) := Nat.lt_log2_self
    have hcast : (n.log2 + 1 : ℤ) = ((n.log2 + 1 : ℕ) : ℤ) := by push_cast; rfl
    rw [hcast, zpow_natCast, zpow_natCast]
    exact ⟨by exact_mod_cast hlow, by exact_mod_cast hhigh⟩
  obtain ⟨hnumLow, hnumHigh⟩ := hbounds hnum
  obtain ⟨hdenLow, hdenHigh⟩ := hbounds hden
  have hpos : (0 : ℚ) < den := Nat.cast_pos.mpr hden
  have hpower : ∀ k : ℤ, (0 : ℚ) < 2 ^ k := fun k => zpow_pos (by norm_num) k
  constructor
  · rw [lt_div_iff₀ hpos]
    calc (2 : ℚ) ^ ((num.log2 : ℤ) - den.log2 - 1) * den
        < 2 ^ ((num.log2 : ℤ) - den.log2 - 1) * 2 ^ (den.log2 + 1 : ℤ) :=
          mul_lt_mul_of_pos_left hdenHigh (hpower _)
      _ = 2 ^ (num.log2 : ℤ) := by
          rw [← zpow_add₀ (by norm_num)]
          congr 1
          ring
      _ ≤ num := hnumLow
  · rw [div_lt_iff₀ hpos]
    calc (num : ℚ) < 2 ^ (num.log2 + 1 : ℤ) := hnumHigh
      _ = 2 ^ ((num.log2 : ℤ) - den.log2 + 1) * 2 ^ (den.log2 : ℤ) := by
          rw [← zpow_add₀ (by norm_num)]
          congr 1
          ring
      _ ≤ 2 ^ ((num.log2 : ℤ) - den.log2 + 1) * den :=
          mul_le_mul_of_nonneg_left hdenLow (hpower _).le

theorem quotientAt_lt_iff (num : ℕ) {den : ℕ} (hden : 0 < den) (k : ℤ) (bound : ℕ) :
    (quotientAt num den k).1 / (quotientAt num den k).2 < bound ↔
      (num / den : ℚ) < bound * 2 ^ k := by
  obtain ⟨hpos, hvalue⟩ := quotientAt_spec num hden k
  have hpos' : (0 : ℚ) < (quotientAt num den k).2 := Nat.cast_pos.mpr hpos
  rw [Nat.div_lt_iff_lt_mul hpos, ← div_lt_iff₀ (zpow_pos (by norm_num) k), ← hvalue,
    div_lt_iff₀ hpos']
  exact_mod_cast Iff.rfl

/-- The exponent that a quotient is rounded at leaves 53 binary digits before the point, unless it
is the least one. -/
theorem exponent_spec {num den : ℕ} (hnum : 0 < num) (hden : 0 < den) {low e : ℤ}
    (hlow : low = max ((num.log2 : ℤ) - den.log2 - 53) (-1074))
    (he : e = if (quotientAt num den low).1 / (quotientAt num den low).2 < twoTo 53 then low
      else low + 1) :
    -1074 ≤ e ∧ (num / den : ℚ) < 2 ^ 53 * 2 ^ e ∧
      (e = -1074 ∨ 2 ^ 52 * 2 ^ e ≤ (num / den : ℚ)) := by
  obtain ⟨hbelow, habove⟩ := quotient_between hnum hden
  have hmono : ∀ {i j : ℤ}, i ≤ j → (2 : ℚ) ^ i ≤ 2 ^ j := zpow_le_zpow_right₀ (by norm_num)
  have hshift : ∀ (n : ℕ) (k : ℤ), (2 : ℚ) ^ n * 2 ^ k = 2 ^ (n + k) := fun n k => by
    rw [zpow_add₀ (by norm_num), zpow_natCast]
  have hiff := quotientAt_lt_iff num hden low (twoTo 53)
  rw [cast_twoTo] at hiff
  split at he
  · next hfits =>
    rw [he]
    refine ⟨by omega, hiff.mp hfits, ?_⟩
    by_cases hleast : low = -1074
    · exact .inl hleast
    · refine .inr (le_trans ?_ hbelow.le)
      rw [hshift]
      apply hmono
      push_cast
      omega
  · next hover =>
    have hlarge : 2 ^ 53 * 2 ^ low ≤ (num / den : ℚ) := not_lt.mp fun hlt => hover (hiff.mpr hlt)
    rw [he]
    refine ⟨by omega, lt_of_lt_of_le habove ?_, .inr ?_⟩
    · rw [hshift]
      apply hmono
      push_cast
      omega
    · calc (2 : ℚ) ^ 52 * 2 ^ (low + 1) = 2 ^ 53 * 2 ^ low := by
            rw [zpow_add_one₀ (by norm_num)]
            ring
        _ ≤ (num / den : ℚ) := hlarge

/-- How a quotient is rounded: to `q` units of the exponent `e`, off by at most half of one. -/
structure Rounds (r : ℚ) (bits e q : ℕ) : Prop where
  bits : bits = min (e * 2 ^ 52 + q) infinityBits
  le : q ≤ 2 ^ 53
  normal : e = 0 ∨ 2 ^ 52 ≤ q ∧ 2 ^ 52 * unit e ≤ r
  near : |q * unit e - r| ≤ unit e / 2

theorem exists_rounds {num den : ℕ} (hnum : 0 < num) (hden : 0 < den) :
    ∃ e q, Rounds (num / den) (nearestBits num den) e q := by
  unfold nearestBits
  rw [if_neg (show ¬ num = 0 by omega)]
  extract_lets low quotient e
  obtain ⟨hleast, hfits, hnormal⟩ := @exponent_spec num den hnum hden low e rfl rfl
  obtain ⟨hpos, hvalue⟩ := quotientAt_spec num hden e
  have hunit : (2 : ℚ) ^ e = unit (e + 1074).toNat := by
    rw [unit]
    congr 1
    omega
  have hsame : quotient e = quotientAt num den e := rfl
  have hbelow := (quotientAt_lt_iff num hden e (2 ^ 53)).mpr (by exact_mod_cast hfits)
  have habove : e = -1074 ∨ 2 ^ 52 ≤ (quotientAt num den e).1 / (quotientAt num den e).2 := by
    refine hnormal.imp_right fun hlarge => ?_
    rw [← Nat.not_lt, quotientAt_lt_iff num hden e, not_lt]
    exact_mod_cast hlarge
  rw [hsame]
  generalize quotientAt num den e = terms at hpos hvalue hbelow habove
  obtain ⟨n, d⟩ := terms
  dsimp only at hpos hvalue hbelow habove ⊢
  obtain ⟨q, hq⟩ : ∃ q, q = if 2 * (n % d) > d || (2 * (n % d) == d && n / d % 2 == 1)
      then n / d + 1 else n / d := ⟨_, rfl⟩
  have hnear := rounded_near hpos hq
  rw [← hq]
  have hstep : n / d ≤ q ∧ q ≤ n / d + 1 := by
    rw [hq]
    split <;> omega
  refine ⟨(e + 1074).toNat, q, rfl, by omega, ?_, ?_⟩
  · rcases habove with hleast' | hlarge
    · exact .inl (by omega)
    · rcases hnormal with hleast' | hr
      · exact .inl (by omega)
      · exact .inr ⟨by omega, hunit ▸ hr⟩
  · have hpositive := unit_pos (e + 1074).toNat
    rw [hvalue, hunit] at hnear
    have hscaled : (q : ℚ) * unit (e + 1074).toNat - num / den =
        (q - num / den / unit (e + 1074).toNat) * unit (e + 1074).toNat := by
      field_simp
    rw [hscaled, abs_mul, abs_of_pos hpositive]
    calc |(q : ℚ) - num / den / unit (e + 1074).toNat| * unit (e + 1074).toNat
        ≤ 1 / 2 * unit (e + 1074).toNat := mul_le_mul_of_nonneg_right hnear hpositive.le
      _ = unit (e + 1074).toNat / 2 := by ring

theorem valueOf_strictMono : StrictMono valueOf := strictMono_nat_of_lt_succ valueOf_lt_succ

/-- The significand of a number counts units. -/
theorem significand_eq (x : Binary64) : ∃ e s : ℕ, x.significand = (s, (e : ℤ) - 1074) ∧
    x.magnitude = e * 2 ^ 52 + s ∧ s < 2 ^ 53 ∧ (e = 0 ∨ 2 ^ 52 ≤ s) := by
  have htwo : twoTo 52 = 2 ^ 52 := rfl
  unfold significand
  simp only [htwo]
  split
  · next hsmall => exact ⟨0, x.magnitude % 2 ^ 52, by simp, by omega, by omega, .inl rfl⟩
  · next hlarge =>
    refine ⟨x.magnitude / 2 ^ 52 - 1, 2 ^ 52 + x.magnitude % 2 ^ 52, ?_, by omega, by omega,
      .inr (by omega)⟩
    congr 1
    omega

theorem unit_mono {d e : ℕ} (h : d ≤ e) : unit d ≤ unit e :=
  zpow_le_zpow_right₀ (by norm_num) (by omega)

/-- What stays below the last midpoint is not rounded to an infinity. -/
theorem nearestBits_lt_infinityBits {num den : ℕ} (hden : 0 < den)
    (h : (num / den : ℚ) < (2 ^ 53 - 1 / 2) * unit 2045) : nearestBits num den < infinityBits := by
  rcases Nat.eq_zero_or_pos num with rfl | hnum
  · rw [nearestBits, if_pos rfl]
    decide
  obtain ⟨e, q, hrounds⟩ := exists_rounds hnum hden
  have hlast : unit 2046 = 2 * unit 2045 := unit_succ 2045
  have hpos := unit_pos 2045
  by_contra hreaches
  have hbits : infinityBits ≤ e * 2 ^ 52 + q := by
    have := hrounds.bits
    omega
  have hsize : infinityBits = 2047 * 2 ^ 52 := rfl
  by_cases hover : 2046 ≤ e
  · rcases hrounds.normal with hzero | ⟨-, hr⟩
    · omega
    · have hunit := unit_mono hover
      linarith
  · obtain rfl : e = 2045 := by
      have := hrounds.le
      omega
    obtain rfl : q = 2 ^ 53 := by
      have := hrounds.le
      omega
    have hnear := (abs_le.mp hrounds.near).2
    push_cast at hnear
    linarith

/-- The relative error of rounding a quotient in the normal range. -/
theorem valueOf_nearestBits_le {num den : ℕ} (hnum : 0 < num) (hden : 0 < den)
    (h : 2 ^ 52 * unit 0 ≤ (num / den : ℚ)) :
    valueOf (nearestBits num den) ≤ num / den * (1 + 1 / 2 ^ 53) := by
  obtain ⟨e, q, hrounds⟩ := exists_rounds hnum hden
  have hscale : 2 ^ 52 * unit e ≤ (num / den : ℚ) := by
    rcases hrounds.normal with rfl | ⟨-, hr⟩
    · exact h
    · exact hr
  have hgrid : valueOf (e * 2 ^ 52 + q) = q * unit e :=
    valueOf_grid hrounds.le (hrounds.normal.imp_right And.left)
  have hnear := (abs_le.mp hrounds.near).2
  calc valueOf (nearestBits num den)
      ≤ valueOf (e * 2 ^ 52 + q) := by
        rw [hrounds.bits]
        exact valueOf_strictMono.monotone (min_le_left _ _)
    _ = q * unit e := hgrid
    _ ≤ num / den + unit e / 2 := by linarith
    _ ≤ num / den * (1 + 1 / 2 ^ 53) := by linarith

end Runbook.Binary64
