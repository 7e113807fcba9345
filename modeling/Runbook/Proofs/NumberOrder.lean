import Mathlib.Order.Monotone.Basic
import Mathlib.Tactic.Linarith
import Mathlib.Tactic.Ring
import Runbook.Validation.Rules

/-!
What floating-point numbers stand for, and that their comparison compares just that. The bits
without the sign count the values from zero up, so that the rank of a number grows with its value.
A test for a range then lets through the finite numbers with a value within it.
-/

namespace Runbook.Binary64

/-- The value that a magnitude stands for, as the significand and its power of two give it. -/
def valueOf (magnitude : ℕ) : ℚ :=
  if magnitude / 2 ^ 52 = 0 then ((magnitude % 2 ^ 52 : ℕ) : ℚ) * 2 ^ (-1074 : ℤ)
  else ((2 ^ 52 + magnitude % 2 ^ 52 : ℕ) : ℚ) * 2 ^ (((magnitude / 2 ^ 52 : ℕ) : ℤ) - 1075)

/-- The value of a finite number. -/
def toRat (x : Binary64) : ℚ :=
  (if x.isNegative then -1 else 1) * ((x.significand.1 : ℚ) * 2 ^ x.significand.2)

theorem significand_value (x : Binary64) :
    (x.significand.1 : ℚ) * 2 ^ x.significand.2 = valueOf x.magnitude := by
  have htwo : twoTo 52 = 2 ^ 52 := rfl
  unfold significand valueOf
  rw [htwo]
  by_cases hsmall : x.magnitude / 2 ^ 52 = 0
  · simp only [hsmall, if_true]
  · simp only [hsmall, if_false]

theorem valueOf_zero : valueOf 0 = 0 := by
  have hzero : (0 : ℕ) / 2 ^ 52 = 0 := by norm_num
  rw [valueOf, if_pos hzero, Nat.zero_mod, Nat.cast_zero, zero_mul]

/-- The next magnitude stands for the next larger value. -/
theorem valueOf_lt_succ (m : ℕ) : valueOf m < valueOf (m + 1) := by
  have hunit : ∀ e : ℤ, (0 : ℚ) < 2 ^ e := fun e => zpow_pos (by norm_num) e
  have hscaled : ∀ (e : ℤ) {a b : ℕ}, a < b → (a : ℚ) * 2 ^ e < (b : ℚ) * 2 ^ e :=
    fun e _ _ hlt => mul_lt_mul_of_pos_right (Nat.cast_lt.mpr hlt) (hunit e)
  unfold valueOf
  by_cases hfull : m % 2 ^ 52 + 1 = 2 ^ 52
  · have hexponent : (m + 1) / 2 ^ 52 = m / 2 ^ 52 + 1 := by omega
    have hfraction : (m + 1) % 2 ^ 52 = 0 := by omega
    rw [hexponent, hfraction, if_neg (Nat.succ_ne_zero _), Nat.add_zero]
    by_cases hsmall : m / 2 ^ 52 = 0
    · rw [if_pos hsmall, hsmall]
      exact hscaled (-1074) (by omega)
    · rw [if_neg hsmall]
      have hdouble : ((2 ^ 52 : ℕ) : ℚ) * 2 ^ (((m / 2 ^ 52 + 1 : ℕ) : ℤ) - 1075) =
          ((2 ^ 53 : ℕ) : ℚ) * 2 ^ (((m / 2 ^ 52 : ℕ) : ℤ) - 1075) := by
        have hsum : ((m / 2 ^ 52 + 1 : ℕ) : ℤ) - 1075 = (((m / 2 ^ 52 : ℕ) : ℤ) - 1075) + 1 := by
          push_cast
          ring
        rw [hsum, zpow_add_one₀ (by norm_num)]
        push_cast
        ring
      rw [hdouble]
      exact hscaled _ (by omega)
  · have hexponent : (m + 1) / 2 ^ 52 = m / 2 ^ 52 := by omega
    have hfraction : (m + 1) % 2 ^ 52 = m % 2 ^ 52 + 1 := by omega
    rw [hexponent, hfraction]
    by_cases hsmall : m / 2 ^ 52 = 0
    · rw [if_pos hsmall, if_pos hsmall]
      exact hscaled _ (Nat.lt_succ_self _)
    · rw [if_neg hsmall, if_neg hsmall]
      exact hscaled _ (by omega)

/-- The value at a rank: a magnitude, or one below zero. -/
def valueAt : ℤ → ℚ
  | .ofNat n => valueOf n
  | .negSucc n => -valueOf (n + 1)

theorem valueAt_lt_succ (r : ℤ) : valueAt r < valueAt (r + 1) := by
  cases r with
  | ofNat n => exact valueOf_lt_succ n
  | negSucc n =>
    cases n with
    | zero =>
      have hpos : valueOf 0 < valueOf 1 := valueOf_lt_succ 0
      change -valueOf 1 < valueOf 0
      rw [valueOf_zero] at hpos ⊢
      linarith
    | succ n =>
      have hlt : valueOf (n + 1) < valueOf (n + 2) := valueOf_lt_succ (n + 1)
      change -valueOf (n + 2) < -valueOf (n + 1)
      linarith

theorem valueAt_le_iff (r s : ℤ) : valueAt r ≤ valueAt s ↔ r ≤ s :=
  (strictMono_int_of_lt_succ valueAt_lt_succ).le_iff_le

theorem toRat_eq (x : Binary64) : x.toRat = valueAt x.rank := by
  rw [toRat, significand_value, rank]
  by_cases hsign : x.isNegative = true
  · rw [if_pos hsign, if_pos hsign]
    cases x.magnitude with
    | zero =>
      change -1 * valueOf 0 = valueOf 0
      rw [valueOf_zero, mul_zero]
    | succ n =>
      change -1 * valueOf (n + 1) = -valueOf (n + 1)
      rw [neg_one_mul]
  · rw [if_neg hsign, if_neg hsign, one_mul]
    rfl

theorem rank_le_iff (x y : Binary64) : x.rank ≤ y.rank ↔ x.toRat ≤ y.toRat := by
  rw [toRat_eq, toRat_eq, valueAt_le_iff]

theorem natAbs_rank (x : Binary64) : x.rank.natAbs = x.magnitude := by
  unfold rank
  split
  · rw [Int.natAbs_neg, Int.natAbs_natCast]
  · rw [Int.natAbs_natCast]

theorem isNaN_of_isFinite {x : Binary64} (h : x.isFinite = true) : x.isNaN = false := by
  simp only [isFinite, decide_eq_true_eq] at h
  simp only [isNaN, decide_eq_false_iff_not]
  omega

/-- Finite numbers compare as their values do. -/
theorem le_iff {x y : Binary64} (hx : x.isFinite = true) (hy : y.isFinite = true) :
    x.le y = true ↔ x.toRat ≤ y.toRat := by
  rw [le, isNaN_of_isFinite hx, isNaN_of_isFinite hy, ← rank_le_iff]
  simp

/-- A finite number from zero up to a bound. -/
def Within (x : Binary64) (high : ℚ) : Prop :=
  x.isFinite = true ∧ 0 ≤ x.toRat ∧ x.toRat ≤ high

instance (x : Binary64) (high : ℚ) : Decidable (x.Within high) :=
  inferInstanceAs (Decidable (_ ∧ _ ∧ _))

theorem isInRange_iff {high : ℕ} (hfinite : (ofInt high).isFinite = true)
    (hvalue : (ofInt high).toRat = high) (x : Binary64) :
    Validation.isInRange x high = true ↔ x.Within high := by
  have hzero : (zero false).isFinite = true := by decide
  have hzeroRank : (zero false).rank = 0 := by decide
  have hzeroValue : (zero false).toRat = 0 := by
    rw [toRat_eq, hzeroRank]
    exact valueOf_zero
  constructor
  · intro h
    obtain ⟨hlow, hhigh⟩ := (Bool.and_eq_true _ _).mp h
    have hx : x.isFinite = true := by
      simp only [le, Bool.and_eq_true, decide_eq_true_eq, hzeroRank] at hlow hhigh
      have hx := natAbs_rank x
      have hbound := natAbs_rank (ofInt high)
      simp only [isFinite, decide_eq_true_eq] at hfinite ⊢
      omega
    rw [le_iff hzero hx, hzeroValue] at hlow
    rw [le_iff hx hfinite, hvalue] at hhigh
    exact ⟨hx, hlow, hhigh⟩
  · rintro ⟨hx, hlow, hhigh⟩
    refine (Bool.and_eq_true _ _).mpr ⟨?_, ?_⟩
    · rwa [le_iff hzero hx, hzeroValue]
    · rwa [le_iff hx hfinite, hvalue]

theorem isInRange_two (x : Binary64) : Validation.isInRange x 2 = true ↔ x.Within 2 := by
  have hsign : (ofInt (2 : ℕ)).isNegative = false := by decide +kernel
  have hsignificand : (ofInt (2 : ℕ)).significand = (2 ^ 52, -51) := by decide +kernel
  refine isInRange_iff (by decide +kernel) ?_ x
  rw [toRat, hsign, hsignificand]
  norm_num

theorem isInRange_one (x : Binary64) : Validation.isInRange x 1 = true ↔ x.Within 1 := by
  have hsign : (ofInt (1 : ℕ)).isNegative = false := by decide +kernel
  have hsignificand : (ofInt (1 : ℕ)).significand = (2 ^ 52, -52) := by decide +kernel
  refine isInRange_iff (by decide +kernel) ?_ x
  rw [toRat, hsign, hsignificand]
  norm_num

end Runbook.Binary64
