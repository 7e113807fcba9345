import Mathlib.Algebra.Order.Ring.Abs
import Runbook.Proofs.CaptureRestore
import Runbook.Proofs.NumberOrder

/-!
What is left of a JSON value that a run has held as a variable. Every value comes back as it was,
but for the integers beyond the signed ones: they come back as the floating-point numbers nearest
to them, which stand 2048 apart there.
-/

namespace Runbook

namespace Binary64

theorem toRat_withSign {m : ℕ} (h : m < 2 ^ 63) : (withSign false m).toRat = valueOf m := by
  have hmagnitude : (withSign false m).magnitude = m := magnitude_withSign false h
  have hsign : (withSign false m).isNegative = false := by
    have hbits : (UInt64.ofNat m).toNat = m := by
      rw [UInt64.toNat_ofNat']
      omega
    have hbound : ¬ 2 ^ 63 ≤ (UInt64.ofNat m).toNat := by omega
    exact decide_eq_false hbound
  rw [toRat, significand_value, hmagnitude, hsign, if_neg Bool.false_ne_true, one_mul]

theorem valueOf_large {q : ℕ} (hlow : 2 ^ 52 ≤ q) (hhigh : q ≤ 2 ^ 53) :
    valueOf (1085 * 2 ^ 52 + q) = 2048 * q := by
  unfold valueOf
  by_cases hfull : q = 2 ^ 53
  · subst hfull
    norm_num
  · have hexponent : (1085 * 2 ^ 52 + q) / 2 ^ 52 = 1086 := by omega
    have hfraction : 2 ^ 52 + (1085 * 2 ^ 52 + q) % 2 ^ 52 = q := by omega
    rw [hexponent, hfraction, if_neg (by omega)]
    norm_num
    ring

/-- From 2 ^ 63 on all numbers are multiples of 2048. -/
theorem multiple_of_large {x : Binary64} (h : 2 ^ 63 ≤ x.toRat) :
    ∃ k : ℕ, x.toRat = 2048 * k := by
  have hleast : valueAt ((1086 * 2 ^ 52 : ℕ) : ℤ) = 2 ^ 63 := by
    show valueOf (1085 * 2 ^ 52 + 2 ^ 52) = 2 ^ 63
    rw [valueOf_large (le_refl _) (by omega)]
    norm_num
  have hrank : ((1086 * 2 ^ 52 : ℕ) : ℤ) ≤ x.rank := by
    rwa [← valueAt_le_iff, hleast, ← toRat_eq]
  obtain ⟨m, hm⟩ := Int.eq_ofNat_of_zero_le (show 0 ≤ x.rank by omega)
  have hexponent : 1086 ≤ m / 2 ^ 52 := by omega
  refine ⟨(2 ^ 52 + m % 2 ^ 52) * 2 ^ (m / 2 ^ 52 - 1086), ?_⟩
  have hpower : ((m / 2 ^ 52 : ℕ) : ℤ) - 1075 = (11 + (m / 2 ^ 52 - 1086) : ℕ) := by omega
  rw [toRat_eq, hm]
  show valueOf m = _
  rw [valueOf, if_neg (by omega), hpower, zpow_natCast, pow_add]
  push_cast
  ring

/-- An integer of this size is rounded to one of the two multiples of 2048 next to it. -/
theorem nearestBits_large {n : ℕ} (hlow : 2 ^ 63 ≤ n) (hhigh : n < 2 ^ 64) :
    ∃ q, nearestBits n 1 = 1085 * 2 ^ 52 + q ∧ 2 ^ 52 ≤ q ∧ q ≤ 2 ^ 53 ∧
      2048 * q ≤ n + 1024 ∧ n ≤ 2048 * q + 1024 := by
  have hlog : n.log2 = 63 := by
    rw [Nat.log2_eq_iff (by omega)]
    omega
  have hden : (1 : ℕ).log2 = 0 := rfl
  unfold nearestBits
  rw [if_neg (show ¬ n = 0 by omega)]
  extract_lets low quotient e
  have hlowest : low = 10 := by
    show max ((n.log2 : ℤ) - (1 : ℕ).log2 - 53) (-1074) = 10
    rw [hlog, hden]
    rfl
  have he : e = 11 := by
    have hmany : ¬ (quotient low).1 / (quotient low).2 < twoTo 53 := by
      rw [hlowest]
      show ¬ n / 2 ^ 10 < 2 ^ 53
      omega
    show (if (quotient low).1 / (quotient low).2 < twoTo 53 then low else low + 1) = 11
    rw [if_neg hmany, hlowest]
    rfl
  have hquotient : quotient e = (n, 2048) := by
    rw [he]
    rfl
  have hfinite : ∀ q, q ≤ 2 ^ 53 →
      min ((11 + 1074 : ℤ).toNat * twoTo 52 + q) infinityBits = 1085 * 2 ^ 52 + q := by
    intro q hq
    apply min_eq_left
    show 1085 * 2 ^ 52 + q ≤ 2047 * 2 ^ 52
    omega
  rw [hquotient, he]
  simp only [gt_iff_lt, Bool.or_eq_true, decide_eq_true_eq, Bool.and_eq_true, beq_iff_eq]
  by_cases hup : 2048 < 2 * (n % 2048) ∨ 2 * (n % 2048) = 2048 ∧ n / 2048 % 2 = 1
  · rw [if_pos hup]
    exact ⟨n / 2048 + 1, hfinite _ (by omega), by omega, by omega, by omega, by omega⟩
  · rw [if_neg hup]
    exact ⟨n / 2048, hfinite _ (by omega), by omega, by omega, by omega, by omega⟩

theorem ofInt_large {n : ℤ} (hlow : 2 ^ 63 ≤ n) (hhigh : n < 2 ^ 64) :
    ∃ q : ℤ, (ofInt n).toRat = 2048 * q ∧ |2048 * q - n| ≤ 1024 := by
  obtain ⟨m, rfl⟩ := Int.eq_ofNat_of_zero_le (show 0 ≤ n by omega)
  obtain ⟨q, hbits, hleast, hmost, habove, hbelow⟩ :=
    nearestBits_large (n := m) (by omega) (by omega)
  have hround : ofInt m = withSign false (nearestBits m 1) := by
    have hsign : decide ((m : ℤ) < 0) = false := by
      rw [decide_eq_false_iff_not]
      omega
    rw [ofInt, hsign, Int.natAbs_natCast, ofRatio]
  refine ⟨q, ?_, ?_⟩
  · rw [hround, hbits, toRat_withSign (by omega), valueOf_large hleast hmost]
    push_cast
    rfl
  · rw [abs_le]
    omega

/-- No number is nearer to an integer of this size than the one that it is rounded to. -/
theorem ofInt_nearest {n : ℤ} (hlow : 2 ^ 63 ≤ n) (hhigh : n < 2 ^ 64) (x : Binary64) :
    |(ofInt n).toRat - n| ≤ |x.toRat - n| := by
  obtain ⟨q, hvalue, herror⟩ := ofInt_large hlow hhigh
  have hgrid : ∀ k : ℤ, |2048 * q - n| ≤ |2048 * k - n| := by
    intro k
    by_cases hk : k = q
    · rw [hk]
    · apply le_trans herror
      rw [abs_le] at herror
      rw [le_abs]
      omega
  have hnearest : ∀ k : ℤ, |(ofInt n).toRat - n| ≤ |(2048 * k : ℚ) - n| := by
    intro k
    rw [hvalue]
    exact_mod_cast hgrid k
  by_cases hlarge : 2 ^ 63 ≤ x.toRat
  · obtain ⟨k, hk⟩ := multiple_of_large hlarge
    rw [hk]
    exact hnearest k
  · have hsmall : x.toRat ≤ 2 ^ 63 := le_of_not_ge hlarge
    have hn : (2 ^ 63 : ℚ) ≤ n := by exact_mod_cast hlow
    calc |(ofInt n).toRat - n| ≤ |(2048 * (2 ^ 52 : ℤ) : ℚ) - n| := hnearest (2 ^ 52)
      _ = n - 2 ^ 63 := by
        push_cast
        rw [abs_of_nonpos (by linarith)]
        ring
      _ ≤ n - x.toRat := by linarith
      _ ≤ |x.toRat - n| := by
        rw [← neg_sub]
        exact neg_le_abs _

end Binary64

namespace Variable

/-- An integer that only the unsigned numbers have. -/
def IsUnsigned (j : Json) : Prop := ∃ n : ℤ, j = .number (.int n) ∧ 2 ^ 63 ≤ n

theorem isSigned_or_unsigned {n : ℤ} (h : (Json.number (.int n)).Canonical) :
    isInt64 n = true ∧ n < 2 ^ 63 ∨ isInt64 n = false ∧ 2 ^ 63 ≤ n ∧ n < 2 ^ 64 := by
  simp only [Json.Canonical, isInt64, isNat64, Bool.and_eq_true, decide_eq_true_eq,
    Bool.and_eq_false_iff, decide_eq_false_iff_not] at h ⊢
  omega

theorem isFinite_of_unsigned {n : ℤ} (hlow : 2 ^ 63 ≤ n) (hhigh : n < 2 ^ 64) :
    (Binary64.ofInt n).isFinite = true := by
  apply Binary64.isFinite_ofInt
  show n.natAbs < 2 ^ 64
  omega

theorem toJson_ofJson_of_signed {j : Json} (hj : j.Canonical) (h : ¬ IsUnsigned j) :
    (ofJson j).toJson = j := by
  match j, hj, h with
  | .number (.int n), hj, h =>
    have hbound : ¬ 2 ^ 63 ≤ n := fun hn => h ⟨n, rfl, hn⟩
    rcases isSigned_or_unsigned hj with ⟨hsigned, -⟩ | ⟨-, hlow, -⟩
    · rw [ofJson, if_pos hsigned]
      rfl
    · exact absurd hlow hbound
  | .number (.float x), hj, _ => exact toJson_float hj
  | .null, _, _ => rfl
  | .bool b, _, _ => rfl
  | .text s, _, _ => rfl
  | .array items, _, _ => rfl
  | .object members, _, _ => rfl

/-- An integer beyond the signed ones comes back as a number of the other kind. -/
theorem toJson_ofJson_of_unsigned {n : ℤ} (hj : (Json.number (.int n)).Canonical)
    (h : 2 ^ 63 ≤ n) : (ofJson (.number (.int n))).toJson = .number (.float (.ofInt n)) := by
  rcases isSigned_or_unsigned hj with ⟨-, hlow⟩ | ⟨hunsigned, -, hhigh⟩
  · exact absurd h (not_le.mpr hlow)
  · rw [ofJson, hunsigned, if_neg Bool.false_ne_true, toJson_float (isFinite_of_unsigned h hhigh)]

/-- A variable loses nothing of a value but the kind and the last digits of an integer beyond the
signed ones: that comes back as a floating-point number, at a distance of at most 1024, and no
other floating-point number is nearer to it. -/
theorem coercion_keeps {j : Json} (hj : j.Canonical) :
    ((ofJson j).toJson = j ↔ ¬ IsUnsigned j) ∧
      ∀ n : ℤ, j = .number (.int n) → 2 ^ 63 ≤ n → ∃ x : Binary64,
        (ofJson j).toJson = .number (.float x) ∧ x.isFinite = true ∧ |x.toRat - n| ≤ 1024 ∧
          ∀ y : Binary64, |x.toRat - n| ≤ |y.toRat - n| := by
  refine ⟨⟨?_, toJson_ofJson_of_signed hj⟩, ?_⟩
  · rintro hback ⟨n, rfl, hn⟩
    rw [toJson_ofJson_of_unsigned hj hn] at hback
    cases hback
  · intro n hn hlow
    subst hn
    have hhigh : n < 2 ^ 64 := by
      rcases isSigned_or_unsigned hj with ⟨-, hbound⟩ | ⟨-, -, hbound⟩
      · omega
      · exact hbound
    obtain ⟨q, hvalue, herror⟩ := Binary64.ofInt_large hlow hhigh
    refine ⟨.ofInt n, toJson_ofJson_of_unsigned hj hlow, isFinite_of_unsigned hlow hhigh, ?_,
      Binary64.ofInt_nearest hlow hhigh⟩
    rw [hvalue]
    exact_mod_cast herror

/-- The ends of the ranges of integers, and the negative zero. -/
def limits : Json :=
  .array [.int (-9223372036854775808), .int 18446744073709551615, .number (.float (.zero true))]

theorem coercion_keeps_limits :
    limits.Canonical ∧ (ofJson limits).toJson = limits ∧
      (Json.int (-9223372036854775808)).Canonical ∧
      (ofJson (.int (-9223372036854775808))).toJson = .int (-9223372036854775808) ∧
      (Json.int 9223372036854775808).Canonical ∧
      ∃ x : Binary64, (ofJson (.int 9223372036854775808)).toJson = .number (.float x) ∧
        |x.toRat - (9223372036854775808 : ℤ)| ≤ 1024 := by
  have hlimits : limits.Canonical := by
    have hzero : (Binary64.zero true).isFinite = true := by decide
    simp [limits, Json.int, Json.Canonical, Json.CanonicalItems, isInt64, isNat64, hzero]
  have hleast : (Json.int (-9223372036854775808)).Canonical := by
    simp [Json.int, Json.Canonical, isInt64]
  have hlarge : (Json.int 9223372036854775808).Canonical := by
    simp [Json.int, Json.Canonical, isInt64, isNat64]
  obtain ⟨x, hx, -, herror, -⟩ := (coercion_keeps hlarge).2 9223372036854775808 rfl (by decide)
  refine ⟨hlimits, (coercion_keeps hlimits).1.mpr ?_, hleast, (coercion_keeps hleast).1.mpr ?_,
    hlarge, x, hx, herror⟩
  · rintro ⟨n, hn, -⟩
    cases hn
  · rintro ⟨n, hn, hlow⟩
    cases hn
    omega

/-- The largest integer that a snapshot can hold does not come back as it was. -/
theorem largest_integer_drifts :
    (Json.int 18446744073709551615).Canonical ∧
      (ofJson (.int 18446744073709551615)).toJson =
        .number (.float (.ofBits 0x43f0000000000000)) ∧
      (ofJson (.int 18446744073709551615)).toJson ≠ .int 18446744073709551615 := by
  have hj : (Json.int 18446744073709551615).Canonical := by
    simp [Json.int, Json.Canonical, isInt64, isNat64]
  have hback : (ofJson (.int 18446744073709551615)).toJson =
      .number (.float (.ofBits 0x43f0000000000000)) := by
    have hround : Binary64.ofInt 18446744073709551615 = .ofBits 0x43f0000000000000 := by
      decide +kernel
    rw [← hround]
    exact toJson_ofJson_of_unsigned hj (by decide)
  refine ⟨hj, hback, ?_⟩
  rw [hback]
  intro h
  cases h

end Variable

end Runbook
