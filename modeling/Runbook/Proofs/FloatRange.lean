import Runbook.Proofs.CaptureRestore
import Runbook.Proofs.DecimalValue

/-!
No number that is written is beyond the range of what is read. The reader multiplies the digits of
a numeral by a power of ten, both rounded; below the last two numbers the errors of the three
roundings cannot reach an infinity, and those two are read back as well.
-/

namespace Runbook

namespace Binary64

/-- The midpoint between the largest number and the infinities. -/
def overflow : ℚ := (2 ^ 53 - 1 / 2) * unit 2045

theorem magnitude_ofRatio (negative : Bool) (num den : ℕ) :
    (ofRatio negative num den).magnitude = nearestBits num den := by
  have hbits : nearestBits num den ≤ infinityBits := by
    unfold nearestBits
    split
    · exact Nat.zero_le _
    · exact min_le_right _ _
  exact magnitude_withSign negative (hbits.trans_lt (by decide))

theorem isInfinite_mul {x y : Binary64}
    (h : valueOf x.magnitude * valueOf y.magnitude < overflow) : (x.mul y).isInfinite = false := by
  have hx := significand_value x
  have hy := significand_value y
  obtain ⟨hden, hscale⟩ :=
    scale_spec (x.significand.1 * y.significand.1) (x.significand.2 + y.significand.2)
  have hvalue : (x.significand.1 * y.significand.1 : ℕ) *
      (2 : ℚ) ^ (x.significand.2 + y.significand.2) =
        valueOf x.magnitude * valueOf y.magnitude := by
    rw [← hx, ← hy, zpow_add₀ (by norm_num)]
    push_cast
    ring
  have hlt := nearestBits_lt_infinityBits hden (by rw [hscale, hvalue]; exact h)
  have hmul : x.mul y = ofRatio (x.isNegative != y.isNegative)
      (scale (x.significand.1 * y.significand.1) (x.significand.2 + y.significand.2)).1
      (scale (x.significand.1 * y.significand.1) (x.significand.2 + y.significand.2)).2 := rfl
  rw [hmul, isInfinite, magnitude_ofRatio]
  exact beq_false_of_ne hlt.ne

/-- The relative error of rounding an integer. -/
theorem valueOf_nearestBits_one_le {n : ℕ} (hn : 0 < n) :
    valueOf (nearestBits n 1) ≤ n * (1 + 1 / 2 ^ 53) := by
  have hn' : (1 : ℚ) ≤ n := by exact_mod_cast hn
  have hleast : 2 ^ 52 * unit 0 ≤ 1 := by
    have hpower : (2 : ℚ) ^ 52 * unit 0 = 2 ^ (-1022 : ℤ) := by
      rw [unit, ← zpow_natCast, ← zpow_add₀ (by norm_num)]
      norm_num
    rw [hpower]
    exact zpow_le_one_of_nonpos₀ (by norm_num) (by norm_num)
  have hround := @valueOf_nearestBits_le n 1 hn Nat.one_pos
    (by rw [Nat.cast_one, div_one]; exact hleast.trans hn')
  rwa [Nat.cast_one, div_one] at hround

end Binary64

namespace Json

open Binary64

theorem powerOfTen_eq {n : ℕ} (h : n ≤ 308) : powerOfTen n = ofRatio false (10 ^ n) 1 := by
  have hplaces : (Nat.toDigits 10 1).length = 1 := rfl
  unfold powerOfTen ofDecimal
  rw [if_neg (by decide)]
  dsimp only
  rw [hplaces, if_neg (by omega), if_neg (by omega), if_pos (by omega), Int.toNat_natCast,
    Nat.one_mul]
  rfl

/-- Going down in powers of ten always ends at a number. -/
theorem scaleTen_of_neg {x : Binary64} {e : ℤ} (he : e < 0) (fuel : ℕ) :
    (scaleTen x e fuel).isSome = true := by
  induction fuel generalizing x e with
  | zero => rfl
  | succ fuel ih =>
    rw [scaleTen]
    split
    · rw [if_neg (by omega)]
      rfl
    · split
      · rfl
      · rw [if_neg (by omega)]
        exact ih (by omega)

/-- The bound below which the errors of reading cannot reach an infinity: three halves of a unit
below the largest number. -/
def readable : ℚ := (2 ^ 53 - 5 / 2) * unit 2045

theorem readable_lt : readable < 10 ^ (309 : ℤ) := by
  have hunit := unit_pos 2045
  have hpowers : (2 : ℕ) ^ 1024 < 10 ^ 309 := by decide +kernel
  have hpowers' := (Nat.cast_lt (α := ℚ)).mpr hpowers
  rw [Nat.cast_pow, Nat.cast_pow, Nat.cast_ofNat, Nat.cast_ofNat] at hpowers'
  have hwhole : (2 : ℚ) ^ 53 * unit 2045 = 2 ^ 1024 := by
    rw [unit, ← zpow_natCast, ← zpow_natCast, ← zpow_add₀ (by norm_num)]
    norm_num
  calc readable ≤ 2 ^ 53 * unit 2045 := by
        exact mul_le_mul_of_nonneg_right (by norm_num) hunit.le
    _ = 2 ^ 1024 := hwhole
    _ < 10 ^ 309 := hpowers'
    _ = 10 ^ (309 : ℤ) := (zpow_natCast _ _).symm

theorem scaleTen_zero {e : ℤ} : (scaleTen (.ofInt ((0 : ℕ) : ℤ)) e 5).isSome = true := by
  have hunit := unit_pos 2045
  have hzero : (ofInt ((0 : ℕ) : ℤ)).magnitude = 0 := by decide
  rw [scaleTen]
  split
  · split
    · have hmul : ((ofInt ((0 : ℕ) : ℤ)).mul (powerOfTen e.natAbs)).isInfinite = false := by
        apply isInfinite_mul
        rw [hzero, valueOf_zero, zero_mul, overflow]
        linarith
      dsimp only
      rw [hmul]
      rfl
    · rfl
  · rw [if_pos (by rw [isZero, hzero]; rfl)]
    rfl

/-- A readable number has no more than 308 powers of ten. -/
theorem exponent_le_of_readable {n : ℕ} (hn : 0 < n) {e : ℤ} (h : (n : ℚ) * 10 ^ e ≤ readable) :
    e ≤ 308 := by
  by_contra hlarge
  have hn' : (1 : ℚ) ≤ n := by exact_mod_cast hn
  have hpower : (10 : ℚ) ^ (309 : ℤ) ≤ 10 ^ e := zpow_le_zpow_right₀ (by norm_num) (by omega)
  have hscaled : (1 : ℚ) * 10 ^ e ≤ n * 10 ^ e :=
    mul_le_mul_of_nonneg_right hn' (zpow_pos (by norm_num) e).le
  linarith [readable_lt]

/-- Two roundings and a product do not take a readable number to an infinity. -/
theorem isInfinite_of_readable {n k : ℕ} (hn : 0 < n) (hk : k ≤ 308)
    (h : (n : ℚ) * 10 ^ k ≤ readable) : ((ofInt n).mul (powerOfTen k)).isInfinite = false := by
  have hunit := unit_pos 2045
  have hten : 0 < 10 ^ k := Nat.pow_pos (by decide)
  have hleft : valueOf (ofInt n).magnitude ≤ n * (1 + 1 / 2 ^ 53) := by
    rw [ofInt, magnitude_ofRatio, Int.natAbs_natCast]
    exact valueOf_nearestBits_one_le hn
  have hright : valueOf (powerOfTen k).magnitude ≤ 10 ^ k * (1 + 1 / 2 ^ 53) := by
    rw [powerOfTen_eq hk, magnitude_ofRatio]
    have hround := valueOf_nearestBits_one_le hten
    push_cast at hround
    exact hround
  have hnonneg : 0 ≤ valueOf (powerOfTen k).magnitude := by
    rw [← valueOf_zero]
    exact valueOf_strictMono.monotone (Nat.zero_le _)
  apply isInfinite_mul
  calc valueOf (ofInt n).magnitude * valueOf (powerOfTen k).magnitude
      ≤ n * (1 + 1 / 2 ^ 53) * (10 ^ k * (1 + 1 / 2 ^ 53)) := by
        apply mul_le_mul hleft hright hnonneg
        positivity
    _ = n * 10 ^ k * (1 + 1 / 2 ^ 53) ^ 2 := by ring
    _ ≤ readable * (1 + 1 / 2 ^ 53) ^ 2 := mul_le_mul_of_nonneg_right h (by positivity)
    _ < overflow := by
        rw [readable, overflow]
        have hfactor : ((2 : ℚ) ^ 53 - 5 / 2) * (1 + 1 / 2 ^ 53) ^ 2 < 2 ^ 53 - 1 / 2 := by
          norm_num
        nlinarith

theorem scaleTen_of_readable {n : ℕ} {e : ℤ} (he : 0 ≤ e) (h : (n : ℚ) * 10 ^ e ≤ readable) :
    (scaleTen (.ofInt n) e 5).isSome = true := by
  rcases Nat.eq_zero_or_pos n with rfl | hn
  · exact scaleTen_zero
  · have hsmall := exponent_le_of_readable hn h
    obtain ⟨k, rfl⟩ := Int.eq_ofNat_of_zero_le he
    have hk : k ≤ 308 := by omega
    rw [zpow_natCast] at h
    rw [scaleTen, Int.natAbs_natCast, if_pos hk, if_pos he]
    dsimp only
    rw [isInfinite_of_readable hn hk h]
    rfl

theorem scaleTen_isSome {n : ℕ} {e : ℤ} (h : (n : ℚ) * 10 ^ e ≤ readable) :
    (scaleTen (.ofInt n) e 5).isSome = true := by
  by_cases he : 0 ≤ e
  · exact scaleTen_of_readable he h
  · exact scaleTen_of_neg (Int.not_le.mp he) 5

/-- Bringing an exponent into the range of 32 bits only makes a decimal smaller that is not below
its digits. -/
theorem scaled_clamp_isSome (negative : Bool) {n : ℕ} {e : ℤ} (h : (n : ℚ) * 10 ^ e ≤ readable) :
    (scaled negative n (clampInt32 e)).isSome = true := by
  have hscaled : (scaleTen (.ofInt n) (clampInt32 e) 5).isSome = true := by
    by_cases he : 0 ≤ e
    · apply scaleTen_isSome
      have hclamp : clampInt32 e ≤ e := by
        unfold clampInt32
        omega
      refine le_trans (mul_le_mul_of_nonneg_left ?_ (Nat.cast_nonneg n)) h
      exact zpow_le_zpow_right₀ (by norm_num) hclamp
    · apply scaleTen_of_neg
      unfold clampInt32
      omega
  rw [scaled, Option.isSome_map]
  exact hscaled

/-- Digits that make a number of 64 bits are all taken, before the point and behind it. -/
theorem value_of_fits {n : Numeral} (h : Nat.ofDigitChars 10 n.digits 0 < twoTo 64) :
    n.value = match n.exponent with
      | some (down, digits) => withExponent n.negative (Nat.ofDigitChars 10 n.digits 0)
          (-((n.fraction.getD []).length : ℤ)) down digits
      | none =>
          if n.fraction.isSome then scaled n.negative (Nat.ofDigitChars 10 n.digits 0)
            (-((n.fraction.getD []).length : ℤ))
          else if !n.negative then some (.int (Nat.ofDigitChars 10 n.digits 0))
          else if Nat.ofDigitChars 10 n.digits 0 = 0 ||
              twoTo 63 < Nat.ofDigitChars 10 n.digits 0 then
            some (.float (Binary64.ofInt (Nat.ofDigitChars 10 n.digits 0)).negate)
          else some (.int (-(Nat.ofDigitChars 10 n.digits 0 : ℤ))) := by
  obtain ⟨negative, whole, fraction, exponent⟩ := n
  rw [Numeral.digits, Nat.ofDigitChars_append] at h
  dsimp only at h
  have hwhole : Nat.ofDigitChars 10 whole 0 < twoTo 64 := by
    refine lt_of_le_of_lt ?_ h
    rw [Nat.ofDigitChars_eq_ofDigitChars_zero (l := fraction.getD [])]
    have hpower : 1 ≤ 10 ^ (fraction.getD []).length := Nat.one_le_pow _ _ (by decide)
    exact (Nat.le_mul_of_pos_left _ hpower).trans (Nat.le_add_right _ _)
  cases fraction with
  | none =>
    have hdigits : Nat.ofDigitChars 10 (whole ++ (none : Option (List Char)).getD []) 0 =
        Nat.ofDigitChars 10 whole 0 := by rw [Option.getD_none, List.append_nil]
    simp only [Numeral.value, Numeral.digits, absorb_of_fits hwhole, hdigits, Nat.sub_self]
    rfl
  | some digits =>
    have hdigits : Nat.ofDigitChars 10 (whole ++ digits) 0 =
        Nat.ofDigitChars 10 digits (Nat.ofDigitChars 10 whole 0) := Nat.ofDigitChars_append 0
    have hstart : ((0 : ℕ) : ℤ) - digits.length = -(digits.length : ℤ) := by simp
    rw [Option.getD_some] at h
    cases exponent <;>
      simp only [Numeral.value, Numeral.digits, absorb_of_fits hwhole, absorb_of_fits h, hdigits,
        Nat.sub_self, hstart, Option.getD_some, Option.isSome_some, Bool.true_or, if_true]

/-- A numeral of few digits and no large exponent is read as a number when its decimal is
readable. -/
theorem value_isSome {n : Numeral} (hdigits : Nat.ofDigitChars 10 n.digits 0 < twoTo 64)
    (hexponent : ∀ e ∈ n.exponent, e.1 = false → Text.decimal e.2 < twoTo 31)
    (h : n.toRat ≤ readable) : n.value.isSome = true := by
  rw [value_of_fits hdigits]
  unfold Numeral.toRat Numeral.scale at h
  cases he : n.exponent with
  | some e =>
    obtain ⟨down, digits⟩ := e
    have hsmall := hexponent _ he
    rw [he, Option.elim_some] at h
    dsimp only at h hsmall ⊢
    rw [withExponent]
    split
    · apply scaled_clamp_isSome
      have hsum : (if down = true then -((n.fraction.getD []).length : ℤ) - Text.decimal digits
          else -((n.fraction.getD []).length : ℤ) + Text.decimal digits) =
          (if down = true then -(Text.decimal digits : ℤ) else Text.decimal digits) -
            (n.fraction.getD []).length := by
        split <;> ring
      rw [hsum]
      exact h
    · next hlarge =>
      have hdown : down = true := by
        by_contra hup
        exact hlarge (hsmall (by simpa using hup))
      rw [hdown, Bool.not_true, Bool.and_false, if_neg Bool.false_ne_true]
      rfl
  | none =>
    rw [he, Option.elim_none, zero_sub] at h
    dsimp only
    split
    · rw [scaled, Option.isSome_map]
      exact scaleTen_isSome h
    · split
      · rfl
      · split <;> rfl

/-- Laying digits out adds zeros behind them only where the numeral stays short. -/
theorem digits_placed (negative : Bool) {ds : List Char} (h : Digits ds) (lead : ℤ) :
    Nat.ofDigitChars 10 (placed negative ds lead).digits 0 = Nat.ofDigitChars 10 ds 0 ∨
      Nat.ofDigitChars 10 (placed negative ds lead).digits 0 < 10 ^ 17 := by
  unfold placed
  split
  · next hrange =>
    split
    · refine .inl ?_
      rw [Numeral.digits, Nat.ofDigitChars_append]
      exact ofDigitChars_zeros_append _ ds
    · split
      · next hshort =>
        refine .inr ?_
        have hdigits := digits_append_zeros (digits_append_zeros h (lead.toNat + 1 - ds.length)) 1
        have hlt := ofDigitChars_lt hdigits.isDigit
        refine hlt.trans_le (Nat.pow_le_pow_right (by decide) ?_)
        have hlead : lead ≤ 15 := hrange.2
        rw [List.length_append, List.length_append, List.length_replicate, List.length_replicate]
        omega
      · refine .inl ?_
        rw [Numeral.digits, Option.getD_some, List.take_append_drop]
  · refine .inl ?_
    have hwhole : (if ds.length ≤ 1 then none else some (ds.drop 1)).getD [] = ds.drop 1 := by
      split
      · next hone => rw [Option.getD_none, List.drop_of_length_le hone]
      · rfl
    rw [Numeral.digits, hwhole, List.take_append_drop]

/-- The digits of a finite number other than zero make a numeral that is not too long. -/
theorem digits_floatNumeral_lt {x : Binary64} (h : x.isZero = false) :
    Nat.ofDigitChars 10 (floatNumeral x).digits 0 < twoTo 64 := by
  have hmagnitude : x.magnitude ≠ 0 := by simpa [isZero] using h
  have hbound : 10 ^ 19 < twoTo 64 ∧ 10 ^ 17 < twoTo 64 := by decide
  rw [floatNumeral, if_neg (by simp [h])]
  rcases digits_placed x.isNegative (digits_toDigits x.shortest.value)
    (x.shortest.exponent + (Nat.toDigits 10 x.shortest.value).length - 1) with heq | hlt
  · rw [heq, Nat.ofDigitChars_ten_toDigits]
    exact (shortest_near hmagnitude).le.trans_lt hbound.1
  · exact hlt.trans hbound.2

/-- The first digit of a readable number does not count more than `10 ^ 308`. -/
theorem lead_le {x : Binary64} (hzero : x.magnitude ≠ 0) (h : x.shortest.toRat ≤ readable) :
    x.shortest.exponent + (Nat.toDigits 10 x.shortest.value).length - 1 ≤ 308 := by
  obtain ⟨hlow, -⟩ := length_toDigits_spec (Nat.pos_of_ne_zero (shortest_near hzero).ne_zero)
  by_contra hlarge
  have hscale : (0 : ℚ) < 10 ^ x.shortest.exponent := zpow_pos (by norm_num) _
  have hpower : (10 : ℚ) ^ (309 : ℤ) ≤
      10 ^ (((Nat.toDigits 10 x.shortest.value).length : ℤ) - 1 + x.shortest.exponent) :=
    zpow_le_zpow_right₀ (by norm_num) (by omega)
  rw [zpow_add₀ (by norm_num)] at hpower
  have hvalue := mul_le_mul_of_nonneg_right hlow hscale.le
  rw [Digits.toRat] at h
  linarith [readable_lt]

theorem value_floatNumeral_isSome {x : Binary64} (hzero : x.isZero = false)
    (h : upperEnd x.magnitude ≤ readable) : (floatNumeral x).value.isSome = true := by
  have hmagnitude : x.magnitude ≠ 0 := by simpa [isZero] using hzero
  have hreadable := (shortest_near hmagnitude).within.2.trans h
  apply value_isSome (digits_floatNumeral_lt hzero)
  · intro e he hup
    have hlead := lead_le hmagnitude hreadable
    rw [floatNumeral, if_neg (by simp [hzero]), placed] at he
    split at he
    · split at he
      · simp at he
      · split at he <;> simp at he
    · obtain rfl := Option.some.inj he
      have hdecimal : Text.decimal (Nat.toDigits 10 (x.shortest.exponent +
          (Nat.toDigits 10 x.shortest.value).length - 1).natAbs) = (x.shortest.exponent +
          (Nat.toDigits 10 x.shortest.value).length - 1).natAbs := Nat.ofDigitChars_ten_toDigits
      have hpos := of_decide_eq_false hup
      have hlimit : 308 < twoTo 31 := by decide
      rw [hdecimal]
      omega
  · rw [toRat_floatNumeral hzero]
    exact hreadable

/-- The two largest numbers of either sign, above which the errors of reading leave no room. -/
def largest : List Binary64 :=
  [ofBits 0x7feffffffffffffe, ofBits 0x7fefffffffffffff, ofBits 0xffeffffffffffffe,
    ofBits 0xffefffffffffffff]

theorem mem_largest {x : Binary64} (h : x.isFinite = true)
    (hlarge : infinityBits ≤ x.magnitude + 2) : x ∈ largest := by
  have hback : ofBits x.bits.toNat = x := by rw [ofBits, UInt64.ofNat_toNat]
  have hbits : x.bits.toNat < 2 ^ 64 := x.bits.toNat_lt
  have hmagnitude : x.magnitude = x.bits.toNat % 9223372036854775808 := rfl
  have hinfinity : infinityBits = 9218868437227405312 := by decide
  have hfinite : x.magnitude < infinityBits := of_decide_eq_true h
  have hcases : x.bits.toNat = 0x7feffffffffffffe ∨ x.bits.toNat = 0x7fefffffffffffff ∨
      x.bits.toNat = 0xffeffffffffffffe ∨ x.bits.toNat = 0xffefffffffffffff := by omega
  rw [← hback]
  rcases hcases with heq | heq | heq | heq <;> rw [heq] <;> simp [largest]

theorem value_largest : ∀ x ∈ largest, (floatNumeral x).value.isSome = true := by decide +kernel

theorem upperEnd_le_readable {x : Binary64} (h : x.magnitude + 2 < infinityBits) :
    upperEnd x.magnitude ≤ readable := by
  have hinfinity : infinityBits = 2045 * 2 ^ 52 + 2 ^ 53 := by decide
  have hlast : upperEnd (2045 * 2 ^ 52 + (2 ^ 53 - 3)) = readable := by
    have hcast : ((2 ^ 53 - 3 : ℕ) : ℚ) = 2 ^ 53 - 3 := by norm_num
    rw [upperEnd_grid (by decide) (.inr (by decide)), hcast, readable]
    ring
  rw [← hlast, upperEnd_eq_lowerEnd, upperEnd_eq_lowerEnd]
  apply lowerEnd_mono
  omega

theorem value_floatNumeral {x : Binary64} (h : x.isFinite = true) :
    (floatNumeral x).value.isSome = true := by
  by_cases hzero : x.isZero = true
  · have hnumeral : floatNumeral x = ⟨x.isNegative, ['0'], some ['0'], none⟩ := if_pos hzero
    rw [hnumeral]
    cases x.isNegative with
    | true => decide +kernel
    | false => decide +kernel
  · by_cases hlarge : infinityBits ≤ x.magnitude + 2
    · exact value_largest x (mem_largest h hlarge)
    · exact value_floatNumeral_isSome (by simpa using hzero)
        (upperEnd_le_readable (Nat.not_le.mp hlarge))

/-- A written number is never beyond the range of what is read. -/
theorem numberSource_float_ne_none (x : Binary64) : numberSource (.float x) ≠ .number none := by
  have hrender := renderNumber_float x
  split at hrender
  · rw [numberSource, hrender]
    intro hnull
    cases hnull
  · next hordinary =>
    have hfinite : x.isFinite = true := by
      simp only [isNaN, isInfinite, Bool.or_eq_true, decide_eq_true_eq, beq_iff_eq,
        not_or] at hordinary
      rw [isFinite, decide_eq_true_eq]
      omega
    have halone := readValue_signed (wellFormed_floatNumeral x) ends_nil 0
    rw [List.append_nil] at halone
    rw [numberSource, hrender, halone]
    intro hnone
    have hvalue : (floatNumeral x).value = none := Source.number.inj hnone
    have hsome := value_floatNumeral hfinite
    rw [hvalue] at hsome
    cases hsome

end Json

end Runbook
