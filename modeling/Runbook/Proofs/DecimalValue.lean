import Runbook.Proofs.ShortestDigits

/-!
What numerals stand for as decimals, whatever is made of them by a reader. The digits that a number
is written with keep their decimal in every layout, and two numerals of one text are one numeral,
so that the text of a number settles its magnitude.
-/

namespace Runbook.Json

open Binary64 (Layout)

namespace Numeral

/-- All digits of a numeral, without the point. -/
def digits (n : Numeral) : List Char := n.whole ++ n.fraction.getD []

/-- The power of ten that the last digit of a numeral counts. -/
def scale (n : Numeral) : ℤ :=
  (n.exponent.elim 0 fun e => if e.1 then -(Text.decimal e.2 : ℤ) else Text.decimal e.2) -
    (n.fraction.getD []).length

/-- The decimal that a numeral stands for, without its sign. -/
def toRat (n : Numeral) : ℚ := Nat.ofDigitChars 10 n.digits 0 * 10 ^ n.scale

/-- A text is the numeral of its parts. -/
theorem eq_of_chars {m n : Numeral} (hm : m.WellFormed) (hn : n.WellFormed)
    (hsign : m.negative = n.negative) (h : m.chars = n.chars) : m = n := by
  have hparts : ∀ {n : Numeral}, n.WellFormed →
      n.chars.takeWhile Char.isDigit = n.whole ∧
      readFraction (n.chars.dropWhile Char.isDigit) =
        some (n.fraction, exponentChars n.exponent) ∧
      readExponent (exponentChars n.exponent) = some (n.exponent, []) := by
    intro n hn
    have hexponent := ends_exponentChars (e := n.exponent) ends_nil
    rw [List.append_nil] at hexponent
    have hfraction : ∀ c ∈ (fractionChars n.fraction ++ exponentChars n.exponent).head?,
        c.isDigit = false := by
      cases n.fraction with
      | none => exact fun c hc => (hexponent c hc).1
      | some digits =>
        intro c hc
        obtain rfl : '.' = c := by simpa [fractionChars] using hc
        decide
    have hread := readExponent_chars hn.exponent ends_nil
    rw [List.append_nil] at hread
    rw [chars, List.append_assoc, hn.whole.takeWhile_append hfraction,
      hn.whole.dropWhile_append hfraction]
    exact ⟨rfl, readFraction_chars hn.fraction hexponent, hread⟩
  obtain ⟨hwhole, hfraction, hexponent⟩ := hparts hm
  obtain ⟨hwhole', hfraction', hexponent'⟩ := hparts hn
  rw [h] at hwhole hfraction
  obtain ⟨hfractionEq, hrest⟩ := Prod.mk.inj (Option.some.inj (hfraction.symm.trans hfraction'))
  rw [hrest, hexponent'] at hexponent
  obtain ⟨hexponentEq, -⟩ := Prod.mk.inj (Option.some.inj hexponent)
  cases m
  cases n
  simp_all

end Numeral

theorem ofDigitChars_zeros_append (n : ℕ) (s : List Char) :
    Nat.ofDigitChars 10 (List.replicate n '0' ++ s) 0 = Nat.ofDigitChars 10 s 0 := by
  rw [Nat.ofDigitChars_append, Nat.ofDigitChars_replicate_zero, Nat.mul_zero]

section Placed

variable (negative : Bool) {ds : List Char} {lead : ℤ}

/-- Without an exponent the digits behind the point tell what the last one counts. -/
theorem toRat_plain (whole fraction : List Char) :
    (⟨negative, whole, some fraction, none⟩ : Numeral).toRat =
      Nat.ofDigitChars 10 (whole ++ fraction) 0 * 10 ^ (-(fraction.length : ℤ)) := by
  rw [Numeral.toRat, Numeral.scale, Option.elim_none, Option.getD_some, zero_sub]
  rfl

/-- All digits behind the point, with zeros in front of them. -/
theorem toRat_behind (hlead : lead < 0) :
    (⟨negative, ['0'], some (List.replicate (-lead - 1).toNat '0' ++ ds), none⟩ : Numeral).toRat =
      Nat.ofDigitChars 10 ds 0 * 10 ^ (lead + 1 - (ds.length : ℤ)) := by
  have hvalue : Nat.ofDigitChars 10
      (['0'] ++ (List.replicate (-lead - 1).toNat '0' ++ ds)) 0 = Nat.ofDigitChars 10 ds 0 := by
    rw [Nat.ofDigitChars_append]
    exact ofDigitChars_zeros_append _ ds
  have hscale : -((List.replicate (-lead - 1).toNat '0' ++ ds).length : ℤ) =
      lead + 1 - ds.length := by
    rw [List.length_append, List.length_replicate]
    omega
  rw [toRat_plain, hvalue, hscale]

/-- All digits in front of the point, filled up with zeros. -/
theorem toRat_filled (hlead : ¬ lead < 0) (hshort : ds.length ≤ lead.toNat + 1) :
    (⟨negative, ds ++ List.replicate (lead.toNat + 1 - ds.length) '0', some ['0'], none⟩ :
      Numeral).toRat = Nat.ofDigitChars 10 ds 0 * 10 ^ (lead + 1 - (ds.length : ℤ)) := by
  have hvalue : Nat.ofDigitChars 10
      (ds ++ List.replicate (lead.toNat + 1 - ds.length) '0' ++ ['0']) 0 =
        Nat.ofDigitChars 10 ds 0 * 10 ^ (lead.toNat + 1 - ds.length) * 10 := by
    rw [Nat.ofDigitChars_append, Nat.ofDigitChars_append, Nat.ofDigitChars_replicate_zero]
    change 10 * (10 ^ _ * _) + 0 = _
    ring
  have hpower : (lead + 1 - ds.length : ℤ) = ((lead.toNat + 1 - ds.length : ℕ) : ℤ) := by omega
  rw [toRat_plain, hvalue, hpower, zpow_natCast]
  push_cast
  norm_num
  ring

/-- The point within the digits. -/
theorem toRat_divided (hlead : ¬ lead < 0) (hlong : ¬ ds.length ≤ lead.toNat + 1) :
    (⟨negative, ds.take (lead.toNat + 1), some (ds.drop (lead.toNat + 1)), none⟩ :
      Numeral).toRat = Nat.ofDigitChars 10 ds 0 * 10 ^ (lead + 1 - (ds.length : ℤ)) := by
  have hscale : -((ds.drop (lead.toNat + 1)).length : ℤ) = lead + 1 - ds.length := by
    rw [List.length_drop]
    omega
  rw [toRat_plain, List.take_append_drop, hscale]

/-- The point behind the first digit, with an exponent. -/
theorem toRat_scientific (hds : ds ≠ []) :
    (⟨negative, ds.take 1, if ds.length ≤ 1 then none else some (ds.drop 1),
      some (decide (lead < 0), Nat.toDigits 10 lead.natAbs)⟩ : Numeral).toRat =
        Nat.ofDigitChars 10 ds 0 * 10 ^ (lead + 1 - (ds.length : ℤ)) := by
  have hlength : 0 < ds.length := List.length_pos_iff.mpr hds
  have hfraction : (if ds.length ≤ 1 then none else some (ds.drop 1)).getD [] = ds.drop 1 := by
    split
    · next hone => rw [Option.getD_none, List.drop_of_length_le hone]
    · rfl
  have hexponent : (if decide (lead < 0) = true
      then -(Text.decimal (Nat.toDigits 10 lead.natAbs) : ℤ)
      else Text.decimal (Nat.toDigits 10 lead.natAbs)) = lead := by
    have hdecimal : Text.decimal (Nat.toDigits 10 lead.natAbs) = lead.natAbs :=
      Nat.ofDigitChars_ten_toDigits
    rw [hdecimal]
    split
    · next hneg =>
      have := of_decide_eq_true hneg
      omega
    · next hpos =>
      have : ¬ lead < 0 := by simpa using hpos
      omega
  have hscale : lead - ((ds.drop 1).length : ℤ) = lead + 1 - ds.length := by
    rw [List.length_drop]
    omega
  simp only [Numeral.toRat, Numeral.digits, Numeral.scale, hfraction, Option.elim_some, hexponent,
    List.take_append_drop, hscale]

/-- Digits stand for the same decimal wherever the point is put. -/
theorem toRat_placed (hds : ds ≠ []) (lead : ℤ) :
    (placed negative ds lead).toRat =
      Nat.ofDigitChars 10 ds 0 * 10 ^ (lead + 1 - (ds.length : ℤ)) := by
  unfold placed
  split
  · by_cases hlead : lead < 0
    · rw [if_pos hlead]
      exact toRat_behind negative hlead
    · rw [if_neg hlead]
      by_cases hshort : ds.length ≤ lead.toNat + 1
      · rw [if_pos hshort]
        exact toRat_filled negative hlead hshort
      · rw [if_neg hshort]
        exact toRat_divided negative hlead hshort
  · exact toRat_scientific negative hds

end Placed

/-- A number other than zero is written with its shortest digits. -/
theorem toRat_floatNumeral {x : Binary64} (h : x.isZero = false) :
    (floatNumeral x).toRat = x.shortest.toRat := by
  have hpower : x.shortest.exponent + ((Nat.toDigits 10 x.shortest.value).length : ℤ) - 1 + 1 -
      (Nat.toDigits 10 x.shortest.value).length = x.shortest.exponent := by ring
  rw [floatNumeral, if_neg (by simp [h]), toRat_placed _ Nat.toDigits_ne_nil, hpower,
    Nat.ofDigitChars_ten_toDigits, Binary64.Digits.toRat]

end Runbook.Json
