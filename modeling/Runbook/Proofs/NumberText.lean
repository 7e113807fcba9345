import Mathlib.Data.List.Basic
import Runbook.Proofs.NumeralReading

/-!
The written form of a number in a snapshot: a numeral with its sign, or null where the number is
not finite.
-/

namespace Runbook

namespace Binary64

theorem search_value_ne_zero {i : Neighbourhood} {top : Int} {fuel : Nat} {d : Digits}
    (h : i.search top fuel = some d) : d.value ≠ 0 := by
  induction fuel generalizing top with
  | zero => simp [Neighbourhood.search] at h
  | succ fuel ih =>
    rw [Neighbourhood.search] at h
    split at h
    · next n hgrid =>
      split at h
      · exact ih h
      · next hne =>
        obtain rfl := Option.some.inj h
        exact hne
    · exact ih h

theorem strip_value_ne_zero {d : Digits} (h : d.value ≠ 0) (fuel : Nat) :
    (d.strip fuel).value ≠ 0 := by
  induction fuel generalizing d with
  | zero => exact h
  | succ fuel ih =>
    rw [Digits.strip]
    split
    · next hzero =>
      apply ih
      have hmod : d.value % 10 = 0 := by simpa [h] using hzero
      change d.value / 10 ≠ 0
      omega
    · exact h

theorem strip_zero (fuel : Nat) : (⟨0, 0⟩ : Digits).strip fuel = ⟨0, 0⟩ := by
  cases fuel <;> rfl

/-- The digits of a number do not stand for zero, unless none were found. -/
theorem shortest_cases (x : Binary64) : x.shortest.value ≠ 0 ∨ x.shortest = ⟨0, 0⟩ := by
  unfold shortest
  simp only
  generalize neighbourhood x.significand.1 x.significand.2 = i
  generalize (if i.high / i.den = 0 then
    -((Nat.toDigits 10 (i.den / i.high)).length : Int) + 1
    else ((Nat.toDigits 10 (i.high / i.den)).length : Int)) = start
  cases hsearch : i.search start 20 with
  | none => exact Or.inr (strip_zero 20)
  | some d => exact Or.inl (strip_value_ne_zero (search_value_ne_zero hsearch) 20)

end Binary64

namespace Json

open Binary64 (Layout)

theorem digits_append_zeros {s : List Char} (h : Digits s) (n : Nat) :
    Digits (s ++ List.replicate n '0') := by
  refine ⟨fun heq => h.ne_nil (List.append_eq_nil_iff.mp heq).1, ?_⟩
  intro c hc
  rcases List.mem_append.mp hc with hs | hzero
  · exact h.isDigit c hs
  · rw [List.eq_of_mem_replicate hzero]
    decide

theorem digits_zeros_append {s : List Char} (h : Digits s) (n : Nat) :
    Digits (List.replicate n '0' ++ s) := by
  refine ⟨fun heq => h.ne_nil (List.append_eq_nil_iff.mp heq).2, ?_⟩
  intro c hc
  rcases List.mem_append.mp hc with hzero | hs
  · rw [List.eq_of_mem_replicate hzero]
    decide
  · exact h.isDigit c hs

theorem digits_zero : Digits ['0'] := by
  refine ⟨List.cons_ne_nil _ _, ?_⟩
  intro c hc
  rw [List.mem_singleton.mp hc]
  rfl

theorem wellFormed_fraction (negative : Bool) {whole digits : List Char} (hwhole : Digits whole)
    (hleading : whole.length = 1 ∨ whole.head? ≠ some '0') (hdigits : Digits digits) :
    (⟨negative, whole, some digits, none⟩ : Numeral).WellFormed := by
  refine ⟨hwhole, hleading, ?_, ?_⟩
  · intro other heq
    exact Option.some.inj heq ▸ hdigits
  · intro e heq
    simp at heq

theorem wellFormed_exponent (negative : Bool) {first : Char} (hfirst : first.isDigit = true)
    {fraction : Option (List Char)} (hfraction : ∀ digits ∈ fraction, Digits digits)
    (down : Bool) (n : Nat) :
    (⟨negative, [first], fraction, some (down, Nat.toDigits 10 n)⟩ : Numeral).WellFormed := by
  refine ⟨⟨by simp, by simpa using hfirst⟩, Or.inl rfl, hfraction, ?_⟩
  intro e heq
  exact Option.some.inj heq ▸ digits_toDigits n

/-- The exponent of a number, written with its sign. -/
theorem exponent_chars (lead : Int) :
    ("e" ++ (if 0 ≤ lead then Layout.snapshot.plus ++ toString lead else toString lead)).toList =
      Numeral.exponentChars (some (decide (lead < 0), Nat.toDigits 10 lead.natAbs)) := by
  rw [Int.toString_eq_repr, Int.repr_eq_if]
  by_cases h : 0 ≤ lead
  · have hneg : ¬ lead < 0 := by omega
    have habs : lead.toNat = lead.natAbs := by omega
    simp [h, hneg, habs, Numeral.exponentChars, Layout.snapshot, String.toList_append]
  · have hneg : lead < 0 := by omega
    have habs : (-lead).toNat = lead.natAbs := by omega
    simp [h, hneg, habs, Numeral.exponentChars, String.toList_append]

theorem wellFormed_split (negative : Bool) {ds : List Char} (h : Digits ds)
    (hlead : ds.head? ≠ some '0') {n : Nat} (hpos : 0 < n) (hlong : n < ds.length) :
    (⟨negative, ds.take n, some (ds.drop n), none⟩ : Numeral).WellFormed := by
  have htake : ds.take n ≠ [] := by
    intro heq
    have hlength := congrArg List.length heq
    rw [List.length_take, List.length_nil] at hlength
    omega
  have hdrop : ds.drop n ≠ [] := by
    intro heq
    have hlength := congrArg List.length heq
    rw [List.length_drop, List.length_nil] at hlength
    omega
  refine wellFormed_fraction negative ⟨htake, ?_⟩ (Or.inr ?_) ⟨hdrop, ?_⟩
  · intro c hc
    exact h.isDigit c (List.mem_of_mem_take hc)
  · rw [← List.head?_append_of_ne_nil _ htake, List.take_append_drop]
    exact hlead
  · intro c hc
    exact h.isDigit c (List.mem_of_mem_drop hc)

/-- The numeral of digits whose first one counts `10 ^ lead`. -/
def placed (negative : Bool) (ds : List Char) (lead : Int) : Numeral :=
  if Layout.snapshot.lowest ≤ lead ∧ lead ≤ Layout.snapshot.highest then
    if lead < 0 then
      ⟨negative, ['0'], some (List.replicate (-lead - 1).toNat '0' ++ ds), none⟩
    else if ds.length ≤ lead.toNat + 1 then
      ⟨negative, ds ++ List.replicate (lead.toNat + 1 - ds.length) '0', some ['0'], none⟩
    else ⟨negative, ds.take (lead.toNat + 1), some (ds.drop (lead.toNat + 1)), none⟩
  else
    ⟨negative, ds.take 1, if ds.length ≤ 1 then none else some (ds.drop 1),
      some (decide (lead < 0), Nat.toDigits 10 lead.natAbs)⟩

theorem negative_placed (negative : Bool) (ds : List Char) (lead : Int) :
    (placed negative ds lead).negative = negative := by
  unfold placed
  split
  · split
    · rfl
    · split <;> rfl
  · rfl

theorem wellFormed_placed (negative : Bool) {ds : List Char} {lead : Int} (h : Digits ds)
    (hlead : ds.head? ≠ some '0' ∨ ds = ['0'] ∧ lead = 0) :
    (placed negative ds lead).WellFormed := by
  unfold placed
  split
  · by_cases hsmall : lead < 0
    · rw [if_pos hsmall]
      exact wellFormed_fraction negative digits_zero (Or.inl rfl) (digits_zeros_append h _)
    rw [if_neg hsmall]
    by_cases hshort : ds.length ≤ lead.toNat + 1
    · rw [if_pos hshort]
      refine wellFormed_fraction negative (digits_append_zeros h _) ?_ digits_zero
      rcases hlead with hne | ⟨rfl, rfl⟩
      · refine Or.inr ?_
        rw [List.head?_append_of_ne_nil _ h.ne_nil]
        exact hne
      · exact Or.inl rfl
    · rw [if_neg hshort]
      have hne : ds.head? ≠ some '0' := by
        rcases hlead with hne | ⟨rfl, rfl⟩
        · exact hne
        · simp at hshort
      exact wellFormed_split negative h hne (Nat.succ_pos _) (Nat.not_le.mp hshort)
  · obtain ⟨d, rest, rfl⟩ := List.exists_cons_of_ne_nil h.ne_nil
    refine wellFormed_exponent negative (h.isDigit d List.mem_cons_self) ?_ _ _
    intro digits heq
    cases rest with
    | nil => simp at heq
    | cons e more =>
      have hdigits : e :: more = digits := by simpa using heq
      rw [← hdigits]
      exact ⟨by simp, fun c hc => h.isDigit c (List.mem_cons_of_mem _ hc)⟩

/-- Digits that are laid out for a snapshot make their numeral. -/
theorem chars_placed (negative : Bool) {ds : List Char} (hds : ds ≠ []) (lead : Int) :
    (Layout.snapshot.digits ds lead).toList = (placed negative ds lead).chars := by
  unfold Layout.digits placed
  by_cases hpositional : Layout.snapshot.lowest ≤ lead ∧ lead ≤ Layout.snapshot.highest
  · rw [if_pos (by simpa using hpositional), if_pos hpositional]
    by_cases hsmall : lead < 0
    · rw [if_pos hsmall, if_pos hsmall]
      simp [Numeral.chars, Numeral.fractionChars, Numeral.exponentChars, Binary64.zeros,
        String.toList_append]
    rw [if_neg hsmall, if_neg hsmall]
    by_cases hshort : ds.length ≤ lead.toNat + 1
    · rw [if_pos hshort, if_pos hshort]
      simp [Numeral.chars, Numeral.fractionChars, Numeral.exponentChars, Binary64.zeros,
        Layout.snapshot, String.toList_append]
    · rw [if_neg hshort, if_neg hshort]
      simp [Numeral.chars, Numeral.fractionChars, Numeral.exponentChars, String.toList_append]
  · rw [if_neg (by simpa using hpositional), if_neg hpositional]
    obtain ⟨d, rest, rfl⟩ := List.exists_cons_of_ne_nil hds
    cases rest with
    | nil =>
      simp only [String.append_assoc]
      rw [String.toList_append, exponent_chars]
      simp [Numeral.chars, Numeral.fractionChars]
    | cons e more =>
      simp only [String.append_assoc]
      rw [String.toList_append, exponent_chars]
      simp [Numeral.chars, Numeral.fractionChars]

/-- A numeral as it is written, with the sign in front. -/
def Numeral.signed (n : Numeral) : List Char :=
  if n.negative then '-' :: n.chars else n.chars

/-- The numeral of an integer. -/
def intNumeral (n : Int) : Numeral := ⟨decide (n < 0), Nat.toDigits 10 n.natAbs, none, none⟩

theorem wellFormed_intNumeral (n : Int) : (intNumeral n).WellFormed := by
  refine ⟨digits_toDigits _, ?_, by simp [intNumeral], by simp [intNumeral]⟩
  by_cases hzero : n.natAbs = 0
  · refine Or.inl ?_
    rw [intNumeral, hzero]
    rfl
  · exact Or.inr (head?_toDigits_ne_zero hzero)

theorem renderNumber_int (n : Int) : renderNumber (.int n) = (intNumeral n).signed := by
  change (toString n).toList = _
  rw [Int.toString_eq_repr, Int.repr_eq_if]
  by_cases h : 0 ≤ n
  · have hneg : ¬ n < 0 := by omega
    have habs : n.toNat = n.natAbs := by omega
    simp [h, hneg, habs, Numeral.signed, Numeral.chars, intNumeral, Numeral.fractionChars,
      Numeral.exponentChars]
  · have hneg : n < 0 := by omega
    have habs : (-n).toNat = n.natAbs := by omega
    simp [h, hneg, habs, Numeral.signed, Numeral.chars, intNumeral, Numeral.fractionChars,
      Numeral.exponentChars, String.toList_append]

/-- The numeral of a finite number. -/
def floatNumeral (x : Binary64) : Numeral :=
  if x.isZero then ⟨x.isNegative, ['0'], some ['0'], none⟩
  else placed x.isNegative (Nat.toDigits 10 x.shortest.value)
    (x.shortest.exponent + (Nat.toDigits 10 x.shortest.value).length - 1)

theorem negative_floatNumeral (x : Binary64) : (floatNumeral x).negative = x.isNegative := by
  unfold floatNumeral
  split
  · rfl
  · exact negative_placed _ _ _

theorem wellFormed_floatNumeral (x : Binary64) : (floatNumeral x).WellFormed := by
  unfold floatNumeral
  split
  · exact wellFormed_fraction _ digits_zero (Or.inl rfl) digits_zero
  · apply wellFormed_placed _ (digits_toDigits _)
    rcases x.shortest_cases with hne | heq
    · exact Or.inl (head?_toDigits_ne_zero hne)
    · rw [heq]
      exact Or.inr ⟨rfl, rfl⟩

/-- A floating-point number is written as null or, when it is finite, as its numeral. -/
theorem renderNumber_float (x : Binary64) :
    renderNumber (.float x) =
      if x.isNaN || x.isInfinite then "null".toList else (floatNumeral x).signed := by
  change (x.render .snapshot).toList = _
  unfold Binary64.render
  by_cases hnan : x.isNaN = true
  · rw [if_pos hnan, hnan]
    rfl
  by_cases hinfinite : x.isInfinite = true
  · rw [if_neg hnan, if_pos hinfinite, hinfinite, Bool.or_true, if_pos rfl]
    split
    · rfl
    · rfl
  have hfinite : ¬ (x.isNaN || x.isInfinite) = true := by simp [hnan, hinfinite]
  rw [if_neg hnan, if_neg hinfinite, if_neg hfinite]
  have hbody : (if x.isZero then if Layout.snapshot.point then "0.0" else "0"
      else Layout.snapshot.digits (Nat.toDigits 10 x.shortest.value)
        (x.shortest.exponent + (Nat.toDigits 10 x.shortest.value).length - 1)).toList =
      (floatNumeral x).chars := by
    unfold floatNumeral
    split
    · rfl
    · exact chars_placed _ Nat.toDigits_ne_nil _
  rw [Numeral.signed, negative_floatNumeral, ← hbody]
  cases x.isNegative with
  | true => simp only [if_true, String.toList_append]; rfl
  | false => rfl

/-- A number is written as null or as a numeral. -/
theorem renderNumber_cases (n : Number) : renderNumber n = "null".toList ∨
    ∃ numeral : Numeral, numeral.WellFormed ∧ renderNumber n = numeral.signed := by
  cases n with
  | int n => exact Or.inr ⟨intNumeral n, wellFormed_intNumeral n, renderNumber_int n⟩
  | float x =>
    rw [renderNumber_float]
    split
    · exact Or.inl rfl
    · exact Or.inr ⟨floatNumeral x, wellFormed_floatNumeral x, rfl⟩

/-- A value that begins with a digit is a number. -/
theorem readValue_digit {c : Char} (hc : c.isDigit = true) (more : List Char) (fuel : Nat) :
    readValue (fuel + 1) (c :: more) =
      (readNumeral false (c :: more)).map fun (n, rest) => (.number n, rest) := by
  have hne : ∀ d : Char, d.isDigit = false → c ≠ d := by
    rintro d hd rfl
    simp [hd] at hc
  have hskip : skipSpace (c :: more) = c :: more := by
    have hspace : isSpace c = false := by
      simp [isSpace, hne ' ' (by decide), hne '\n' (by decide), hne '\t' (by decide),
        hne '\r' (by decide)]
    simp [skipSpace, hspace]
  rw [readValue, hskip]
  split
  · next heq => exact absurd (List.cons.inj heq).1 (hne 'n' (by decide))
  · next heq => exact absurd (List.cons.inj heq).1 (hne 't' (by decide))
  · next heq => exact absurd (List.cons.inj heq).1 (hne 'f' (by decide))
  · next heq => exact absurd (List.cons.inj heq).1 (hne '"' (by decide))
  · next heq => exact absurd (List.cons.inj heq).1 (hne '-' (by decide))
  · next heq => exact absurd (List.cons.inj heq).1 (hne '[' (by decide))
  · next heq => exact absurd (List.cons.inj heq).1 (hne '\x7b' (by decide))
  · rfl

theorem readValue_signed {n : Numeral} (h : n.WellFormed) {rest : List Char} (hrest : Ends rest)
    (fuel : Nat) : readValue (fuel + 1) (n.signed ++ rest) = some (.number n.value, rest) := by
  have hread := Numeral.readNumeral_chars h hrest
  cases hn : n.negative with
  | true =>
    rw [hn] at hread
    have hskip : skipSpace ('-' :: (n.chars ++ rest)) = '-' :: (n.chars ++ rest) := rfl
    rw [Numeral.signed, hn, if_pos rfl, List.cons_append, readValue, hskip]
    simp only [hread, Option.map_some]
  | false =>
    rw [hn] at hread
    obtain ⟨c, more, hwhole⟩ := List.exists_cons_of_ne_nil h.whole.ne_nil
    have hc : c.isDigit = true := h.whole.isDigit c (by rw [hwhole]; exact List.mem_cons_self)
    have hchars : n.chars ++ rest = c :: (more ++ Numeral.fractionChars n.fraction ++
        Numeral.exponentChars n.exponent ++ rest) := by
      simp [Numeral.chars, hwhole]
    rw [Numeral.signed, hn, if_neg (by decide)]
    rw [hchars] at hread ⊢
    rw [readValue_digit hc, hread, Option.map_some]

/-- What a written number is read as. -/
def numberSource (n : Number) : Source := ((readValue 1 (renderNumber n)).map Prod.fst).getD .null

/-- A written number is read up to its end, whatever stands behind it. -/
theorem readValue_renderNumber (n : Number) {rest : List Char} (hrest : Ends rest) (fuel : Nat) :
    readValue (fuel + 1) (renderNumber n ++ rest) = some (numberSource n, rest) := by
  unfold numberSource
  rcases renderNumber_cases n with hnull | ⟨numeral, hformed, heq⟩
  · rw [hnull]
    rfl
  · have halone := readValue_signed hformed ends_nil 0
    rw [List.append_nil] at halone
    rw [heq, readValue_signed hformed hrest, halone]
    rfl

theorem numberSource_int (n : Int) : numberSource (.int n) = .number (intNumeral n).value := by
  have halone := readValue_signed (wellFormed_intNumeral n) ends_nil 0
  rw [List.append_nil] at halone
  rw [numberSource, renderNumber_int, halone]
  rfl

/-- Digits that make a number of 64 bits are all taken. -/
theorem absorb_of_fits {digits : List Char} {significand : Nat}
    (h : Nat.ofDigitChars 10 digits significand < twoTo 64) :
    absorb significand digits = (Nat.ofDigitChars 10 digits significand, digits.length) := by
  induction digits generalizing significand with
  | nil => simp [absorb]
  | cons c rest ih =>
    have hdigit : digitValue c = c.toNat - '0'.toNat := rfl
    rw [Nat.ofDigitChars_cons, ← hdigit] at h ⊢
    have hnext : 10 * significand + digitValue c < twoTo 64 := by
      refine Nat.lt_of_le_of_lt ?_ h
      rw [Nat.ofDigitChars_eq_ofDigitChars_zero]
      have hpow : 1 ≤ 10 ^ rest.length := Nat.one_le_pow _ _ (by decide)
      calc 10 * significand + digitValue c
          = 1 * (10 * significand + digitValue c) := (Nat.one_mul _).symm
        _ ≤ 10 ^ rest.length * (10 * significand + digitValue c) := Nat.mul_le_mul_right _ hpow
        _ ≤ _ := Nat.le_add_right _ _
    rw [absorb]
    simp only [if_pos hnext, ih h, List.length_cons]

/-- Digits that are all taken make an integer, unless it is minus zero or too small. -/
theorem value_of_absorbed {negative : Bool} {whole : List Char} {n : Nat}
    (h : absorb 0 whole = (n, whole.length)) (hrange : negative = true → n ≠ 0 ∧ n ≤ twoTo 63) :
    Numeral.value ⟨negative, whole, none, none⟩ =
      some (.int (if negative then -n else n)) := by
  cases negative with
  | false => simp only [Numeral.value, h, Nat.sub_self]; rfl
  | true =>
    obtain ⟨hne, hle⟩ := hrange rfl
    have hguard : (decide (n = 0) || decide (twoTo 63 < n)) = false := by
      rw [decide_eq_false hne, decide_eq_false (Nat.not_lt.mpr hle)]
      rfl
    simp only [Numeral.value, h, Nat.sub_self, hguard]
    rfl

/-- Every integer of 64 bits is read as it was written. -/
theorem numberSource_of_fits {n : Int} (h : isInt64 n = true ∨ isNat64 n = true) :
    numberSource (.int n) = .number (some (.int n)) := by
  have hrange : -9223372036854775808 ≤ n ∧ n < 18446744073709551616 := by
    rcases h with hn | hn
    · simp only [isInt64, Bool.and_eq_true, decide_eq_true_eq] at hn
      omega
    · simp only [isNat64, Bool.and_eq_true, decide_eq_true_eq] at hn
      omega
  have hsigned : twoTo 63 = 9223372036854775808 := by decide
  have hunsigned : twoTo 64 = 18446744073709551616 := by decide
  have hfits : Nat.ofDigitChars 10 (Nat.toDigits 10 n.natAbs) 0 < twoTo 64 := by
    rw [Nat.ofDigitChars_ten_toDigits]
    omega
  have habsorb := absorb_of_fits hfits
  rw [Nat.ofDigitChars_ten_toDigits] at habsorb
  rw [numberSource_int, intNumeral, value_of_absorbed habsorb]
  · by_cases hneg : n < 0
    · have hback : -(n.natAbs : Int) = n := by omega
      rw [decide_eq_true hneg, if_pos rfl, hback]
    · have hback : (n.natAbs : Int) = n := by omega
      rw [decide_eq_false hneg, if_neg Bool.false_ne_true, hback]
  · intro hneg
    have hneg' : n < 0 := of_decide_eq_true hneg
    omega

end Json

end Runbook
