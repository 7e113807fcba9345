import Runbook.Proofs.CalendarDates
import Runbook.Proofs.SnapshotText

/-!
Timestamps as text. Every instant that a clock can show is read back from its text, and whatever
text is read as a timestamp gives such an instant. The fields of a written timestamp have their
fixed widths, so that the reader, which would take shorter ones as well, takes each of them whole.
-/

namespace Runbook.Instant

open Text

/-- A number that is written with so many digits. -/
structure Field (width n : Nat) (s : List Char) : Prop where
  isDigit : ∀ c ∈ s, c.isDigit = true
  value : decimal s = n
  length : s.length = width

theorem toList_padded (width n : Nat) :
    (padded width n).toList = padZeros width (Nat.toDigits 10 n) := String.toList_ofList

theorem isDigit_padZeros (width n : Nat) :
    ∀ c ∈ padZeros width (Nat.toDigits 10 n), c.isDigit = true := by
  intro c hc
  rcases List.mem_append.mp hc with hzero | hdigit
  · rw [List.eq_of_mem_replicate hzero]
    rfl
  · exact Nat.isDigit_of_mem_toDigits (by decide) (by decide) hdigit

theorem decimal_padZeros (width n : Nat) : decimal (padZeros width (Nat.toDigits 10 n)) = n := by
  change Nat.ofDigitChars 10 (padZeros width (Nat.toDigits 10 n)) 0 = n
  rw [padZeros, Nat.ofDigitChars_append, Nat.ofDigitChars_replicate_zero, Nat.mul_zero,
    Nat.ofDigitChars_ten_toDigits]

theorem length_padZeros {width n : Nat} (hwidth : 0 < width) (hn : n < 10 ^ width) :
    (padZeros width (Nat.toDigits 10 n)).length = width := by
  have hshort := (Nat.length_toDigits_le_iff (b := 10) (by decide) hwidth).mpr hn
  rw [padZeros, List.length_append, List.length_replicate]
  omega

theorem field_padded {width n : Nat} (hwidth : 0 < width) (hn : n < 10 ^ width) :
    Field width n (padded width n).toList := by
  rw [toList_padded]
  exact ⟨isDigit_padZeros width n, decimal_padZeros width n, length_padZeros hwidth hn⟩

/-- Digits are taken up to the limit, or up to what is no digit. -/
theorem readDigits_append {limit n : Nat} {s rest : List Char} (hs : s ≠ [])
    (hdigit : ∀ c ∈ s, c.isDigit = true) (hvalue : decimal s = n)
    (hstop : s.length = limit ∨ s.length ≤ limit ∧ ∀ c ∈ rest.head?, c.isDigit = false) :
    readDigits limit (s ++ rest) = some (n, s.length, rest) := by
  have htaken : ((s ++ rest).takeWhile Char.isDigit).take limit = s := by
    rw [List.takeWhile_append_of_pos hdigit]
    rcases hstop with hfull | ⟨hshort, hrest⟩
    · rw [← hfull, List.take_left']
      rfl
    · have hnone : rest.takeWhile Char.isDigit = [] := by
        cases rest with
        | nil => rfl
        | cons c more => simp [hrest c rfl]
      rw [hnone, List.append_nil, List.take_of_length_le hshort]
  have hne : s.isEmpty = false := by simpa using hs
  rw [readDigits, htaken]
  simp [hne, hvalue]

theorem Field.ne_nil {width n : Nat} {s : List Char} (h : Field (width + 1) n s) : s ≠ [] := by
  rintro rfl
  simpa using h.length

theorem isBlank_of_isDigit {c : Char} (h : c.isDigit = true) : isBlank c = false := by
  simp only [Char.isDigit, Bool.and_eq_true, decide_eq_true_eq, UInt32.le_iff_toNat_le] at h
  have hlow : 48 ≤ c.toNat := h.1
  have hhigh : c.toNat ≤ 57 := h.2
  simp [isBlank]
  omega

theorem trimStart_of_isDigit {s rest : List Char} (hs : s ≠ [])
    (h : ∀ c ∈ s, c.isDigit = true) : trimStart (s ++ rest) = s ++ rest := by
  cases s with
  | nil => exact absurd rfl hs
  | cons c s =>
    have hc := isBlank_of_isDigit (h c List.mem_cons_self)
    simp [trimStart, hc]

theorem readField_append {n : Nat} {s : List Char} (h : Field 2 n s) (rest : List Char) :
    readField (s ++ rest) = some (n, rest) := by
  rw [readField, trimStart_of_isDigit h.ne_nil h.isDigit,
    readDigits_append h.ne_nil h.isDigit h.value (.inl h.length)]
  rfl

theorem readMark_cons {mark : Char} (h : isBlank mark = false) (rest : List Char) :
    readMark mark (mark :: rest) = some rest := by
  simp [readMark, trimStart, h]

/-- A year after its sign. -/
theorem readDigits_year (n : Nat) (rest : List Char) :
    readDigits ((padded 4 n).toList ++ '-' :: rest).length ((padded 4 n).toList ++ '-' :: rest) =
      some (n, (padded 4 n).toList.length, '-' :: rest) := by
  rw [toList_padded]
  have hne : padZeros 4 (Nat.toDigits 10 n) ≠ [] := by
    intro hnil
    exact Nat.toDigits_ne_nil (List.append_eq_nil_iff.mp hnil).2
  refine readDigits_append hne (isDigit_padZeros 4 n) (decimal_padZeros 4 n) (.inr ⟨?_, ?_⟩)
  · rw [List.length_append]
    omega
  · intro c hc
    obtain rfl : '-' = c := by simpa using hc
    rfl

theorem readYear_append (year : Int) (rest : List Char) :
    readYear ((renderYear year).toList ++ '-' :: rest) = some (year, '-' :: rest) := by
  unfold renderYear
  split
  · next hrange =>
    have hyear : 0 ≤ year ∧ year ≤ 9999 := by simpa using hrange
    have hfield := @field_padded 4 year.toNat (by decide) (by omega)
    obtain ⟨c, more, hwhole⟩ := List.exists_cons_of_ne_nil hfield.ne_nil
    have hc : c.isDigit = true := hfield.isDigit c (by rw [hwhole]; exact List.mem_cons_self)
    have hread : readDigits 4 ((padded 4 year.toNat).toList ++ '-' :: rest) =
        some (year.toNat, (padded 4 year.toNat).toList.length, '-' :: rest) :=
      readDigits_append hfield.ne_nil hfield.isDigit hfield.value (.inl hfield.length)
    have hback : ((year.toNat : Nat) : Int) = year := by omega
    rw [readYear, trimStart_of_isDigit hfield.ne_nil hfield.isDigit]
    rw [hwhole, List.cons_append] at hread ⊢
    split
    · next heq =>
      rw [(List.cons.inj heq).1] at hc
      simp at hc
    · next heq =>
      rw [(List.cons.inj heq).1] at hc
      simp at hc
    · simp only [hread, Option.bind_eq_bind, Option.bind_some, hback, Option.pure_def]
  · by_cases hneg : year < 0
    · have hback : -((year.natAbs : Nat) : Int) = year := by omega
      have hsign : "-".toList = ['-'] := by decide
      rw [if_pos hneg, String.toList_append, hsign, List.append_assoc, List.singleton_append]
      rw [readYear, trimStart, List.dropWhile_cons_of_neg (by decide)]
      simp only [readDigits_year, Option.bind_eq_bind, Option.bind_some, hback, Option.pure_def]
    · have hback : ((year.natAbs : Nat) : Int) = year := by omega
      have hsign : "+".toList = ['+'] := by decide
      rw [if_neg hneg, String.toList_append, hsign, List.append_assoc, List.singleton_append]
      rw [readYear, trimStart, List.dropWhile_cons_of_neg (by decide)]
      simp only [readDigits_year, Option.bind_eq_bind, Option.bind_some, hback, Option.pure_def]

theorem readFraction_digits {width n : Nat} (hwidth : 0 < width) (hlimit : width ≤ 9)
    (hn : n < 10 ^ width) :
    readFraction (("." ++ padded width n).toList ++ ['Z']) =
      some (n * tenTo (9 - width), ['Z']) := by
  have hfield := field_padded hwidth hn
  have hne : (padded width n).toList ≠ [] := by
    intro hnil
    have hlength := hfield.length
    rw [hnil, List.length_nil] at hlength
    omega
  have hread : readDigits 9 ((padded width n).toList ++ ['Z']) =
      some (n, (padded width n).toList.length, ['Z']) := by
    refine readDigits_append hne hfield.isDigit hfield.value (.inr ⟨?_, ?_⟩)
    · rw [hfield.length]
      exact hlimit
    · intro c hc
      obtain rfl : 'Z' = c := by simpa using hc
      rfl
  have hpoint : ".".toList = ['.'] := by decide
  rw [String.toList_append, hpoint, List.append_assoc, List.singleton_append]
  simp only [readFraction, hread, hfield.length, Option.bind_eq_bind, Option.bind_some]
  rfl

theorem readFraction_render {nanos : Nat} (h : nanos < 1000000000) :
    readFraction ((renderFraction nanos).toList ++ ['Z']) = some (nanos, ['Z']) := by
  have hten : tenTo (9 - 3) = 1000000 ∧ tenTo (9 - 6) = 1000 ∧ tenTo (9 - 9) = 1 := by decide
  unfold renderFraction
  split
  · next hzero =>
    rw [hzero]
    rfl
  split
  · next hmilli =>
    rw [readFraction_digits (by decide) (by decide) (by omega), hten.1,
      Nat.div_mul_cancel (Nat.dvd_of_mod_eq_zero hmilli)]
  split
  · next hmicro =>
    rw [readFraction_digits (by decide) (by decide) (by omega), hten.2.1,
      Nat.div_mul_cancel (Nat.dvd_of_mod_eq_zero hmicro)]
  · rw [readFraction_digits (by decide) (by decide) (by omega), hten.2.2, Nat.mul_one]

/-- An instant that a clock can show: in the range of the calendar, with a leap second only at the
end of a minute. -/
structure OnClock (t : Instant) : Prop where
  inRange : t.inRange = true
  nanos : t.nanos < 2000000000
  leap : 1000000000 ≤ t.nanos → t.seconds % 60 = 59

theorem toList_render (t : Instant) : t.render.toList =
    (renderYear t.date.year).toList ++ '-' :: ((padded 2 t.date.month).toList ++ '-' ::
      ((padded 2 t.date.day).toList ++ 'T' :: ((padded 2 t.hour).toList ++ ':' ::
        ((padded 2 t.minute).toList ++ ':' :: ((padded 2 t.second).toList ++
          ((renderFraction t.fraction).toList ++ ['Z'])))))) := by
  simp [render, renderDate, renderClock]

/-- What is written of an instant makes it up. -/
theorem ofDate_of_onClock {t : Instant} (h : t.OnClock) :
    ofDate t.date t.hour t.minute (if t.second = 60 then 59 else t.second)
      (t.fraction + if t.second = 60 then 1000000000 else 0) = t := by
  obtain ⟨-, hnanos, hleap⟩ := h
  have hdays : t.date.toDays = t.seconds / 86400 := Date.toDays_ofDays (t.seconds / 86400)
  have hday : ((t.secondOfDay : Nat) : Int) = t.seconds % 86400 := by
    unfold secondOfDay
    omega
  have hclock : t.hour * 3600 + t.minute * 60 + t.secondOfDay % 60 = t.secondOfDay := by
    unfold hour minute
    omega
  by_cases hlast : 1000000000 ≤ t.nanos
  · have hminute := hleap hlast
    have hsecond : t.second = 60 := by
      unfold second
      rw [if_pos hlast]
      omega
    have hfraction : t.fraction + 1000000000 = t.nanos := by
      unfold fraction
      omega
    rw [if_pos hsecond, if_pos hsecond, hfraction, ofDate, hdays]
    congr 1
    omega
  · have hsecond : t.second = t.secondOfDay % 60 := by
      unfold second
      rw [if_neg hlast, Nat.add_zero]
    have hne : t.second ≠ 60 := by omega
    have hfraction : t.fraction + 0 = t.nanos := by
      unfold fraction
      omega
    rw [if_neg hne, if_neg hne, hfraction, hsecond, ofDate, hclock, hdays]
    congr 1
    omega

theorem clock_le (t : Instant) : t.hour ≤ 23 ∧ t.minute ≤ 59 ∧ t.second ≤ 60 := by
  have hday : t.secondOfDay < 86400 := by
    unfold secondOfDay
    omega
  refine ⟨?_, ?_, ?_⟩
  · unfold hour
    omega
  · unfold minute
    omega
  · unfold second
    split <;> omega

theorem date_le (t : Instant) : t.date.month ≤ 12 ∧ t.date.day ≤ 31 := by
  have hvalid := Date.isValid_ofDays (t.seconds / 86400)
  simp only [Date.isValid, Bool.and_eq_true, decide_eq_true_eq] at hvalid
  have hlongest : ∀ year month, Date.daysInMonth year month ≤ 31 := by
    intro year month
    unfold Date.daysInMonth
    split
    · split <;> decide
    · split <;> decide
  exact ⟨hvalid.1.1.2, hvalid.2.trans (hlongest _ _)⟩

theorem readsBack_of_onClock {t : Instant} (h : t.OnClock) : t.ReadsBack := by
  have hvalid : t.date.isValid = true := Date.isValid_ofDays (t.seconds / 86400)
  have hyear : yearInRange t.date.year = true := h.inRange
  obtain ⟨hmonth, hday⟩ := t.date_le
  obtain ⟨hhour, hminute, hsecond⟩ := t.clock_le
  have hfraction : t.fraction < 1000000000 := Nat.mod_lt _ (by decide)
  have hfield : ∀ {n : Nat}, n < 100 → Field 2 n (padded 2 n).toList :=
    fun hn => field_padded (by decide) hn
  unfold ReadsBack read
  rw [toList_render]
  refine Option.bind_eq_some_iff.mpr ⟨_, readYear_append _ _, ?_⟩
  refine Option.bind_eq_some_iff.mpr ⟨_, readMark_cons (by decide) _, ?_⟩
  refine Option.bind_eq_some_iff.mpr ⟨_, readField_append (hfield (by omega)) _, ?_⟩
  refine Option.bind_eq_some_iff.mpr ⟨_, readMark_cons (by decide) _, ?_⟩
  refine Option.bind_eq_some_iff.mpr ⟨_, readField_append (hfield (by omega)) _, ?_⟩
  refine Option.bind_eq_some_iff.mpr ⟨_, rfl, ?_⟩
  refine Option.bind_eq_some_iff.mpr ⟨_, readField_append (hfield (by omega)) _, ?_⟩
  refine Option.bind_eq_some_iff.mpr ⟨_, readMark_cons (by decide) _, ?_⟩
  refine Option.bind_eq_some_iff.mpr ⟨_, readField_append (hfield (by omega)) _, ?_⟩
  refine Option.bind_eq_some_iff.mpr ⟨_, readMark_cons (by decide) _, ?_⟩
  refine Option.bind_eq_some_iff.mpr ⟨_, readField_append (hfield (by omega)) _, ?_⟩
  refine Option.bind_eq_some_iff.mpr ⟨_, readFraction_render hfraction, ?_⟩
  refine Option.bind_eq_some_iff.mpr ⟨(0, []), by decide, ?_⟩
  have hpass : ∀ {p : Prop} [Decidable p], p → (guard p : Option Unit) = some () := fun hp =>
    if_pos hp
  refine Option.bind_eq_some_iff.mpr ⟨(), hpass rfl, ?_⟩
  refine Option.bind_eq_some_iff.mpr ⟨(), hpass ?_, ?_⟩
  · simp only [hyear, hvalid, hhour, hminute, hsecond, decide_true, Bool.and_self]
  refine Option.bind_eq_some_iff.mpr ⟨(), hpass rfl, ?_⟩
  dsimp only
  rw [ofDate_of_onClock h]
  have hsame : t.addSeconds (-0) = t := by
    rw [addSeconds, Int.neg_zero, Int.add_zero]
  rw [hsame]
  exact Option.bind_eq_some_iff.mpr ⟨(), hpass h.inRange, rfl⟩

theorem readOffsetSize_minutes {s rest : List Char} {offset : Int}
    (h : readOffsetSize s = some (offset, rest)) : offset % 60 = 0 := by
  unfold readOffsetSize at h
  split at h
  · simp only [Option.bind_eq_bind, Option.bind_eq_some_iff] at h
    obtain ⟨-, -, h⟩ := h
    split at h
    · simp only [Option.bind_eq_some_iff, Option.pure_def, Option.some.injEq, Prod.mk.injEq] at h
      obtain ⟨-, -, heq, -⟩ := h
      omega
    · simp at h
  · simp at h

/-- An offset is a whole number of minutes. -/
theorem readOffset_minutes {s rest : List Char} {offset : Int}
    (h : readOffset s = some (offset, rest)) : offset % 60 = 0 := by
  unfold readOffset at h
  split at h
  · obtain ⟨rfl, -⟩ := Prod.mk.inj (Option.some.inj h)
    rfl
  · split at h
    · obtain ⟨rfl, -⟩ := Prod.mk.inj (Option.some.inj h)
      rfl
    · obtain ⟨rfl, -⟩ := Prod.mk.inj (Option.some.inj h)
      rfl
    · exact readOffsetSize_minutes h
    · obtain ⟨⟨n, more⟩, hread, heq⟩ := Option.bind_eq_some_iff.mp h
      obtain ⟨rfl, -⟩ := Prod.mk.inj (Option.some.inj heq)
      have hn := readOffsetSize_minutes hread
      omega
    · obtain ⟨⟨n, more⟩, hread, heq⟩ := Option.bind_eq_some_iff.mp h
      obtain ⟨rfl, -⟩ := Prod.mk.inj (Option.some.inj heq)
      have hn := readOffsetSize_minutes hread
      omega
    · simp at h

theorem readFraction_lt {s rest : List Char} {nanos : Nat}
    (h : readFraction s = some (nanos, rest)) : nanos < 1000000000 := by
  unfold readFraction at h
  split at h
  · next more =>
    obtain ⟨⟨n, count, after⟩, hread, heq⟩ := Option.bind_eq_some_iff.mp h
    obtain ⟨rfl, -⟩ := Prod.mk.inj (Option.some.inj heq)
    unfold readDigits at hread
    dsimp only at hread
    split at hread
    · simp at hread
    · obtain ⟨rfl, hparts⟩ := Prod.mk.inj (Option.some.inj hread)
      obtain ⟨rfl, -⟩ := Prod.mk.inj hparts
      set digits := (more.takeWhile Char.isDigit).take 9 with hdigits
      have hcount : digits.length ≤ 9 := List.length_take_le 9 _
      have hlt : decimal digits < 10 ^ digits.length := by
        apply Json.ofDigitChars_lt
        intro c hc
        exact List.all_eq_true.mp List.all_takeWhile c (List.mem_of_mem_take hc)
      have hten : tenTo (9 - digits.length) = 10 ^ (9 - digits.length) := rfl
      calc decimal digits * tenTo (9 - digits.length)
          < 10 ^ digits.length * 10 ^ (9 - digits.length) := by
            rw [hten]
            exact Nat.mul_lt_mul_of_pos_right hlt (Nat.pow_pos (by decide))
        _ = 1000000000 := by
            rw [← Nat.pow_add, Nat.add_sub_cancel' hcount]
  · obtain ⟨rfl, -⟩ := Prod.mk.inj (Option.some.inj h)
    decide

/-- What a timestamp that is read is put together from, whatever separates its date and time. -/
theorem read_cases {text : String} {t : Instant} (h : read text = some t) :
    ∃ date hour minute second fraction offset s s' rest rest',
      readFraction s = some (fraction, rest) ∧ readOffset s' = some (offset, rest') ∧
      t = (ofDate date hour minute (if second = 60 then 59 else second)
        (fraction + if second = 60 then 1000000000 else 0)).addSeconds (-offset) ∧
      t.inRange = true := by
  unfold read at h
  obtain ⟨⟨year, _⟩, -, h⟩ := Option.bind_eq_some_iff.mp h
  obtain ⟨_, -, h⟩ := Option.bind_eq_some_iff.mp h
  obtain ⟨⟨month, _⟩, -, h⟩ := Option.bind_eq_some_iff.mp h
  obtain ⟨_, -, h⟩ := Option.bind_eq_some_iff.mp h
  obtain ⟨⟨day, _⟩, -, h⟩ := Option.bind_eq_some_iff.mp h
  dsimp only at h
  split at h
  case h_4 => simp at h
  all_goals
    obtain ⟨_, -, h⟩ := Option.bind_eq_some_iff.mp h
    obtain ⟨⟨hour, _⟩, -, h⟩ := Option.bind_eq_some_iff.mp h
    obtain ⟨_, -, h⟩ := Option.bind_eq_some_iff.mp h
    obtain ⟨⟨minute, _⟩, -, h⟩ := Option.bind_eq_some_iff.mp h
    obtain ⟨_, -, h⟩ := Option.bind_eq_some_iff.mp h
    obtain ⟨⟨second, s⟩, -, h⟩ := Option.bind_eq_some_iff.mp h
    obtain ⟨⟨fraction, rest⟩, hfraction, h⟩ := Option.bind_eq_some_iff.mp h
    obtain ⟨⟨offset, rest'⟩, hoffset, h⟩ := Option.bind_eq_some_iff.mp h
    obtain ⟨_, -, h⟩ := Option.bind_eq_some_iff.mp h
    obtain ⟨_, -, h⟩ := Option.bind_eq_some_iff.mp h
    obtain ⟨_, -, h⟩ := Option.bind_eq_some_iff.mp h
    obtain ⟨_, hrange, h⟩ := Option.bind_eq_some_iff.mp h
    obtain rfl := Option.some.inj h
    refine ⟨⟨year, month, day⟩, hour, minute, second, fraction, offset, _, _, _, _, hfraction,
      hoffset, rfl, ?_⟩
    by_contra hout
    simp [guard, hout] at hrange

/-- A timestamp that is read is one that a clock can show. -/
theorem onClock_of_read {text : String} {t : Instant} (h : read text = some t) : t.OnClock := by
  obtain ⟨date, hour, minute, second, fraction, offset, s, s', rest, rest', hfraction, hoffset,
    rfl, hrange⟩ := read_cases h
  have hnanos := readFraction_lt hfraction
  have hminutes := readOffset_minutes hoffset
  refine ⟨hrange, ?_, ?_⟩
  · change fraction + (if second = 60 then 1000000000 else 0) < 2000000000
    split <;> omega
  · intro hlate
    change 1000000000 ≤ fraction + (if second = 60 then 1000000000 else 0) at hlate
    have hsecond : second = 60 := by
      by_contra hne
      rw [if_neg hne] at hlate
      omega
    subst hsecond
    simp only [ofDate, addSeconds, if_true]
    omega

end Runbook.Instant
