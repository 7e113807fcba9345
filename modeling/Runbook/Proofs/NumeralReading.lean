import Mathlib.Algebra.Group.Nat.Defs
import Runbook.Json.Printer
import Runbook.Json.Reader

/-!
Numbers as the printer writes them. Each finite number is written as a numeral without needless
zeros, whatever its layout, and a numeral is read up to its end where what follows cannot go on
with it. What a numeral is worth is not looked at here.
-/

namespace Runbook.Json

/-- What follows a number does not go on with it. -/
def Ends (rest : List Char) : Prop :=
  ∀ c ∈ rest.head?, c.isDigit = false ∧ c ≠ '.' ∧ c ≠ 'e' ∧ c ≠ 'E'

theorem ends_nil : Ends [] := by
  intro c hc
  simp at hc

theorem ends_cons {c : Char} {rest : List Char}
    (h : c.isDigit = false ∧ c ≠ '.' ∧ c ≠ 'e' ∧ c ≠ 'E') : Ends (c :: rest) := by
  intro d hd
  obtain rfl : c = d := by simpa using hd
  exact h

/-- Characters that are all digits, and at least one. -/
structure Digits (s : List Char) : Prop where
  ne_nil : s ≠ []
  isDigit : ∀ c ∈ s, c.isDigit = true

theorem Digits.takeWhile_append {s rest : List Char} (h : Digits s)
    (hrest : ∀ c ∈ rest.head?, c.isDigit = false) : (s ++ rest).takeWhile Char.isDigit = s := by
  rw [List.takeWhile_append_of_pos h.isDigit]
  cases rest with
  | nil => simp
  | cons c rest => simp [hrest c (by simp)]

theorem Digits.dropWhile_append {s rest : List Char} (h : Digits s)
    (hrest : ∀ c ∈ rest.head?, c.isDigit = false) :
    (s ++ rest).dropWhile Char.isDigit = rest := by
  rw [List.dropWhile_append_of_pos h.isDigit]
  cases rest with
  | nil => simp
  | cons c rest => simp [hrest c (by simp)]

theorem digits_toDigits (n : Nat) : Digits (Nat.toDigits 10 n) :=
  ⟨Nat.toDigits_ne_nil, fun _ hc => Nat.isDigit_of_mem_toDigits (by decide) (by decide) hc⟩

/-- Digits stand for less than the power of ten that counts them. -/
theorem ofDigitChars_lt {s : List Char} (h : ∀ c ∈ s, c.isDigit = true) :
    Nat.ofDigitChars 10 s 0 < 10 ^ s.length := by
  induction s with
  | nil => decide
  | cons c s ih =>
    have hrest := ih fun d hd => h d (List.mem_cons_of_mem _ hd)
    have hc := h c List.mem_cons_self
    simp only [Char.isDigit, Bool.and_eq_true, decide_eq_true_eq, UInt32.le_iff_toNat_le] at hc
    have hdigit : c.toNat - '0'.toNat ≤ 9 := Nat.sub_le_iff_le_add.mpr hc.2
    rw [Nat.ofDigitChars_cons, Nat.ofDigitChars_eq_ofDigitChars_zero, List.length_cons,
      Nat.pow_succ, Nat.mul_zero, Nat.zero_add]
    have hfirst := Nat.mul_le_mul_left (10 ^ s.length) hdigit
    omega

/-- The digits of a number other than zero do not begin with a zero. -/
theorem head?_toDigits_ne_zero {n : Nat} (hn : n ≠ 0) :
    (Nat.toDigits 10 n).head? ≠ some '0' := by
  induction n using Nat.strongRecOn with
  | ind n ih =>
    by_cases hsmall : n < 10
    · rw [Nat.toDigits_of_lt_base hsmall]
      have hall : ∀ d < 10, d ≠ 0 → [d.digitChar].head? ≠ some '0' := by decide
      exact hall n hsmall hn
    · have hfirst : (Nat.toDigits 10 (n / 10)).head?.isSome = true := by
        rw [List.isSome_head?]
        exact Nat.toDigits_ne_nil
      rw [Nat.toDigits_of_base_le (by decide) (by omega), List.head?_append,
        Option.or_of_isSome hfirst]
      exact ih (n / 10) (by omega) (by omega)

namespace Numeral

/-- The fraction of a numeral as it is written. -/
def fractionChars : Option (List Char) → List Char
  | none => []
  | some digits => '.' :: digits

/-- The exponent of a numeral as it is written, with its sign. -/
def exponentChars : Option (Bool × List Char) → List Char
  | none => []
  | some (down, digits) => 'e' :: (if down then '-' else '+') :: digits

/-- A numeral as it is written, without the sign in front. -/
def chars (n : Numeral) : List Char :=
  n.whole ++ fractionChars n.fraction ++ exponentChars n.exponent

structure WellFormed (n : Numeral) : Prop where
  whole : Digits n.whole
  leading : n.whole.length = 1 ∨ n.whole.head? ≠ some '0'
  fraction : ∀ digits ∈ n.fraction, Digits digits
  exponent : ∀ e ∈ n.exponent, Digits e.2

theorem ends_exponentChars {e : Option (Bool × List Char)} {rest : List Char} (h : Ends rest) :
    ∀ c ∈ (exponentChars e ++ rest).head?, c.isDigit = false ∧ c ≠ '.' := by
  intro c hc
  cases e with
  | none =>
    obtain ⟨hdigit, hpoint, -⟩ := h c hc
    exact ⟨hdigit, hpoint⟩
  | some e =>
    obtain rfl : 'e' = c := by simpa [exponentChars] using hc
    decide

theorem readFraction_chars {fraction : Option (List Char)} {rest : List Char}
    (hdigits : ∀ digits ∈ fraction, Digits digits)
    (hrest : ∀ c ∈ rest.head?, c.isDigit = false ∧ c ≠ '.') :
    readFraction (fractionChars fraction ++ rest) = some (fraction, rest) := by
  cases fraction with
  | none =>
    rw [fractionChars, List.nil_append]
    unfold readFraction
    split
    · next more => exact absurd rfl (hrest '.' (by simp)).2
    · rfl
  | some digits =>
    have hd := hdigits digits rfl
    have hstop : ∀ c ∈ rest.head?, c.isDigit = false := fun c hc => (hrest c hc).1
    have hne : (digits.isEmpty) = false := by simpa using hd.ne_nil
    simp only [fractionChars, List.cons_append, readFraction, hd.takeWhile_append hstop,
      hd.dropWhile_append hstop, hne]
    rfl

theorem readExponent_chars {e : Option (Bool × List Char)} {rest : List Char}
    (hdigits : ∀ parts ∈ e, Digits parts.2) (hrest : Ends rest) :
    readExponent (exponentChars e ++ rest) = some (e, rest) := by
  cases e with
  | none =>
    rw [exponentChars, List.nil_append]
    unfold readExponent
    split
    · next more => exact absurd rfl (hrest 'e' (by simp)).2.2.1
    · next more => exact absurd rfl (hrest 'E' (by simp)).2.2.2
    · rfl
  | some parts =>
    obtain ⟨down, digits⟩ := parts
    have hd : Digits digits := hdigits _ rfl
    have hstop : ∀ c ∈ rest.head?, c.isDigit = false := fun c hc => (hrest c hc).1
    have hne : (digits.isEmpty) = false := by simpa using hd.ne_nil
    cases down with
    | true =>
      simp only [exponentChars, if_true, List.cons_append, readExponent,
        hd.takeWhile_append hstop, hd.dropWhile_append hstop, hne, Bool.false_eq_true, if_false]
    | false =>
      simp only [exponentChars, Bool.false_eq_true, if_false, List.cons_append, readExponent,
        hd.takeWhile_append hstop, hd.dropWhile_append hstop, hne]

/-- A written numeral is read for what it is worth. -/
theorem readNumeral_chars {n : Numeral} (h : n.WellFormed) {rest : List Char} (hrest : Ends rest) :
    readNumeral n.negative (n.chars ++ rest) = some (n.value, rest) := by
  have hexponent := ends_exponentChars (e := n.exponent) hrest
  have hfraction : ∀ c ∈ (fractionChars n.fraction ++ (exponentChars n.exponent ++ rest)).head?,
      c.isDigit = false := by
    cases n.fraction with
    | none => exact fun c hc => (hexponent c hc).1
    | some digits =>
      intro c hc
      obtain rfl : '.' = c := by simpa [fractionChars] using hc
      decide
  have hchars : n.chars ++ rest =
      n.whole ++ (fractionChars n.fraction ++ (exponentChars n.exponent ++ rest)) := by
    simp only [chars, List.append_assoc]
  have hne : (!n.whole.isEmpty) = true := by simpa using h.whole.ne_nil
  have hleading : (n.whole.length = 1 || n.whole.head? ≠ some '0') = true := by
    simpa using h.leading
  have hpass : ∀ {p : Prop} [Decidable p], p → (guard p : Option Unit) = some () := by
    intro p _ hp
    exact if_pos hp
  unfold readNumeral
  rw [hchars, h.whole.takeWhile_append hfraction, h.whole.dropWhile_append hfraction]
  dsimp only
  rw [hpass hne, hpass hleading, readFraction_chars h.fraction hexponent]
  simp only [Option.bind_eq_bind, Option.bind_some, readExponent_chars h.exponent hrest,
    Option.pure_def]

end Numeral

end Runbook.Json
