import Runbook.Json.Printer
import Runbook.Json.Reader

/-!
Strings as the printer writes them are read as they were: each character is escaped by itself, so
that reading takes it off the front again.
-/

namespace Runbook.Json

theorem readChar_control (c : Char) (hc : c.toNat < 0x20) (rest : List Char) :
    readChar ('\\' :: 'u' :: Text.padZeros 4 (Text.hex c.toNat) ++ rest) = some (some c, rest) := by
  have hall : ∀ n, n < 0x20 →
      Text.digits? 16 (Text.padZeros 4 (Text.hex n)) = some n ∧
      (Text.padZeros 4 (Text.hex n)).length = 4 := by decide
  obtain ⟨hdigits, hlength⟩ := hall c.toNat hc
  obtain ⟨a, b, d, e, hpadded⟩ : ∃ a b d e, Text.padZeros 4 (Text.hex c.toNat) = [a, b, d, e] := by
    match Text.padZeros 4 (Text.hex c.toNat), hlength with
    | [a, b, d, e], _ => exact ⟨a, b, d, e, rfl⟩
  rw [hpadded] at hdigits ⊢
  have hlow : isLowSurrogate c.toNat = false := by
    unfold isLowSurrogate
    have hsmall : ¬ 0xdc00 ≤ c.toNat := by omega
    simp [hsmall]
  have hhigh : isHighSurrogate c.toNat = false := by
    unfold isHighSurrogate
    have hsmall : ¬ 0xd800 ≤ c.toNat := by omega
    simp [hsmall]
  simp [readChar, readHex4, hdigits, unicodeEscape, hlow, hhigh]

/-- A character is read off the front of its escaped form, which never begins like the end of a
string. -/
theorem readChar_escapeChar (c : Char) (rest : List Char) :
    readChar (escapeChar c ++ rest) = some (some c, rest) ∧
      ∃ first more, escapeChar c = first :: more ∧ first ≠ '"' := by
  unfold escapeChar
  by_cases hquote : c = '"'
  · subst hquote
    exact ⟨rfl, _, _, rfl, by decide⟩
  by_cases hslash : c = '\\'
  · subst hslash
    exact ⟨rfl, _, _, rfl, by decide⟩
  by_cases hb : c = '\x08'
  · subst hb
    exact ⟨rfl, _, _, rfl, by decide⟩
  by_cases hf : c = '\x0c'
  · subst hf
    exact ⟨rfl, _, _, rfl, by decide⟩
  by_cases hn : c = '\n'
  · subst hn
    exact ⟨rfl, _, _, rfl, by decide⟩
  by_cases hr : c = '\r'
  · subst hr
    exact ⟨rfl, _, _, rfl, by decide⟩
  by_cases ht : c = '\t'
  · subst ht
    exact ⟨rfl, _, _, rfl, by decide⟩
  rw [if_neg hquote, if_neg hslash, if_neg hb, if_neg hf, if_neg hn, if_neg hr, if_neg ht]
  by_cases hcontrol : c.toNat < 0x20
  · rw [if_pos hcontrol]
    exact ⟨readChar_control c hcontrol rest, _, _, rfl, by decide⟩
  · rw [if_neg hcontrol]
    refine ⟨?_, c, [], rfl, hquote⟩
    have hplain : ∀ s : List Char, readChar (c :: s) =
        if c.toNat < 0x20 || c = '\\' then none else some (some c, s) := by
      intro s
      unfold readChar
      split
      · next heq => exact absurd (List.cons.inj heq).1 hslash
      · next heq => exact absurd (List.cons.inj heq).1 hslash
      · next heq =>
        obtain ⟨rfl, rfl⟩ := List.cons.inj heq
        rfl
      · next heq => simp at heq
    rw [List.singleton_append, hplain]
    simp [hcontrol, hslash]

/-- A string is read up to the quote that closes it. The induction is on its characters, which
gather in front of those that have been read. -/
theorem readString_flatMap (cs : List Char) (read rest : List Char) (fuel : Nat)
    (hfuel : cs.length < fuel) :
    readString (some read) fuel (cs.flatMap escapeChar ++ '"' :: rest) =
      some (some (.ofList (read.reverse ++ cs)), rest) := by
  induction cs generalizing read fuel with
  | nil =>
    obtain ⟨fuel, rfl⟩ : ∃ n, fuel = n + 1 := ⟨fuel - 1, by simp at hfuel; omega⟩
    simp [readString]
  | cons c cs ih =>
    obtain ⟨fuel, rfl⟩ : ∃ n, fuel = n + 1 := ⟨fuel - 1, by simp at hfuel; omega⟩
    have hrest : cs.length < fuel := by
      simp at hfuel
      omega
    obtain ⟨hread, first, more, hescape, hne⟩ :=
      readChar_escapeChar c (cs.flatMap escapeChar ++ '"' :: rest)
    have hstep : readString (some read) (fuel + 1)
        (escapeChar c ++ (cs.flatMap escapeChar ++ '"' :: rest)) =
        readString (some (c :: read)) fuel (cs.flatMap escapeChar ++ '"' :: rest) := by
      rw [hescape] at hread ⊢
      rw [List.cons_append] at hread ⊢
      rw [readString]
      · rw [hread]
        rfl
      · intro other heq
        exact hne (List.cons.inj heq).1
    rw [List.flatMap_cons, List.append_assoc, hstep, ih (c :: read) fuel hrest]
    simp

theorem length_le_flatMap (cs : List Char) : cs.length ≤ (cs.flatMap escapeChar).length := by
  induction cs with
  | nil => exact Nat.le_refl _
  | cons c cs ih =>
    obtain ⟨-, first, more, hescape, -⟩ := readChar_escapeChar c []
    rw [List.flatMap_cons, List.length_append, hescape, List.length_cons, List.length_cons]
    omega

/-- What follows the opening quote of a printed string is read as the string. -/
theorem readText_escaped (s : String) (rest : List Char) :
    readText (s.toList.flatMap escapeChar ++ '"' :: rest) = some (some s, rest) := by
  unfold readText
  have hlength := length_le_flatMap s.toList
  rw [readString_flatMap]
  · simp
  · rw [List.length_append]
    omega

end Runbook.Json
