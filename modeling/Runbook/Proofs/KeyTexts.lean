import Runbook.Header
import Runbook.Proofs.DecimalValue
import Runbook.Proofs.ValueReading

/-!
The texts of keys. Two numbers that are written alike in a header are the same key: integers have
neither point nor exponent, numbers that are not finite are spelled with letters, and the digits of
any other number settle it. A header leaves the plus sign of an exponent out, and nothing else tells
its numerals from those of a snapshot. So keys that differ have one text only where one of them is a
text and the other one is not.
-/

namespace Runbook

namespace Binary64

/-- Puts the plus sign in that a header leaves out of an exponent. -/
def plusExponent : List Char → List Char
  | [] => []
  | c :: rest =>
      if c = 'e' then if rest.head? = some '-' then c :: rest else c :: '+' :: rest
      else c :: plusExponent rest

theorem plusExponent_append {s : List Char} (h : 'e' ∉ s) (t : List Char) :
    plusExponent (s ++ t) = s ++ plusExponent t := by
  induction s with
  | nil => rfl
  | cons c s ih =>
    rw [List.mem_cons, not_or] at h
    rw [List.cons_append, plusExponent, if_neg (Ne.symm h.1), ih h.2, List.cons_append]

theorem plusExponent_of_not_mem {s : List Char} (h : 'e' ∉ s) : plusExponent s = s := by
  have happend := plusExponent_append h []
  rwa [List.append_nil, plusExponent, List.append_nil] at happend

theorem not_mem_of_isDigit {s : List Char} (h : ∀ c ∈ s, c.isDigit = true) {d : Char}
    (hd : d.isDigit = false) : d ∉ s := by
  intro hmem
  rw [h d hmem] at hd
  cases hd

theorem plusExponent_exponent (lead : Int) :
    plusExponent ("e" ++ (if 0 ≤ lead then Layout.header.plus ++ toString lead
      else toString lead)).toList =
    ("e" ++ (if 0 ≤ lead then Layout.snapshot.plus ++ toString lead
      else toString lead)).toList := by
  rw [Json.exponent_chars, Int.toString_eq_repr, Int.repr_eq_if]
  have hdigits : (Nat.toDigits 10 lead.natAbs).head? ≠ some '-' := by
    intro hhead
    have hmem := List.mem_of_mem_head? hhead
    exact not_mem_of_isDigit (Json.digits_toDigits _).isDigit (by decide) hmem
  by_cases h : 0 ≤ lead
  · have hneg : ¬ lead < 0 := by omega
    have habs : lead.toNat = lead.natAbs := by omega
    simp [h, hneg, habs, Json.Numeral.exponentChars, Layout.header, String.toList_append,
      plusExponent, hdigits]
  · have hneg : lead < 0 := by omega
    have habs : (-lead).toNat = lead.natAbs := by omega
    simp [h, hneg, habs, Json.Numeral.exponentChars, String.toList_append, plusExponent]

/-- Digits are laid out for a header as for a snapshot, but for the sign of the exponent. -/
theorem plusExponent_digits {ds : List Char} (h : ∀ c ∈ ds, c.isDigit = true) (lead : Int) :
    plusExponent (Layout.header.digits ds lead).toList =
      (Layout.snapshot.digits ds lead).toList := by
  have hds : 'e' ∉ ds := not_mem_of_isDigit h (by decide)
  unfold Layout.digits
  by_cases hpositional : (Layout.header.lowest ≤ lead && lead ≤ Layout.header.highest) = true
  · have hsame : (Layout.snapshot.lowest ≤ lead && lead ≤ Layout.snapshot.highest) = true :=
      hpositional
    rw [if_pos hpositional, if_pos hsame]
    refine (plusExponent_of_not_mem ?_).trans rfl
    split
    · simp [zeros, String.toList_append, hds]
    · split
      · simp [zeros, String.toList_append, hds, Layout.header]
      · have htake : 'e' ∉ ds.take (lead.toNat + 1) := fun hmem => hds (List.mem_of_mem_take hmem)
        have hdrop : 'e' ∉ ds.drop (lead.toNat + 1) := fun hmem => hds (List.mem_of_mem_drop hmem)
        simp [String.toList_append, htake, hdrop]
  · have hsame : ¬ (Layout.snapshot.lowest ≤ lead && lead ≤ Layout.snapshot.highest) = true :=
      hpositional
    rw [if_neg hpositional, if_neg hsame]
    have hsplit (a b c : String) : (a ++ b ++ c).toList = a.toList ++ (b ++ c).toList := by
      rw [String.append_assoc, String.toList_append]
    rw [hsplit, hsplit, plusExponent_append ?_, plusExponent_exponent]
    rw [String.toList_ofList]
    cases ds with
    | nil => simp
    | cons d rest =>
      cases rest with
      | nil => exact hds
      | cons e rest =>
        rw [List.mem_cons, not_or] at hds
        simpa using hds

theorem plusExponent_render {x : Binary64} (hnan : x.isNaN = false) (hinf : x.isInfinite = false) :
    plusExponent (x.render .header).toList = (x.render .snapshot).toList := by
  have hbody : plusExponent (if x.isZero then if Layout.header.point then "0.0" else "0"
      else Layout.header.digits (Nat.toDigits 10 x.shortest.value)
        (x.shortest.exponent + (Nat.toDigits 10 x.shortest.value).length - 1)).toList =
      (if x.isZero then if Layout.snapshot.point then "0.0" else "0"
      else Layout.snapshot.digits (Nat.toDigits 10 x.shortest.value)
        (x.shortest.exponent + (Nat.toDigits 10 x.shortest.value).length - 1)).toList := by
    split
    · rfl
    · exact plusExponent_digits (Json.digits_toDigits _).isDigit _
  simp only [render, hnan, hinf, Bool.false_eq_true, if_false]
  cases x.isNegative with
  | true =>
    have hsign : 'e' ∉ "-".toList := by decide
    rw [if_pos rfl, if_pos rfl, String.toList_append, String.toList_append,
      plusExponent_append hsign, hbody]
  | false => exact hbody

end Binary64

namespace Json

theorem Numeral.chars_head {n : Numeral} (h : n.WellFormed) :
    ∃ c rest, n.chars = c :: rest ∧ c.isDigit = true := by
  obtain ⟨c, rest, hwhole⟩ := List.exists_cons_of_ne_nil h.whole.ne_nil
  refine ⟨c, rest ++ fractionChars n.fraction ++ exponentChars n.exponent, ?_, ?_⟩
  · rw [chars, hwhole, List.cons_append, List.cons_append]
  · exact h.whole.isDigit c (hwhole ▸ List.mem_cons_self)

theorem Numeral.eq_of_signed {m n : Numeral} (hm : m.WellFormed) (hn : n.WellFormed)
    (h : m.signed = n.signed) : m = n := by
  have hmark : ∀ {k : Numeral}, k.WellFormed → ∀ s, k.chars ≠ '-' :: s := by
    intro k hk s heq
    obtain ⟨c, rest, hchars, hc⟩ := chars_head hk
    obtain ⟨rfl, -⟩ := List.cons.inj (hchars.symm.trans heq)
    cases hc
  unfold signed at h
  split at h
  · next hneg =>
    split at h
    · next hneg' => exact eq_of_chars hm hn (hneg.trans hneg'.symm) (List.cons.inj h).2
    · exact absurd h.symm (hmark hn _)
  · next hpos =>
    split at h
    · exact absurd h (hmark hm _)
    · next hpos' =>
      rw [Bool.not_eq_true] at hpos hpos'
      exact eq_of_chars hm hn (hpos.trans hpos'.symm) h

/-- There is no letter in a numeral but that of the exponent. -/
theorem Numeral.mem_signed {n : Numeral} (h : n.WellFormed) {c : Char} (hc : c ∈ n.signed) :
    c.isDigit = true ∨ c ∈ ['-', '+', '.', 'e'] := by
  have hchars : c ∈ n.chars → c.isDigit = true ∨ c ∈ ['-', '+', '.', 'e'] := by
    intro hmem
    rw [chars, List.mem_append, List.mem_append] at hmem
    rcases hmem with (hwhole | hfraction) | hexponent
    · exact .inl (h.whole.isDigit c hwhole)
    · cases hpart : n.fraction with
      | none => simp [hpart, fractionChars] at hfraction
      | some digits =>
        rw [hpart, fractionChars, List.mem_cons] at hfraction
        rcases hfraction with rfl | hdigit
        · exact .inr (by decide)
        · exact .inl ((h.fraction digits hpart).isDigit c hdigit)
    · cases hpart : n.exponent with
      | none => simp [hpart, exponentChars] at hexponent
      | some e =>
        obtain ⟨down, digits⟩ := e
        rw [hpart, exponentChars, List.mem_cons, List.mem_cons] at hexponent
        rcases hexponent with rfl | rfl | hdigit
        · exact .inr (by decide)
        · exact .inr (by cases down <;> decide)
        · exact .inl ((h.exponent (down, digits) hpart).isDigit c hdigit)
  unfold signed at hc
  split at hc
  · rcases List.mem_cons.mp hc with rfl | hmem
    · exact .inr (by decide)
    · exact hchars hmem
  · exact hchars hc

/-- A floating-point number is written with a point or an exponent. -/
theorem floatNumeral_marked (x : Binary64) :
    (floatNumeral x).fraction ≠ none ∨ (floatNumeral x).exponent ≠ none := by
  unfold floatNumeral placed
  split
  · simp
  · split
    · split
      · simp
      · split <;> simp
    · simp

theorem intNumeral_injective {m n : Int} (h : intNumeral m = intNumeral n) : m = n := by
  obtain ⟨hsign, hdigits, -⟩ := Numeral.mk.inj h
  have habs : m.natAbs = n.natAbs := by
    rw [← Nat.ofDigitChars_ten_toDigits (n := m.natAbs), hdigits, Nat.ofDigitChars_ten_toDigits]
  have hneg : m < 0 ↔ n < 0 := by simpa using hsign
  omega

theorem toRat_floatNumeral_of_isZero {x : Binary64} (h : x.isZero = true) :
    (floatNumeral x).toRat = 0 := by
  rw [floatNumeral, if_pos h]
  have hdigits : Nat.ofDigitChars 10 ['0', '0'] 0 = 0 := by decide
  simp [Numeral.toRat, Numeral.digits, hdigits]

theorem toRat_floatNumeral_ne_zero {x : Binary64} (h : x.isZero = false) :
    (floatNumeral x).toRat ≠ 0 := by
  have hmagnitude : x.magnitude ≠ 0 := by simpa [Binary64.isZero] using h
  have hvalue := (Binary64.shortest_near hmagnitude).ne_zero
  rw [toRat_floatNumeral h, Binary64.Digits.toRat]
  exact mul_ne_zero (Nat.cast_ne_zero.mpr hvalue) (zpow_ne_zero _ (by norm_num))

/-- The numeral of a number settles its magnitude. -/
theorem magnitude_eq_of_floatNumeral {x y : Binary64} (h : floatNumeral x = floatNumeral y) :
    x.magnitude = y.magnitude := by
  have hrat := congrArg Numeral.toRat h
  cases hx : x.isZero with
  | true =>
    cases hy : y.isZero with
    | true => exact (beq_iff_eq.mp hx).trans (beq_iff_eq.mp hy).symm
    | false =>
      rw [toRat_floatNumeral_of_isZero hx] at hrat
      exact absurd hrat.symm (toRat_floatNumeral_ne_zero hy)
  | false =>
    cases hy : y.isZero with
    | true =>
      rw [toRat_floatNumeral_of_isZero hy] at hrat
      exact absurd hrat (toRat_floatNumeral_ne_zero hx)
    | false =>
      rw [toRat_floatNumeral hx, toRat_floatNumeral hy] at hrat
      exact Binary64.magnitude_eq_of_toRat (by simpa [Binary64.isZero] using hx)
        (by simpa [Binary64.isZero] using hy) hrat

end Json

namespace Binary64

open Json (floatNumeral wellFormed_floatNumeral)

theorem render_of_nan {x : Binary64} (h : x.isNaN = true) : x.render .header = ".nan" := by
  rw [render, if_pos h]
  rfl

theorem render_of_infinite {x : Binary64} (h : x.isInfinite = true) (hnan : x.isNaN = false) :
    x.render .header = if x.isNegative then "-.inf" else ".inf" := by
  rw [render, hnan, h, if_neg (by decide), if_pos rfl]
  rfl

theorem render_of_finite {x : Binary64} (hnan : x.isNaN = false) (hinf : x.isInfinite = false) :
    plusExponent (x.render .header).toList = (floatNumeral x).signed := by
  have hsnapshot := Json.renderNumber_float x
  rw [hnan, hinf, if_neg (by decide)] at hsnapshot
  rw [plusExponent_render hnan hinf]
  exact hsnapshot

end Binary64

namespace Number

open Binary64 (plusExponent)
open Json (Numeral)

/-- The texts of the numbers that are not finite. -/
def specials : List String := [".nan", ".inf", "-.inf"]

/-- The numeral of a number, which is of no use where the number is not finite. -/
def numeral : Number → Numeral
  | .int n => Json.intNumeral n
  | .float x => Json.floatNumeral x

theorem wellFormed_numeral (n : Number) : n.numeral.WellFormed := by
  cases n with
  | int n => exact Json.wellFormed_intNumeral n
  | float x => exact Json.wellFormed_floatNumeral x

theorem render_int (n : Int) :
    plusExponent ((Number.int n).render .header).toList = (Json.intNumeral n).signed := by
  have htext : (toString n).toList = (Json.intNumeral n).signed := Json.renderNumber_int n
  have hplain : 'e' ∉ (Json.intNumeral n).signed :=
    Json.not_mem_signed (Json.wellFormed_intNumeral n) rfl rfl (by decide) (by decide)
  rw [render, htext, Binary64.plusExponent_of_not_mem hplain]

/-- A number is written as its numeral, or as one of the texts that have letters. -/
theorem render_cases (n : Number) : n.render .header ∈ specials ∨
    plusExponent (n.render .header).toList = n.numeral.signed := by
  cases n with
  | int n => exact .inr (render_int n)
  | float x =>
    cases hnan : x.isNaN with
    | true => exact .inl (by rw [render, Binary64.render_of_nan hnan]; decide)
    | false =>
      cases hinf : x.isInfinite with
      | true =>
        refine .inl ?_
        rw [render, Binary64.render_of_infinite hinf hnan]
        cases x.isNegative <;> decide
      | false => exact .inr (Binary64.render_of_finite hnan hinf)

/-- The words that a key can be besides a numeral or a text. -/
def words : List String := "true" :: "false" :: specials

theorem word_ne_signed {text : String} (h : text ∈ words) {numeral : Numeral}
    (hformed : numeral.WellFormed) : plusExponent text.toList ≠ numeral.signed := by
  intro heq
  have hletter : ∀ text ∈ words,
      (plusExponent text.toList).any (['n', 'u', 'l'].contains ·) = true := by decide
  obtain ⟨c, hmem, hc⟩ := List.any_eq_true.mp (hletter text h)
  rw [List.contains_iff_mem] at hc
  rw [heq] at hmem
  have hkind := Numeral.mem_signed hformed hmem
  revert hkind
  rcases List.mem_cons.mp hc with rfl | hc
  · decide
  rcases List.mem_cons.mp hc with rfl | hc
  · decide
  · obtain rfl := List.mem_singleton.mp hc
    decide

theorem special_ne_signed {text : String} (h : text ∈ specials) {numeral : Numeral}
    (hformed : numeral.WellFormed) : plusExponent text.toList ≠ numeral.signed :=
  word_ne_signed (List.mem_cons_of_mem _ (List.mem_cons_of_mem _ h)) hformed

/-- No number is written as a truth value is. -/
theorem render_ne_truth (n : Number) (b : Bool) :
    n.render .header ≠ if b then "true" else "false" := by
  intro heq
  rcases n.render_cases with hspecial | hnumeral
  · rw [heq] at hspecial
    cases b <;> revert hspecial <;> decide
  · rw [heq] at hnumeral
    exact word_ne_signed (by cases b <;> decide) n.wellFormed_numeral hnumeral

/-- Finite numbers with one text have one numeral. -/
theorem numeral_eq_of_render {m n : Number} (h : m.render .header = n.render .header)
    (hm : m.render .header ∉ specials) : m.numeral = n.numeral := by
  have hn : n.render .header ∉ specials := h ▸ hm
  have htext := m.render_cases.resolve_left hm
  rw [h, n.render_cases.resolve_left hn] at htext
  exact (Numeral.eq_of_signed n.wellFormed_numeral m.wellFormed_numeral htext).symm

theorem render_int_not_special (n : Int) : (Number.int n).render .header ∉ specials := by
  intro hspecial
  exact special_ne_signed hspecial (Json.wellFormed_intNumeral n) (render_int n)

theorem same_of_parts {x y : Binary64} (hx : x.isNaN = false) (hy : y.isNaN = false)
    (hsign : x.isNegative = y.isNegative) (hmagnitude : x.magnitude = y.magnitude) :
    x.same y = true := by
  have hrank : x.rank = y.rank := by rw [Binary64.rank, Binary64.rank, hsign, hmagnitude]
  rw [Binary64.same, hx, hy, hrank]
  simp

theorem render_finite_not_special {x : Binary64} (hnan : x.isNaN = false)
    (hinf : x.isInfinite = false) : x.render .header ∉ specials := by
  intro hspecial
  exact special_ne_signed hspecial (Json.wellFormed_floatNumeral x)
    (Binary64.render_of_finite hnan hinf)

theorem isNaN_of_render {x y : Binary64} (h : x.render .header = y.render .header)
    (hx : x.isNaN = true) : y.isNaN = true := by
  rw [Binary64.render_of_nan hx] at h
  by_contra hnan
  rw [Bool.not_eq_true] at hnan
  cases hinf : y.isInfinite with
  | true =>
    rw [Binary64.render_of_infinite hinf hnan] at h
    cases hsign : y.isNegative <;> simp [hsign] at h
  | false => exact render_finite_not_special hnan hinf (by rw [← h]; decide)

theorem isInfinite_of_render {x y : Binary64} (h : x.render .header = y.render .header)
    (hx : x.isNaN = false) (hy : y.isNaN = false) (hinf : x.isInfinite = true) :
    y.isInfinite = true := by
  by_contra hfinite
  rw [Bool.not_eq_true] at hfinite
  refine render_finite_not_special hy hfinite ?_
  rw [← h, Binary64.render_of_infinite hinf hx]
  cases x.isNegative <;> decide

/-- Floating-point numbers that are written alike are the same, or none is a number. -/
theorem same_of_render_float {x y : Binary64} (h : x.render .header = y.render .header) :
    x.same y = true ∨ x.isNaN = true ∧ y.isNaN = true := by
  cases hx : x.isNaN with
  | true => exact .inr ⟨rfl, isNaN_of_render h hx⟩
  | false =>
    have hy : y.isNaN = false := by
      by_contra hnan
      rw [Bool.not_eq_false] at hnan
      rw [isNaN_of_render h.symm hnan] at hx
      cases hx
    refine .inl ?_
    cases hinf : x.isInfinite with
    | true =>
      have hinf' := isInfinite_of_render h hx hy hinf
      refine same_of_parts hx hy ?_ ((beq_iff_eq.mp hinf).trans (beq_iff_eq.mp hinf').symm)
      rw [Binary64.render_of_infinite hinf hx, Binary64.render_of_infinite hinf' hy] at h
      cases hsign : x.isNegative <;> cases hsign' : y.isNegative <;> simp_all
    | false =>
      have hnumeral : Json.floatNumeral x = Json.floatNumeral y :=
        numeral_eq_of_render (m := .float x) (n := .float y) h (render_finite_not_special hx hinf)
      refine same_of_parts hx hy ?_ (Json.magnitude_eq_of_floatNumeral hnumeral)
      rw [← Json.negative_floatNumeral, hnumeral, Json.negative_floatNumeral]

/-- A numeral with a point or an exponent is not that of an integer. -/
theorem render_int_ne_float (k : Int) (x : Binary64) :
    (Number.int k).render .header ≠ (Number.float x).render .header := by
  intro h
  have hnumeral : Json.intNumeral k = Json.floatNumeral x :=
    numeral_eq_of_render h (render_int_not_special k)
  have hmark := Json.floatNumeral_marked x
  rw [← hnumeral] at hmark
  exact absurd hmark (by simp [Json.intNumeral])

/-- Numbers that are written alike are the same key. -/
theorem same_of_render {m n : Number} (h : m.render .header = n.render .header) :
    Yaml.sameNumber m n = true := by
  cases m with
  | int k =>
    cases n with
    | int l =>
      have hnumeral := numeral_eq_of_render h (render_int_not_special k)
      exact beq_iff_eq.mpr (Json.intNumeral_injective hnumeral)
    | float x => exact absurd h (render_int_ne_float k x)
  | float x =>
    cases n with
    | int k => exact absurd h.symm (render_int_ne_float k x)
    | float y =>
      rw [Yaml.sameNumber, Bool.or_eq_true, Bool.and_eq_true]
      exact same_of_render_float h

end Number

namespace Header

open Yaml (same)

/-- A key with a text is this text, or a number or a truth value that is written so. -/
theorem keyText?_cases {k : Yaml} {name : String} (h : keyText? k = some name) :
    k = .text name ∨ (∃ n, k = .number n ∧ n.render .header = name) ∨
      ∃ b, k = .bool b ∧ (if b then "true" else "false") = name := by
  cases k with
  | text s => exact .inl (congrArg Yaml.text (Option.some.inj h))
  | number n => exact .inr (.inl ⟨n, rfl, Option.some.inj h⟩)
  | bool b => exact .inr (.inr ⟨b, rfl, Option.some.inj h⟩)
  | null | list | map | tagged => cases h

/-- Keys that differ have one text only where one of them is a text and the other one is not. -/
theorem text_of_shared {k l : Yaml} {name : String} (hk : keyText? k = some name)
    (hl : keyText? l = some name) (h : same k l = false) :
    (k = .text name ∧ l ≠ .text name) ∨ (l = .text name ∧ k ≠ .text name) := by
  by_cases hktext : k = .text name
  · refine .inl ⟨hktext, ?_⟩
    rintro rfl
    rw [hktext] at h
    simp [same] at h
  by_cases hltext : l = .text name
  · exact .inr ⟨hltext, hktext⟩
  exfalso
  rcases (keyText?_cases hk).resolve_left hktext with ⟨m, rfl, hm⟩ | ⟨a, rfl, ha⟩
  · rcases (keyText?_cases hl).resolve_left hltext with ⟨n, rfl, hn⟩ | ⟨b, rfl, hb⟩
    · rw [same, Number.same_of_render (hm.trans hn.symm)] at h
      cases h
    · exact m.render_ne_truth b (hm.trans hb.symm)
  · rcases (keyText?_cases hl).resolve_left hltext with ⟨n, rfl, hn⟩ | ⟨b, rfl, hb⟩
    · exact n.render_ne_truth a (hn.trans ha.symm)
    · have hab : a = b := by
        have htext := ha.trans hb.symm
        revert htext
        cases a <;> cases b <;> decide
      simp [same, hab] at h

end Header

end Runbook
