import Mathlib.Data.List.DropRight
import Mathlib.Data.List.Forall2
import Mathlib.Data.List.TakeWhile
import Runbook.Registry

/-!
The spellings of a tool's name. Two of them have the same normal form when they differ in the case
of ASCII letters, in `_` and `-`, and in the white space around them; a normal form is its own.
-/

namespace Runbook

namespace Registry

open Text

/-- Characters that the names of tools do not tell apart. -/
def SameCharacter (c d : Char) : Prop :=
  c.toLower = d.toLower ∨ (c = '_' ∨ c = '-') ∧ (d = '_' ∨ d = '-')

/-- Two spellings of one name. -/
def SameTool (name other : String) : Prop :=
  List.Forall₂ SameCharacter (trim name.toList) (trim other.toList)

/-- What stands for a character in a normal form. -/
def fold (c : Char) : Char := hyphenated c.toLower

theorem toList_normalForm (name : String) :
    (normalForm name).toList = (trim name.toList).map fold := by
  rw [normalForm, String.toList_ofList, lowerAscii, List.map_map]
  rfl

theorem toNat_toLower (c : Char) :
    c.toLower.toNat = if 65 ≤ c.toNat ∧ c.toNat ≤ 90 then c.toNat + 32 else c.toNat := by
  have hrange : c.val ≥ 'A'.val ∧ c.val ≤ 'Z'.val ↔ 65 ≤ c.toNat ∧ c.toNat ≤ 90 := Iff.rfl
  unfold Char.toLower
  split
  · next h =>
    rw [if_pos (hrange.mp h)]
    have hsmall : c.val.toNat ≤ 90 := (hrange.mp h).2
    have hstep : (32 : UInt32).toNat = 32 := rfl
    change (c.val + 32).toNat = c.val.toNat + 32
    rw [UInt32.toNat_add]
    omega
  · next h => rw [if_neg (mt hrange.mpr h)]

theorem toLower_eq_mark_iff {c mark : Char} (hmark : mark = '_' ∨ mark = '-') :
    c.toLower = mark ↔ c = mark := by
  have hnumber : mark.toNat = 95 ∨ mark.toNat = 45 := by
    rcases hmark with rfl | rfl
    · exact .inl rfl
    · exact .inr rfl
  rw [← Char.toNat_inj, ← Char.toNat_inj, toNat_toLower]
  split <;> omega

theorem fold_eq_iff {c d : Char} : fold c = fold d ↔ SameCharacter c d := by
  have hunderscore : ∀ c : Char, c.toLower = '_' ↔ c = '_' :=
    fun c => toLower_eq_mark_iff (.inl rfl)
  have hhyphen : ∀ c : Char, c.toLower = '-' ↔ c = '-' :=
    fun c => toLower_eq_mark_iff (.inr rfl)
  have hclash : ∀ c : Char, c = '_' → c ≠ '-' := by
    rintro c rfl
    decide
  unfold fold hyphenated SameCharacter
  grind

/-- Two spellings have one normal form when they differ in nothing that counts. -/
theorem normalForm_eq_iff {name other : String} :
    normalForm name = normalForm other ↔ SameTool name other := by
  rw [← String.toList_inj, toList_normalForm, toList_normalForm, ← List.forall₂_eq_eq_eq,
    List.forall₂_map_left_iff, List.forall₂_map_right_iff]
  simp only [fold_eq_iff]
  rfl

/-- No letter and no mark between words is white space. -/
theorem isBlank_of_toNat {c : Char} (hlow : 45 ≤ c.toNat) (hhigh : c.toNat ≤ 122) :
    isBlank c = false := by
  unfold isBlank
  simp only [Bool.or_eq_false_iff, Bool.and_eq_false_iff, decide_eq_false_iff_not,
    beq_eq_false_iff_ne]
  omega

theorem isBlank_fold (c : Char) : isBlank (fold c) = isBlank c := by
  have hlower := toNat_toLower c
  unfold fold hyphenated
  split
  · next hmark =>
    obtain rfl := (toLower_eq_mark_iff (.inl rfl)).mp hmark
    rfl
  · split at hlower
    · next hletter =>
      rw [isBlank_of_toNat (by omega) (by omega), isBlank_of_toNat (by omega) (by omega)]
    · rw [Char.toNat_inj.mp hlower]

theorem trim_map_fold (s : List Char) : trim (s.map fold) = (trim s).map fold := by
  have hblank : isBlank ∘ fold = isBlank := funext isBlank_fold
  simp only [trim, trimStart, trimEnd, List.dropWhile_map, hblank, ← List.map_reverse]

theorem trim_trim (s : List Char) : trim (trim s) = trim s := by
  have hstart : trimStart (trim s) = trim s := by
    have hfront : trimEnd (trimStart s) <+: trimStart s := List.rdropWhile_prefix isBlank _
    refine List.dropWhile_eq_self_iff.mpr fun hlength => ?_
    rw [show (trim s)[0] = _ from hfront.getElem hlength]
    exact List.dropWhile_eq_self_iff.mp (List.dropWhile_idempotent isBlank s) _
  rw [trim, hstart]
  exact List.rdropWhile_idempotent isBlank _

theorem toLower_toLower (c : Char) : c.toLower.toLower = c.toLower := by
  rw [← Char.toNat_inj, toNat_toLower c.toLower]
  have hlower := toNat_toLower c
  split at hlower <;> split <;> omega

theorem fold_fold (c : Char) : fold (fold c) = fold c := by
  rw [fold_eq_iff]
  unfold fold hyphenated
  split
  · next hmark => exact .inr ⟨.inr rfl, .inl ((toLower_eq_mark_iff (.inl rfl)).mp hmark)⟩
  · exact .inl (toLower_toLower c)

/-- A normal form is its own normal form. -/
theorem normalForm_normalForm (name : String) : normalForm (normalForm name) = normalForm name := by
  rw [← String.toList_inj, toList_normalForm, toList_normalForm, trim_map_fold, trim_trim,
    List.map_map]
  exact List.map_congr_left fun c _ => fold_fold c

theorem isBuiltin_normalForm (name : String) : isBuiltin (normalForm name) = isBuiltin name := by
  rw [isBuiltin, isBuiltin, normalForm_normalForm]

/-- The built-in tools are written in normal form. -/
theorem isBuiltin_of_mem {name : String} (h : name ∈ builtinTools) : isBuiltin name = true := by
  have hall : ∀ name ∈ builtinTools, isBuiltin name = true := by decide
  exact hall name h

end Registry

end Runbook
