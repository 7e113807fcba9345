import Runbook.Proofs.CaptureRestore
import Runbook.Proofs.SortedTables

/-!
The two ways from a JSON value to a variable and back. Reading tries one kind of variable after the
other on the datum of the value, and writing hands over what the variable holds; both agree with the
conversions that look at the kind of the value.
-/

namespace Runbook

namespace Json

mutual

/-- A JSON value is what its datum is read as. -/
theorem ofDatum_toDatum : ∀ j : Json, j.Canonical → ofDatum j.toDatum = j
  | .null, _ => rfl
  | .bool _, _ => rfl
  | .number (.int n), _ => by
    rw [toDatum]
    split
    · rfl
    · next hn => rw [ofDatum, int, Int.toNat_of_nonneg (not_lt.mp hn)]
  | .number (.float x), h => Variable.toJson_float h
  | .text _, _ => rfl
  | .array items, h => by
    rw [toDatum, ofDatum, ofDatumItems_toDatumItems items h]
  | .object members, h => by
    rw [toDatum, ofDatum, ofDatumEntries_toDatumEntries members h.2, h.1.ofList_eq]

theorem ofDatumItems_toDatumItems : ∀ items : List Json, CanonicalItems items →
    ofDatumItems (toDatumItems items) = items
  | [], _ => rfl
  | j :: rest, h => by
    rw [toDatumItems, ofDatumItems, ofDatum_toDatum j h.1, ofDatumItems_toDatumItems rest h.2]

theorem ofDatumEntries_toDatumEntries : ∀ members : List (String × Json),
    CanonicalMembers members → ofDatumEntries (toDatumEntries members) = members
  | [], _ => rfl
  | (_, j) :: rest, h => by
    rw [toDatumEntries, ofDatumEntries, ofDatum_toDatum j h.1,
      ofDatumEntries_toDatumEntries rest h.2]

end

end Json

namespace Variable

/-- Whether a variable is an integer depends on its size, not on how it is handed over. -/
theorem ofDatum_int (n : Int) :
    ofDatum (if n < 0 then .signed n else .unsigned n.toNat) = ofJson (.number (.int n)) := by
  have hvalue : ∀ d : Datum, (d = .signed n ∨ ∃ m : Nat, d = .unsigned m ∧ (m : Int) = n) →
      ofDatum d = ofJson (.number (.int n)) := by
    rintro d (rfl | ⟨m, rfl, rfl⟩)
    · by_cases hn : isInt64 n = true
      · simp [ofDatum, readBool?, readInt?, ofJson, hn]
      · simp [ofDatum, readBool?, readInt?, readFloat?, ofJson, hn]
    · by_cases hn : isInt64 m = true
      · simp [ofDatum, readBool?, readInt?, ofJson, hn]
      · simp [ofDatum, readBool?, readInt?, readFloat?, ofJson, hn]
  split
  · exact hvalue _ (.inl rfl)
  · next hn => exact hvalue _ (.inr ⟨_, rfl, Int.toNat_of_nonneg (not_lt.mp hn)⟩)

/-- Nothing but a truth value, a number or a text is read as a native variable. -/
theorem read_structured {j : Json} (hj : j.Canonical)
    (h : readBool? j.toDatum = none ∧ readInt? j.toDatum = none ∧ readFloat? j.toDatum = none ∧
      readText? j.toDatum = none) : read j = .structured j := by
  obtain ⟨hbool, hint, hfloat, htext⟩ := h
  rw [read, ofDatum, hbool, hint, hfloat, htext, Json.ofDatum_toDatum j hj]
  rfl

theorem read_eq_ofJson {j : Json} (hj : j.Canonical) : read j = ofJson j := by
  match j, hj with
  | .null, hj => exact read_structured hj ⟨rfl, rfl, rfl, rfl⟩
  | .bool b, _ => rfl
  | .number (.int n), _ => rw [read, Json.toDatum, ofDatum_int]
  | .number (.float x), _ => rfl
  | .text s, _ => rfl
  | .array items, hj => exact read_structured hj ⟨rfl, rfl, rfl, rfl⟩
  | .object members, hj => exact read_structured hj ⟨rfl, rfl, rfl, rfl⟩

theorem write_eq_toJson {v : Variable} (hv : ∀ j, v = .structured j → j.Canonical) :
    v.write = v.toJson := by
  cases v with
  | structured j => exact Json.ofDatum_toDatum j (hv j rfl)
  | bool b => rfl
  | int n => rfl
  | float x => rfl
  | text s => rfl

/-- Reading a JSON value by trying the kinds of variables gives what its own kind gives, and what is
written of a variable is its JSON value, also where it holds a number that is not finite, or a JSON
value that another kind of variable would hold. -/
theorem codecs_agree :
    (∀ j : Json, j.Canonical → read j = ofJson j) ∧
      ∀ v : Variable, (∀ j, v = .structured j → j.Canonical) → v.write = v.toJson :=
  ⟨fun _ hj => read_eq_ofJson hj, fun _ hv => write_eq_toJson hv⟩

/-- An integer beyond the signed ones is a floating-point number on both ways, but stays an integer
within an array; a number held as a JSON value is written like any other. -/
theorem codecs_agree_on_mixed_numbers :
    (Json.int 9223372036854775808).Canonical ∧
      read (.int 9223372036854775808) = .float (.ofInt 9223372036854775808) ∧
      (Json.array [.int 9223372036854775808]).Canonical ∧
      read (.array [.int 9223372036854775808]) =
        .structured (.array [.int 9223372036854775808]) ∧
      (Json.int 1).Canonical ∧ (structured (.int 1)).write = .int 1 ∧
      (float .nan).write = .null := by
  have hlarge : (Json.int 9223372036854775808).Canonical := by
    simp [Json.int, Json.Canonical, isInt64, isNat64]
  have hone : (Json.int 1).Canonical := by simp [Json.int, Json.Canonical, isInt64]
  have harray : (Json.array [.int 9223372036854775808]).Canonical := ⟨hlarge, trivial⟩
  refine ⟨hlarge, codecs_agree.1 _ hlarge, harray, codecs_agree.1 _ harray, hone, ?_, ?_⟩
  · refine codecs_agree.2 (structured (.int 1)) fun j hj => ?_
    cases hj
    exact hone
  · have hnan : (float .nan).write = (float .nan).toJson :=
      codecs_agree.2 (float .nan) fun j hj => by cases hj
    have hfinite : Binary64.nan.isFinite = false := by decide
    simp [hnan, toJson, Json.float, hfinite]

end Variable

end Runbook
