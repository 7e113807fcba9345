import Runbook.Yaml.ToJson

/-!
Which YAML values have a JSON form: those with no key, at any depth, that JSON cannot hold. Those
keys are null, lists, mappings, tagged values and numbers that are not finite.
-/

namespace Runbook

namespace Yaml

/-- A key that JSON can hold. -/
def IsJsonKey : Yaml → Prop
  | .text _ | .bool _ | .number (.int _) => True
  | .number (.float x) => x.isFinite = true
  | _ => False

/-- A key of a mapping, anywhere in a value. -/
inductive KeyIn (key : Yaml) : Yaml → Prop
  | here {v : Yaml} {entries : List (Yaml × Yaml)} (h : (key, v) ∈ entries) :
      KeyIn key (.map entries)
  | value {other v : Yaml} {entries : List (Yaml × Yaml)} (h : (other, v) ∈ entries)
      (hv : KeyIn key v) : KeyIn key (.map entries)
  | item {v : Yaml} {items : List Yaml} (h : v ∈ items) (hv : KeyIn key v) :
      KeyIn key (.list items)
  | tagged {tag : String} {v : Yaml} (hv : KeyIn key v) : KeyIn key (.tagged tag v)

/-- All keys in a value are keys for JSON. -/
def JsonKeyed (v : Yaml) : Prop := ∀ key, KeyIn key v → IsJsonKey key

theorem isSome_keyText? {k : Yaml} : (keyText? k).isSome = true ↔ IsJsonKey k := by
  cases k with
  | number n =>
    cases n with
    | int n => simp [keyText?, IsJsonKey]
    | float x =>
      unfold keyText? IsJsonKey
      by_cases hx : x.isFinite = true
      · simp [hx]
      · simp [hx]
  | null => simp [keyText?, IsJsonKey]
  | bool b => simp [keyText?, IsJsonKey]
  | text s => simp [keyText?, IsJsonKey]
  | list items => simp [keyText?, IsJsonKey]
  | map entries => simp [keyText?, IsJsonKey]
  | tagged tag v => simp [keyText?, IsJsonKey]

theorem jsonKeyed_list {items : List Yaml} :
    JsonKeyed (.list items) ↔ ∀ v ∈ items, JsonKeyed v := by
  constructor
  · intro h v hv key hkey
    exact h key (.item hv hkey)
  · intro h key hkey
    cases hkey with
    | item hv hkey => exact h _ hv key hkey

theorem jsonKeyed_map {entries : List (Yaml × Yaml)} :
    JsonKeyed (.map entries) ↔ ∀ entry ∈ entries, IsJsonKey entry.1 ∧ JsonKeyed entry.2 := by
  constructor
  · intro h entry hentry
    exact ⟨h entry.1 (.here hentry), fun key hkey => h key (.value hentry hkey)⟩
  · intro h key hkey
    cases hkey with
    | here hentry => exact (h _ hentry).1
    | value hentry hkey => exact (h _ hentry).2 key hkey

theorem jsonKeyed_tagged {tag : String} {v : Yaml} : JsonKeyed (.tagged tag v) ↔ JsonKeyed v := by
  constructor
  · intro h key hkey
    exact h key (.tagged hkey)
  · intro h key hkey
    cases hkey with
    | tagged hkey => exact h key hkey

/-- A value without parts has no keys. -/
theorem jsonKeyed_scalar {v : Yaml} (h : ∀ key, ¬ KeyIn key v) : JsonKeyed v :=
  fun key hkey => absurd hkey (h key)

mutual

/-- A value has a JSON form just when all of its keys are keys for JSON. -/
theorem isSome_toJson? : ∀ v : Yaml, (toJson? v).isSome = true ↔ JsonKeyed v
  | .null => iff_of_true rfl (jsonKeyed_scalar fun _ h => nomatch h)
  | .bool _ => iff_of_true rfl (jsonKeyed_scalar fun _ h => nomatch h)
  | .number (.int _) => iff_of_true rfl (jsonKeyed_scalar fun _ h => nomatch h)
  | .number (.float _) => iff_of_true rfl (jsonKeyed_scalar fun _ h => nomatch h)
  | .text _ => iff_of_true rfl (jsonKeyed_scalar fun _ h => nomatch h)
  | .list items => by
    rw [toJson?, Option.isSome_map, isSome_toItems? items, jsonKeyed_list]
  | .map entries => by
    rw [toJson?, Option.isSome_map, isSome_toMembers? entries [], jsonKeyed_map]
  | .tagged tag v => by
    rw [toJson?, Option.isSome_map, isSome_toJson? v, jsonKeyed_tagged]

theorem isSome_toItems? : ∀ items : List Yaml,
    (toItems? items).isSome = true ↔ ∀ v ∈ items, JsonKeyed v
  | [] => by simp [toItems?]
  | v :: rest => by
    rw [List.forall_mem_cons, ← isSome_toJson? v, ← isSome_toItems? rest, toItems?]
    cases toJson? v with
    | none => simp
    | some j => cases toItems? rest <;> simp

theorem isSome_toMembers? : ∀ (entries : List (Yaml × Yaml)) (seen : Table Json),
    (toMembers? seen entries).isSome = true ↔
      ∀ entry ∈ entries, IsJsonKey entry.1 ∧ JsonKeyed entry.2
  | [], seen => by simp [toMembers?]
  | (k, v) :: rest, seen => by
    rw [List.forall_mem_cons, ← isSome_keyText?, ← isSome_toJson? v, toMembers?]
    cases keyText? k with
    | none => simp
    | some key =>
      cases toJson? v with
      | none => simp
      | some j => simpa using isSome_toMembers? rest (seen.insert key j)

end

end Yaml

end Runbook
