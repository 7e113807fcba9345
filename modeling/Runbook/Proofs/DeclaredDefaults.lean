import Runbook.Proofs.JsonKeys
import Runbook.Proofs.SortedTables
import Runbook.Proofs.WorkflowReading
import Runbook.Run.Snapshot

/-!
The variables that a fresh run starts with. The value listed for a name goes before the one in its
declaration, and the one that is chosen gives the variable, or none if it has no JSON form. The
names can be gone through in any order.
-/

namespace Runbook

/-- A key that JSON cannot hold. -/
inductive Yaml.Unkeyable : Yaml → Prop
  | null : Unkeyable .null
  | list (items : List Yaml) : Unkeyable (.list items)
  | map (entries : List (Yaml × Yaml)) : Unkeyable (.map entries)
  | tagged (tag : String) (v : Yaml) : Unkeyable (.tagged tag v)
  | float {x : Binary64} (h : x.isFinite = false) : Unkeyable (.number (.float x))

theorem Yaml.not_isJsonKey_iff {key : Yaml} : ¬ key.IsJsonKey ↔ key.Unkeyable := by
  constructor
  · intro h
    cases key with
    | null => exact .null
    | list items => exact .list items
    | map entries => exact .map entries
    | tagged tag v => exact .tagged tag v
    | number n =>
      cases n with
      | int n => exact absurd trivial h
      | float x => exact .float (by simpa [IsJsonKey] using h)
    | bool b => exact absurd trivial h
    | text s => exact absurd trivial h
  · rintro (_ | _ | _ | _ | hx)
    · exact id
    · exact id
    · exact id
    · exact id
    · simp [IsJsonKey, hx]

namespace InputSpec

/-- The names with a value of their own, and those that are declared. -/
def names (i : InputSpec) : List String := i.default.keys ++ (i.schema.getD []).keys

/-- The default of a name: the value listed for it, or the one of its declaration where none is
listed. -/
inductive Chooses (i : InputSpec) (name : String) : Yaml → Prop
  | listed {v : Yaml} (h : i.default.find? name = some v) : Chooses i name v
  | declared {v : Yaml} {spec : ParameterSpec} (hlisted : name ∉ i.default.keys)
      (hspec : i.declaration? name = some spec) (h : spec.default = some v) : Chooses i name v

theorem defaultFor?_eq_some_iff {i : InputSpec} {name : String} {v : Yaml} :
    i.defaultFor? name = some v ↔ i.Chooses name v := by
  unfold defaultFor?
  constructor
  · intro h
    split at h
    · next w hw =>
      obtain rfl := Option.some.inj h
      exact .listed hw
    · next hnone =>
      obtain ⟨spec, hspec, h⟩ := Option.bind_eq_some_iff.mp h
      exact .declared (Table.find?_eq_none_iff.mp hnone) hspec h
  · rintro (h | ⟨hlisted, hspec, h⟩)
    · rw [h]
    · rw [Table.find?_eq_none_iff.mpr hlisted, hspec]
      exact h

/-- Only the names that are gone through have a default. -/
theorem Chooses.mem_names {i : InputSpec} {name : String} {v : Yaml} (h : i.Chooses name v) :
    name ∈ i.names := by
  rw [names, List.mem_append]
  cases h with
  | listed h => exact .inl (List.mem_map_of_mem (Table.mem_of_find? h))
  | declared _ hspec _ =>
    obtain ⟨schema, hschema, hspec⟩ := Option.bind_eq_some_iff.mp hspec
    rw [hschema]
    exact .inr (List.mem_map_of_mem (Table.mem_of_find? hspec))

end InputSpec

namespace RunContext

variable {input : InputSpec} {name : String} {v : Yaml}

/-- The variable that a name starts with. -/
def initialVariable (input : InputSpec) (name : String) : Option Variable :=
  (input.defaultFor? name).bind defaultVariable

/-- One step of the walk through the names: what is there stays. -/
def seed (input : InputSpec) (vars : Table Variable) (name : String) : Table Variable :=
  if vars.contains name then vars
  else match initialVariable input name with
    | some x => vars.insert name x
    | none => vars

theorem initialVariables_eq (input : InputSpec) :
    initialVariables input = input.names.foldl (seed input) [] := rfl

theorem find?_seed (vars : Table Variable) (name other : String) :
    (seed input vars name).find? other =
      (vars.find? other).or (if other = name then initialVariable input name else none) := by
  unfold seed
  cases hfound : vars.find? name with
  | some x =>
    have hcontains : vars.contains name = true := by rw [Table.contains, hfound]; rfl
    rw [if_pos hcontains]
    by_cases hname : other = name
    · rw [hname, hfound, Option.some_or]
    · rw [if_neg hname, Option.or_none]
  | none =>
    have hcontains : ¬ vars.contains name = true := by simp [Table.contains, hfound]
    rw [if_neg hcontains]
    cases initialVariable input name with
    | none => simp
    | some x =>
      simp only [Table.find?_insert]
      by_cases hname : other = name
      · simp [hname, hfound]
      · simp [hname]

/-- By induction on the names: a variable is found when it was there before, or when its name is
gone through and has a default for it. -/
theorem find?_foldl_seed (names : List String) (vars : Table Variable) (other : String) :
    (names.foldl (seed input) vars).find? other =
      (vars.find? other).or (if other ∈ names then initialVariable input other else none) := by
  induction names generalizing vars with
  | nil => simp
  | cons name names ih =>
    rw [List.foldl_cons, ih, find?_seed, Option.or_assoc]
    congr 1
    by_cases hname : other = name
    · subst hname
      cases initialVariable input other <;> simp
    · simp [hname]

theorem sorted_foldl_seed (names : List String) {vars : Table Variable} (h : vars.Sorted) :
    (names.foldl (seed input) vars).Sorted := by
  induction names generalizing vars with
  | nil => exact h
  | cons name names ih =>
    rw [List.foldl_cons]
    apply ih
    unfold seed
    split
    · exact h
    split
    · next x _ => exact h.insert name x
    · exact h

/-- A name that is not gone through has no default, so that it has no variable either. -/
theorem find?_initialVariables (input : InputSpec) (name : String) :
    (initialVariables input).find? name = initialVariable input name := by
  rw [initialVariables_eq, find?_foldl_seed, Table.find?_nil, Option.none_or]
  split
  · rfl
  · next hname =>
    cases hdefault : input.defaultFor? name with
    | none => rw [initialVariable, hdefault, Option.bind_none]
    | some v =>
      exact absurd (InputSpec.defaultFor?_eq_some_iff.mp hdefault).mem_names hname

/-- The order and the number of the visits do not count. -/
theorem foldl_seed_eq {names : List String} (h : ∀ name, name ∈ names ↔ name ∈ input.names) :
    names.foldl (seed input) [] = initialVariables input := by
  rw [initialVariables_eq]
  refine (sorted_foldl_seed names .nil).ext (sorted_foldl_seed input.names .nil) fun name => ?_
  rw [find?_foldl_seed, find?_foldl_seed]
  simp only [h name]

theorem defaultVariable_eq_none_iff :
    defaultVariable v = none ↔ ∃ key, Yaml.KeyIn key v ∧ Yaml.Unkeyable key := by
  have hform : defaultVariable v = none ↔ ¬ v.JsonKeyed := by
    rw [defaultVariable, Option.map_eq_none_iff, ← Yaml.isSome_toJson?, Bool.not_eq_true,
      Option.isSome_eq_false_iff, Option.isNone_iff_eq_none]
  rw [hform, Yaml.JsonKeyed, not_forall]
  simp only [Classical.not_imp, Yaml.not_isJsonKey_iff]

/-- A fresh run has the default of each name for its variable, unless a key in the default has no
JSON form, and it has no other variable. Whichever way one goes through the names, these are the
variables. -/
theorem fresh_variables (runId : String) (w : Workflow) (now : Instant) :
    let input := w.header.input
    let vars := (ofWorkflow runId w now).vars
    (∀ name v, input.Chooses name v → vars.find? name = defaultVariable v) ∧
    (∀ name, (∀ v, ¬ input.Chooses name v) → vars.find? name = none) ∧
    (∀ v, defaultVariable v = none ↔ ∃ key, Yaml.KeyIn key v ∧ Yaml.Unkeyable key) ∧
    vars.Sorted ∧
    ∀ names : List String, (∀ name, name ∈ names ↔ name ∈ input.names) →
      names.foldl (seed input) [] = vars := by
  intro input vars
  have hfind : ∀ name, vars.find? name = (input.defaultFor? name).bind defaultVariable :=
    find?_initialVariables input
  refine ⟨?_, ?_, fun v => defaultVariable_eq_none_iff, ?_, fun names => foldl_seed_eq⟩
  · intro name v hv
    rw [hfind, InputSpec.defaultFor?_eq_some_iff.mpr hv, Option.bind_some]
  · intro name hnone
    have hdefault : input.defaultFor? name = none :=
      Option.eq_none_iff_forall_ne_some.mpr fun v hv =>
        hnone v (InputSpec.defaultFor?_eq_some_iff.mp hv)
    rw [hfind, hdefault, Option.bind_none]
  · exact sorted_foldl_seed input.names .nil

/-- The declaration of a name with a default and nothing else. -/
def declaring (v : Yaml) : ParameterSpec := { ParameterSpec.empty with default := some v }

/-- A null and a mapping with a null for a key are listed for names that have declared defaults. -/
def seeding : Workflow :=
  .ofHeader "Do it.\n" none { Header.empty with
    input :=
      { default := [("depth", .null), ("extra", .map [(.null, .text "x")])]
        schema := some [("depth", declaring (.number (.int 2))), ("env", declaring (.text "dev")),
          ("extra", declaring (.text "x"))] } }

/-- The declared defaults do not step in for the listed ones. -/
theorem fresh_variables_of_seeding :
    let vars := (ofWorkflow "r" seeding ⟨0, 0⟩).vars
    vars.find? "depth" = some (.structured .null) ∧ vars.find? "extra" = none ∧
      vars.find? "env" = some (.text "dev") ∧ vars.find? "other" = none := by
  obtain ⟨hchosen, hothers, hkeys, -⟩ := fresh_variables "r" seeding ⟨0, 0⟩
  have hunkeyable : defaultVariable (.map [(.null, .text "x")]) = none :=
    (hkeys _).mpr ⟨.null, .here List.mem_cons_self, .null⟩
  have hnowhere : ∀ v, ¬ seeding.header.input.Chooses "other" v := by
    intro v hv
    exact absurd hv.mem_names (by decide)
  refine ⟨?_, ?_, ?_, hothers _ hnowhere⟩
  · exact hchosen "depth" .null (.listed rfl)
  · exact (hchosen "extra" _ (.listed rfl)).trans hunkeyable
  · exact hchosen "env" (.text "dev") (.declared (by decide) rfl rfl)

end RunContext

end Runbook
