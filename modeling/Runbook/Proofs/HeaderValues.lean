import Runbook.Proofs.CaptureRestore
import Runbook.Proofs.WorkflowReading
import Runbook.Proofs.SortedTables

/-!
The values that a header can hold. Integers that need more than 64 bits are refused when a text is
read, so that the variables of a fresh run are values that the runtime has.
-/

namespace Runbook

theorem bind_eq_ok {ε α β : Type} {x : Except ε α} {f : α → Except ε β} {b : β} :
    x.bind f = .ok b ↔ ∃ a, x = .ok a ∧ f a = .ok b := by
  cases x with
  | error e => simp [Except.bind]
  | ok a => simp [Except.bind]

theorem toOption_map_eq_some {ε α β : Type} {x : Except ε α} {f : α → β} {b : β} :
    x.toOption.map f = some b ↔ ∃ a, x = .ok a ∧ f a = b := by
  cases x with
  | error e => simp [Except.toOption]
  | ok a => simp [Except.toOption]

theorem Table.forall_insert {α : Type} {P : α → Prop} {t : Table α} (h : ∀ entry ∈ t, P entry.2)
    {key : String} {value : α} (hvalue : P value) : ∀ entry ∈ t.insert key value, P entry.2 := by
  intro entry hentry
  rcases Table.mem_insert hentry with rfl | hold
  · exact hvalue
  · exact h entry hold

namespace Yaml

mutual

/-- The integers in a value fit into 64 bits; the keys of mappings do not count. -/
def Fits : Yaml → Prop
  | .number (.int n) => isInt64 n ∨ isNat64 n
  | .list items => FitsItems items
  | .map entries => FitsEntries entries
  | .tagged _ v => Fits v
  | _ => True

def FitsItems : List Yaml → Prop
  | [] => True
  | v :: rest => Fits v ∧ FitsItems rest

def FitsEntries : List (Yaml × Yaml) → Prop
  | [] => True
  | (_, v) :: rest => Fits v ∧ FitsEntries rest

end

theorem fitsEntries_iff {entries : List (Yaml × Yaml)} :
    FitsEntries entries ↔ ∀ entry ∈ entries, entry.2.Fits := by
  induction entries with
  | nil => simp [FitsEntries]
  | cons entry rest ih => simp [FitsEntries, ih]

theorem fits_of_not_wide {n : Int} (h : isWide n = false) : (Yaml.number (.int n)).Fits := by
  rw [isWide, Bool.not_eq_false', Bool.or_eq_true] at h
  exact h

theorem fits_plain {s : String} {v : Yaml} (h : plain? s = some v) : v.Fits := by
  unfold plain? at h
  split at h
  · exact Option.some.inj h ▸ trivial
  split at h
  · exact Option.some.inj h ▸ trivial
  split at h
  · next n _ =>
    cases hwide : isWide n with
    | false =>
      rw [hwide] at h
      exact Option.some.inj h ▸ fits_of_not_wide hwide
    | true =>
      rw [hwide] at h
      simp only [Bool.not_true, Bool.false_eq_true, if_false] at h
      split at h
      · simp at h
      split at h
      · exact Option.some.inj h ▸ trivial
      · exact Option.some.inj h ▸ trivial
  · split at h
    · exact Option.some.inj h ▸ trivial
    · exact Option.some.inj h ▸ trivial

theorem fits_core {tag s : String} {v : Yaml} (h : core? tag s = some (some v)) : v.Fits := by
  unfold core? at h
  split at h
  · obtain ⟨b, -, rfl⟩ := Option.map_eq_some_iff.mp (Option.some.inj h)
    trivial
  split at h
  · obtain ⟨n, -, hn⟩ := Option.bind_eq_some_iff.mp (Option.some.inj h)
    split at hn
    · simp at hn
    · next hwide => exact Option.some.inj hn ▸ fits_of_not_wide (Bool.not_eq_true _ ▸ hwide)
  split at h
  · obtain ⟨x, -, rfl⟩ := Option.map_eq_some_iff.mp (Option.some.inj h)
    trivial
  split at h
  · split at h
    · exact Option.some.inj (Option.some.inj h) ▸ trivial
    · simp at h
  · simp at h

namespace Document

theorem fits_scalar {own : Bool} {tag : Option String} {content : String} {style : Style}
    {mark : Mark} {v : Yaml} (h : scalar own tag content style mark = .ok v) : v.Fits := by
  have huntagged : ∀ w, (if style = .plain then plain? content else some (.text content)) = some w →
      w.Fits := by
    intro w hw
    split at hw
    · exact fits_plain hw
    · exact Option.some.inj hw ▸ trivial
  unfold scalar at h
  dsimp only at h
  split at h
  · next w hvalue =>
    obtain rfl := Except.ok.inj h
    split at hvalue
    · exact huntagged _ hvalue
    · split at hvalue
      · exact huntagged _ hvalue
      · cases hcore : core? _ content with
        | none =>
          rw [hcore] at hvalue
          exact Option.some.inj hvalue ▸ trivial
        | some found =>
          rw [hcore] at hvalue
          exact fits_core (hcore.trans (congrArg some hvalue))
  · simp at h

/-- What is read within so much fuel fits. -/
structure Fitting (d : Document) (fuel : Nat) : Prop where
  value : ∀ levels own c v after, d.value fuel levels own c = .ok (v, after) → v.Fits
  items : ∀ levels c vs after, d.items fuel levels c = .ok (vs, after) → FitsItems vs
  entries : ∀ levels start seen c vs after, FitsEntries seen →
    d.entries fuel levels start seen c = .ok (vs, after) → FitsEntries vs

variable {d : Document} {fuel : Nat}

theorem fits_value (h : d.Fitting fuel) (levels : Nat) (own : Bool) (c : Cursor) (v : Yaml)
    (after : Cursor) (hv : d.value (fuel + 1) levels own c = .ok (v, after)) : v.Fits := by
  rw [value] at hv
  obtain ⟨⟨piece, mark⟩, -, hv⟩ := bind_eq_ok.mp hv
  dsimp only at hv
  split at hv
  · obtain ⟨⟨w, inner⟩, hw, hv⟩ := bind_eq_ok.mp hv
    cases hv
    exact h.value levels true c w inner hw
  · split at hv
    · cases hv
      trivial
    · cases hv
      trivial
    · obtain ⟨place, -, hv⟩ := bind_eq_ok.mp hv
      obtain ⟨⟨w, inner⟩, hw, hv⟩ := bind_eq_ok.mp hv
      cases hv
      exact h.value _ _ _ _ _ hw
    · obtain ⟨w, hw, hv⟩ := bind_eq_ok.mp hv
      cases hv
      exact fits_scalar hw
    · split at hv
      · simp at hv
      · obtain ⟨⟨vs, inner⟩, hvs, hv⟩ := bind_eq_ok.mp hv
        cases hv
        exact h.items _ _ _ _ hvs
    · split at hv
      · simp at hv
      · obtain ⟨⟨vs, inner⟩, hvs, hv⟩ := bind_eq_ok.mp hv
        cases hv
        exact h.entries (levels - 1) mark [] c.advance vs inner trivial hvs

theorem fits_items (h : d.Fitting fuel) (levels : Nat) (c : Cursor) (vs : List Yaml)
    (after : Cursor) (hvs : d.items (fuel + 1) levels c = .ok (vs, after)) : FitsItems vs := by
  rw [items] at hvs
  obtain ⟨⟨piece, mark⟩, -, hvs⟩ := bind_eq_ok.mp hvs
  dsimp only at hvs
  split at hvs
  · cases hvs
    trivial
  · obtain ⟨⟨v, inner⟩, hv, hvs⟩ := bind_eq_ok.mp hvs
    obtain ⟨⟨rest, last⟩, hrest, hvs⟩ := bind_eq_ok.mp hvs
    cases hvs
    exact ⟨h.value _ _ _ _ _ hv, h.items _ _ _ _ hrest⟩

theorem fits_entries (h : d.Fitting fuel) (levels : Nat) (start : Mark)
    (seen : List (Yaml × Yaml)) (c : Cursor) (vs : List (Yaml × Yaml)) (after : Cursor)
    (hseen : FitsEntries seen)
    (hvs : d.entries (fuel + 1) levels start seen c = .ok (vs, after)) : FitsEntries vs := by
  rw [entries] at hvs
  obtain ⟨⟨piece, mark⟩, -, hvs⟩ := bind_eq_ok.mp hvs
  dsimp only at hvs
  split at hvs
  · cases hvs
    rw [fitsEntries_iff] at hseen ⊢
    intro entry hentry
    exact hseen entry (List.mem_reverse.mp hentry)
  · obtain ⟨⟨key, inner⟩, -, hvs⟩ := bind_eq_ok.mp hvs
    dsimp only at hvs
    split at hvs
    · simp at hvs
    · obtain ⟨⟨v, last⟩, hv, hvs⟩ := bind_eq_ok.mp hvs
      exact h.entries levels start ((key, v) :: seen) last vs after
        ⟨h.value levels false inner v last hv, hseen⟩ hvs

/-- By induction on the fuel, which every reading of a part passes on with one less. -/
theorem fitting (d : Document) (fuel : Nat) : d.Fitting fuel := by
  induction fuel with
  | zero => exact ⟨by simp [value], by simp [items], by simp [entries]⟩
  | succ fuel ih => exact ⟨fits_value ih, fits_items ih, fits_entries ih⟩

end Document

theorem fits_read {source : String} {v : Yaml} (h : read source = .ok v) : v.Fits := by
  unfold read at h
  dsimp only at h
  obtain ⟨⟨w, c⟩, hw, h⟩ := bind_eq_ok.mp h
  have hfits := (Document.fitting _ _).value _ _ _ _ _ hw
  dsimp only at h
  split at h
  · simp at h
  · split at h
    · simp at h
    · exact Except.ok.inj h ▸ hfits

theorem fits_untag {v : Yaml} (h : v.Fits) : v.untag.Fits := by
  induction v using Yaml.untag.induct with
  | case1 tag v ih => exact ih h
  | case2 v hv => rwa [untag.eq_2 v hv]

theorem canonical_float (x : Binary64) : (Json.float x).Canonical := by
  unfold Json.float
  split
  case isTrue h => exact h
  case isFalse => trivial

theorem sorted_members {entries : List (Yaml × Yaml)} {seen t : Table Json}
    (h : toMembers? seen entries = some t) (hseen : seen.Sorted) : t.Sorted := by
  induction entries generalizing seen with
  | nil => exact Option.some.inj h ▸ hseen
  | cons entry rest ih =>
    obtain ⟨k, v⟩ := entry
    rw [toMembers?] at h
    obtain ⟨key, -, h⟩ := Option.bind_eq_some_iff.mp h
    obtain ⟨value, -, h⟩ := Option.bind_eq_some_iff.mp h
    exact ih h (hseen.insert key value)

mutual

/-- The JSON form of a value is one that a text can have. -/
theorem canonical_toJson : ∀ (v : Yaml) {j : Json}, v.Fits → toJson? v = some j → j.Canonical
  | .null, j, _, h => by
    obtain rfl := Option.some.inj h
    trivial
  | .bool b, j, _, h => by
    obtain rfl := Option.some.inj h
    trivial
  | .number (.int n), j, hv, h => by
    obtain rfl := Option.some.inj h
    exact hv
  | .number (.float x), j, _, h => by
    obtain rfl := Option.some.inj h
    exact canonical_float x
  | .text s, j, _, h => by
    obtain rfl := Option.some.inj h
    trivial
  | .list items, j, hv, h => by
    obtain ⟨js, hjs, rfl⟩ := Option.map_eq_some_iff.mp h
    exact canonical_items items hv hjs
  | .map entries, j, hv, h => by
    obtain ⟨t, ht, rfl⟩ := Option.map_eq_some_iff.mp h
    have hempty : Json.CanonicalMembers [] := trivial
    exact ⟨sorted_members ht .nil, canonical_members entries hv hempty ht⟩
  | .tagged tag v, j, hv, h => by
    obtain ⟨k, hk, rfl⟩ := Option.map_eq_some_iff.mp h
    exact ⟨List.pairwise_singleton _ _, canonical_toJson v hv hk, trivial⟩

theorem canonical_items : ∀ (items : List Yaml) {js : List Json}, FitsItems items →
    toItems? items = some js → Json.CanonicalItems js
  | [], js, _, h => by
    obtain rfl := Option.some.inj h
    trivial
  | v :: rest, js, hv, h => by
    rw [toItems?] at h
    obtain ⟨j, hj, h⟩ := Option.bind_eq_some_iff.mp h
    obtain ⟨more, hmore, h⟩ := Option.bind_eq_some_iff.mp h
    obtain rfl := Option.some.inj h
    exact ⟨canonical_toJson v hv.1 hj, canonical_items rest hv.2 hmore⟩

theorem canonical_members : ∀ (entries : List (Yaml × Yaml)) {seen t : Table Json},
    FitsEntries entries → Json.CanonicalMembers seen → toMembers? seen entries = some t →
      Json.CanonicalMembers t
  | [], seen, t, _, hseen, h => by
    obtain rfl := Option.some.inj h
    exact hseen
  | (k, v) :: rest, seen, t, hv, hseen, h => by
    rw [toMembers?] at h
    obtain ⟨key, -, h⟩ := Option.bind_eq_some_iff.mp h
    obtain ⟨value, hvalue, h⟩ := Option.bind_eq_some_iff.mp h
    refine canonical_members rest hv.2 ?_ h
    rw [Json.canonicalMembers_iff] at hseen ⊢
    exact Table.forall_insert hseen (canonical_toJson v hv.1 hvalue)

end

section Reading

variable {α β : Type} {P : α → Prop} {v : Yaml}

theorem forall_tableEntries {read : Reading α} (hread : ∀ v a, v.Fits → read v = .ok a → P a)
    {entries : List (Yaml × Yaml)} {t t' : Table α} (hentries : FitsEntries entries)
    (ht : ∀ entry ∈ t, P entry.2) (h : tableEntries read t entries = .ok t') :
    ∀ entry ∈ t', P entry.2 := by
  induction entries generalizing t with
  | nil => exact Except.ok.inj h ▸ ht
  | cons entry rest ih =>
    obtain ⟨k, v⟩ := entry
    obtain ⟨key, -, h⟩ := bind_eq_ok.mp h
    obtain ⟨a, ha, h⟩ := bind_eq_ok.mp h
    exact ih hentries.2 (Table.forall_insert ht (hread v a hentries.1 ha)) h

theorem forall_asTable {read : Reading α} (hread : ∀ v a, v.Fits → read v = .ok a → P a)
    (hv : v.Fits) {t : Table α} (h : asTable read v = .ok t) : ∀ entry ∈ t, P entry.2 := by
  have huntag := fits_untag hv
  unfold asTable at h
  split at h
  · next entries heq =>
    rw [heq] at huntag
    exact forall_tableEntries hread huntag (by simp) h
  · obtain rfl := Except.ok.inj h
    simp
  · cases h

theorem forall_asOption {read : Reading α} (hread : ∀ v a, v.Fits → read v = .ok a → P a)
    (hv : v.Fits) {o : Option α} (h : asOption read v = .ok o) : ∀ a ∈ o, P a := by
  unfold asOption at h
  split at h
  · obtain rfl := Except.ok.inj h
    simp
  · obtain ⟨a, ha, h⟩ := bind_eq_ok.mp h
    obtain rfl := Except.ok.inj h
    intro b hb
    obtain rfl := Option.some.inj hb
    exact hread v a hv ha

/-- A field keeps what holds of a record, whatever value that fits goes into it. -/
def RecordField.Keeps (P : α → Prop) (field : RecordField α) : Prop :=
  ∀ v r r', v.Fits → P r → field.set v r = .ok r' → P r'

theorem RecordField.keeps_of {names : List String} {read : Reading β} {store : α → β → α}
    (h : ∀ v b r, v.Fits → read v = .ok b → P r → P (store r b)) :
    (RecordField.of names read store).Keeps P := by
  intro v r r' hv hr hset
  obtain ⟨b, hb, hset⟩ := bind_eq_ok.mp hset
  exact Except.ok.inj hset ▸ h v b r hv hb hr

theorem keeps_recordEntries {fields : List (RecordField α)} (hfields : ∀ f ∈ fields, f.Keeps P)
    {entries : List (Yaml × Yaml)} {seen : List String} {r r' : α} (hentries : FitsEntries entries)
    (hr : P r) (h : recordEntries fields skipOthers seen r entries = .ok r') : P r' := by
  induction entries generalizing seen r with
  | nil => exact Except.ok.inj h ▸ hr
  | cons entry rest ih =>
    obtain ⟨k, v⟩ := entry
    obtain ⟨name, -, h⟩ := bind_eq_ok.mp h
    split at h
    · obtain ⟨same, hsame, h⟩ := bind_eq_ok.mp h
      exact ih hentries.2 (Except.ok.inj hsame ▸ hr) h
    · next field hfield =>
      split at h
      · cases h
      · obtain ⟨next, hnext, h⟩ := bind_eq_ok.mp h
        have hkeeps := hfields field (List.mem_of_find?_eq_some hfield)
        exact ih hentries.2 (hkeeps v r next hentries.1 hr hnext) h

theorem keeps_asRecord {fields : List (RecordField α)} (hfields : ∀ f ∈ fields, f.Keeps P)
    {start r : α} (hv : v.Fits) (hstart : P start) (h : asRecord fields start v = .ok r) : P r := by
  have huntag := fits_untag hv
  unfold asRecord asRecordWith at h
  split at h
  · next entries heq =>
    rw [heq] at huntag
    exact keeps_recordEntries hfields huntag hstart h
  · exact Except.ok.inj h ▸ hstart
  · cases h

end Reading

end Yaml

open Yaml (RecordField)

/-- The default of a parameter fits. -/
def ParameterSpec.Fits (p : ParameterSpec) : Prop := ∀ v ∈ p.default, v.Fits

theorem ParameterSpec.fits_read {v : Yaml} {p : ParameterSpec} (hv : v.Fits)
    (h : ParameterSpec.read v = .ok p) : p.Fits := by
  refine Yaml.keeps_asRecord ?_ hv (by simp [Fits, empty]) h
  simp only [fields, List.forall_mem_cons]
  refine ⟨RecordField.keeps_of fun _ _ _ _ _ hp => hp, RecordField.keeps_of fun _ _ _ _ _ hp => hp,
    RecordField.keeps_of fun w o p hw ho _ => ?_, RecordField.keeps_of fun _ _ _ _ _ hp => hp,
    RecordField.keeps_of fun _ _ _ _ _ hp => hp, by simp⟩
  exact Yaml.forall_asOption (fun v a hv ha => Except.ok.inj ha ▸ hv) hw ho

/-- All values that the inputs start with fit. -/
structure InputSpec.Fits (i : InputSpec) : Prop where
  default : ∀ entry ∈ i.default, entry.2.Fits
  schema : ∀ t ∈ i.schema, ∀ entry ∈ t, entry.2.Fits

theorem InputSpec.fits_empty : InputSpec.empty.Fits := ⟨by simp [empty], by simp [empty]⟩

theorem InputSpec.fits_read {v : Yaml} {i : InputSpec} (hv : v.Fits)
    (h : InputSpec.read v = .ok i) : i.Fits := by
  refine Yaml.keeps_asRecord ?_ hv fits_empty h
  simp only [fields, List.forall_mem_cons]
  refine ⟨RecordField.keeps_of fun w t i hw ht hi => ⟨?_, hi.schema⟩,
    RecordField.keeps_of fun w o i hw ho hi => ⟨hi.default, ?_⟩, by simp⟩
  · exact Yaml.forall_asTable (fun v a hv ha => Except.ok.inj ha ▸ hv) hw ht
  · exact Yaml.forall_asOption
      (fun v t hv ht => Yaml.forall_asTable (fun v p => ParameterSpec.fits_read) hv ht) hw ho

theorem InputSpec.fits_defaultFor {i : InputSpec} (h : i.Fits) {name : String} {v : Yaml}
    (hv : i.defaultFor? name = some v) : v.Fits := by
  unfold defaultFor? at hv
  split at hv
  · next w hw =>
    obtain rfl := Option.some.inj hv
    exact h.default _ (Table.mem_of_find? hw)
  · obtain ⟨p, hp, hv⟩ := Option.bind_eq_some_iff.mp hv
    obtain ⟨t, ht, hp⟩ := Option.bind_eq_some_iff.mp hp
    exact h.schema t ht _ (Table.mem_of_find? hp) v hv

namespace Header

theorem fits_collect {line : Nat} {entries : List (Yaml × Yaml)} {t t' : Table Yaml}
    (hentries : Yaml.FitsEntries entries) (ht : ∀ entry ∈ t, entry.2.Fits)
    (h : collect line t entries = .ok t') : ∀ entry ∈ t', entry.2.Fits := by
  induction entries generalizing t with
  | nil => exact Except.ok.inj h ▸ ht
  | cons entry rest ih =>
    obtain ⟨k, v⟩ := entry
    rw [collect] at h
    split at h
    · exact ih hentries.2 (Table.forall_insert ht hentries.1) h
    · cases h

theorem fits_readFields {text : String} {line : Nat} {t : Table Yaml}
    (h : readFields text line = .ok t) : ∀ entry ∈ t, entry.2.Fits := by
  unfold readFields at h
  split at h
  · obtain rfl := Except.ok.inj h
    simp
  split at h
  · cases h
  · obtain rfl := Except.ok.inj h
    simp
  · next entries hread => exact fits_collect (Yaml.fits_read hread) (by simp) h
  · cases h

theorem mem_typed {α : Type} {fields : Table Yaml} {key target : String} {read : Yaml.Reading α}
    {o : Option α} (h : typed fields key target read = .ok o) {a : α} (ha : o = some a) :
    ∃ v, (key, v) ∈ fields ∧ read v = .ok a := by
  subst ha
  unfold typed at h
  split at h
  · cases h
  · cases h
  · next v _ hv =>
    refine ⟨v, Table.mem_of_find? hv, ?_⟩
    split at h
    · next b hb =>
      obtain rfl := Option.some.inj (Except.ok.inj h)
      exact hb
    · cases h

theorem fits_ofFields {fields : Table Yaml} (hfields : ∀ entry ∈ fields, entry.2.Fits)
    {header : Header} (h : ofFields fields = .ok header) : header.input.Fits := by
  obtain ⟨name, -, h⟩ := bind_eq_ok.mp h
  obtain ⟨model, -, h⟩ := bind_eq_ok.mp h
  obtain ⟨tools, -, h⟩ := bind_eq_ok.mp h
  obtain ⟨config, -, h⟩ := bind_eq_ok.mp h
  obtain ⟨input, hinput, h⟩ := bind_eq_ok.mp h
  obtain ⟨output, -, h⟩ := bind_eq_ok.mp h
  obtain ⟨metadata, -, h⟩ := bind_eq_ok.mp h
  obtain ⟨mcp, -, h⟩ := bind_eq_ok.mp h
  obtain ⟨subWorkflows, -, h⟩ := bind_eq_ok.mp h
  obtain ⟨resume, -, h⟩ := bind_eq_ok.mp h
  obtain ⟨errorHandling, -, h⟩ := bind_eq_ok.mp h
  obtain rfl := Except.ok.inj h
  cases input with
  | none => exact InputSpec.fits_empty
  | some i =>
    obtain ⟨v, hv, hread⟩ := mem_typed hinput rfl
    exact InputSpec.fits_read (hfields _ hv) hread

end Header

theorem Workflow.fits_input {text : String} {path : Option String} {w : Workflow}
    (h : Workflow.read text path = .ok w) : w.header.input.Fits := by
  obtain ⟨-, header, hheader, rfl⟩ := Workflow.read_eq_ok_iff.mp h
  unfold readHeader at hheader
  split at hheader
  · obtain ⟨fields, hfields, hheader⟩ := bind_eq_ok.mp hheader
    exact Header.fits_ofFields (Header.fits_readFields hfields) hheader
  · exact Except.ok.inj hheader ▸ InputSpec.fits_empty

namespace RunContext

/-- What a fresh run starts with: values of the runtime in a sorted table. -/
structure Fresh (vars : Table Variable) : Prop where
  sorted : vars.Sorted
  native : ∀ entry ∈ vars, entry.2.Native

theorem native_default {v : Yaml} (hv : v.Fits) {x : Variable}
    (h : defaultVariable v = some x) : x.Native := by
  obtain ⟨j, hj, rfl⟩ := Option.map_eq_some_iff.mp h
  exact Variable.native_ofJson (Yaml.canonical_toJson v hv hj)

theorem fresh_initialVariables {input : InputSpec} (h : input.Fits) :
    Fresh (initialVariables input) := by
  unfold initialVariables
  dsimp only
  generalize input.default.keys ++ (input.schema.getD []).keys = names
  have hstart : Fresh [] := ⟨.nil, by simp⟩
  generalize ([] : Table Variable) = vars at hstart
  induction names generalizing vars with
  | nil => exact hstart
  | cons name rest ih =>
    rw [List.foldl_cons]
    refine ih _ ?_
    split
    · exact hstart
    split
    · next x hx =>
      obtain ⟨v, hv, hx⟩ := Option.bind_eq_some_iff.mp hx
      exact ⟨hstart.sorted.insert name x, Table.forall_insert hstart.native
        (native_default (InputSpec.fits_defaultFor h hv) hx)⟩
    · exact hstart

end RunContext

end Runbook
