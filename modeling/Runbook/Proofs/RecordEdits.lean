import Runbook.Proofs.SnapshotText

/-!
Ways to write the text of a snapshot differently. The members of a record may stand in any order,
there may be others among them, and what holds its default value may be left out; none of this
changes what is read.
-/

namespace Runbook

namespace Json.Members

variable {names : List String} {members others : List (Option String × Source)}

/-- The members of an object that are fields. -/
def fieldsOf (names : List String) (members : List (Option String × Source)) :
    List (String × Source) :=
  members.filterMap fun member => member.1.bind fun key =>
    if names.contains key then some (key, member.2) else none

theorem fieldsOf_cons_of_known {key : String} (h : names.contains key = true) (s : Source) :
    fieldsOf names ((some key, s) :: members) = (key, s) :: fieldsOf names members := by
  simp only [fieldsOf, List.filterMap_cons, Option.bind_some, h, if_true]

theorem fieldsOf_cons_of_unknown {key : String} (h : names.contains key = false) (s : Source) :
    fieldsOf names ((some key, s) :: members) = fieldsOf names members := by
  simp only [fieldsOf, List.filterMap_cons, Option.bind_some, h, Bool.false_eq_true, if_false]

/-- The members of an object are taken up as fields when all have names and no field repeats. -/
theorem known?_eq_some_iff {seen fields : List (String × Source)}
    (hseen : (seen.map Prod.fst).Nodup) :
    known? names seen members = some fields ↔ (∀ member ∈ members, member.1.isSome) ∧
      (((fieldsOf names members).reverse ++ seen).map Prod.fst).Nodup ∧
      fields = (fieldsOf names members).reverse ++ seen := by
  induction members generalizing seen with
  | nil =>
    rw [known?, Option.some.injEq, eq_comm]
    exact ⟨fun h => ⟨by simp, hseen, h⟩, fun h => h.2.2⟩
  | cons member rest ih =>
    obtain ⟨key, s⟩ := member
    cases key with
    | none => simp [known?]
    | some key =>
      cases hknown : names.contains key with
      | false =>
        simp only [known?, Option.bind_eq_bind, Option.bind_some, hknown, Bool.false_eq_true,
          if_false, fieldsOf_cons_of_unknown hknown, ih hseen, List.forall_mem_cons,
          Option.isSome_some, true_and]
      | true =>
        have hshift : ((key, s) :: fieldsOf names rest).reverse ++ seen =
            (fieldsOf names rest).reverse ++ (key, s) :: seen := by simp
        simp only [known?, Option.bind_eq_bind, Option.bind_some, hknown, if_true,
          fieldsOf_cons_of_known hknown, hshift, List.forall_mem_cons, Option.isSome_some, true_and]
        by_cases hfresh : key ∈ seen.map Prod.fst
        · obtain ⟨⟨name, value⟩, hmem, rfl⟩ := List.mem_map.mp hfresh
          rw [lookup_eq_some hseen hmem, List.map_append]
          simp only [Option.isSome_some, if_true, reduceCtorEq, false_iff]
          rintro ⟨-, hnodup, -⟩
          have htail := (List.nodup_append.mp hnodup).2.1
          exact (List.nodup_cons.mp htail).1 hfresh
        · rw [lookup_eq_none hfresh]
          exact ih (List.nodup_cons.mpr ⟨hfresh, hseen⟩)

/-- When the members of an object are read as a record. -/
structure Readable (names : List String) (members : List (Option String × Source)) : Prop where
  named : ∀ member ∈ members, member.1.isSome
  single : ((fieldsOf names members).map Prod.fst).Nodup

theorem read_object_iff {levels : Nat} {m : Members} :
    Members.read names levels (.object members) = some m ↔ Readable names members ∧
      ∃ inner, levels = inner + 1 ∧ m = ⟨inner, (fieldsOf names members).reverse⟩ := by
  cases levels with
  | zero => simp [Members.read, inside]
  | succ inner =>
    have hknown := fun fields =>
      @known?_eq_some_iff names members [] fields List.nodup_nil
    simp only [List.append_nil, List.map_reverse, List.nodup_reverse] at hknown
    simp only [Members.read, inside, Option.map_eq_some_iff, hknown]
    constructor
    · rintro ⟨fields, ⟨hnamed, hsingle, rfl⟩, rfl⟩
      exact ⟨⟨hnamed, hsingle⟩, inner, rfl, rfl⟩
    · rintro ⟨⟨hnamed, hsingle⟩, other, hlevels, rfl⟩
      obtain rfl := Nat.succ.inj hlevels
      exact ⟨_, ⟨hnamed, hsingle, rfl⟩, rfl⟩

theorem mem_fieldsOf {key : String} {s : Source} :
    (key, s) ∈ fieldsOf names members ↔ names.contains key = true ∧ (some key, s) ∈ members := by
  simp only [fieldsOf, List.mem_filterMap, Option.bind_eq_some_iff, Option.ite_none_right_eq_some,
    Option.some.injEq, Prod.mk.injEq]
  constructor
  · rintro ⟨⟨name, value⟩, hmem, found, hname, hknown, rfl, rfl⟩
    obtain rfl : name = some found := hname
    exact ⟨hknown, hmem⟩
  · rintro ⟨hknown, hmem⟩
    exact ⟨_, hmem, key, rfl, hknown, rfl, rfl⟩

/-- A field is found under its name wherever it stands. -/
theorem lookup_fieldsOf (h : Readable names members) {key : String} {s : Source} :
    (fieldsOf names members).reverse.lookup key = some s ↔
      names.contains key = true ∧ (some key, s) ∈ members := by
  have hnodup : ((fieldsOf names members).reverse.map Prod.fst).Nodup := by
    rw [List.map_reverse, List.nodup_reverse]
    exact h.single
  rw [← mem_fieldsOf, ← List.mem_reverse]
  constructor
  · intro hlookup
    obtain ⟨before, after, hsplit, -⟩ := List.lookup_eq_some_iff.mp hlookup
    rw [hsplit]
    simp
  · intro hmem
    exact lookup_eq_some hnodup hmem

/-- The fields of an object are those of another one but for the field `key`. -/
def SameBut (names : List String) (key : String)
    (members others : List (Option String × Source)) : Prop :=
  ∀ name, name ≠ key → (fieldsOf names others).reverse.lookup name =
    (fieldsOf names members).reverse.lookup name

theorem lookup_eq_of_mem_iff (h : Readable names members) (hothers : Readable names others)
    {name : String} (hmem : ∀ s, (some name, s) ∈ others ↔ (some name, s) ∈ members) :
    (fieldsOf names others).reverse.lookup name =
      (fieldsOf names members).reverse.lookup name := by
  refine Option.ext fun s => ?_
  rw [lookup_fieldsOf h, lookup_fieldsOf hothers, hmem]

theorem Readable.perm (h : Readable names members) (hperm : members.Perm others) :
    Readable names others where
  named member hmember := h.named member (hperm.mem_iff.mpr hmember)
  single := ((hperm.filterMap _).map _).nodup_iff.mp h.single

theorem Readable.cons_unknown (h : Readable names members) {key : String}
    (hkey : names.contains key = false) (s : Source) :
    Readable names ((some key, s) :: members) where
  named := List.forall_mem_cons.mpr ⟨rfl, h.named⟩
  single := by
    rw [fieldsOf_cons_of_unknown hkey]
    exact h.single

variable {key : String} {s t : Source}

theorem Readable.tail (h : Readable names ((some key, s) :: members)) : Readable names members where
  named := (List.forall_mem_cons.mp h.named).2
  single := by
    have hsingle := h.single
    cases hkey : names.contains key with
    | false =>
      rw [fieldsOf_cons_of_unknown hkey] at hsingle
      exact hsingle
    | true =>
      rw [fieldsOf_cons_of_known hkey] at hsingle
      exact (List.nodup_cons.mp hsingle).2

theorem Readable.replace (h : Readable names ((some key, s) :: members)) (t : Source) :
    Readable names ((some key, t) :: members) where
  named := List.forall_mem_cons.mpr ⟨rfl, (List.forall_mem_cons.mp h.named).2⟩
  single := by
    have hsingle := h.single
    cases hkey : names.contains key with
    | false =>
      rw [fieldsOf_cons_of_unknown hkey] at hsingle ⊢
      exact hsingle
    | true =>
      rw [fieldsOf_cons_of_known hkey] at hsingle ⊢
      exact hsingle

theorem sameBut_tail (h : Readable names ((some key, s) :: members)) :
    SameBut names key ((some key, s) :: members) members := by
  intro name hne
  refine lookup_eq_of_mem_iff h h.tail fun v => ?_
  simp [hne]

theorem sameBut_replace (h : Readable names ((some key, s) :: members)) (t : Source) :
    SameBut names key ((some key, s) :: members) ((some key, t) :: members) := by
  intro name hne
  refine lookup_eq_of_mem_iff h (h.replace t) fun v => ?_
  simp [hne]

theorem lookup_head (h : Readable names ((some key, s) :: members))
    (hkey : names.contains key = true) :
    (fieldsOf names ((some key, s) :: members)).reverse.lookup key = some s :=
  (lookup_fieldsOf h).mpr ⟨hkey, List.mem_cons_self⟩

/-- A field that was there once is gone with its member. -/
theorem lookup_tail (h : Readable names ((some key, s) :: members))
    (hkey : names.contains key = true) :
    (fieldsOf names members).reverse.lookup key = none := by
  refine lookup_eq_none ?_
  have hsingle := h.single
  rw [fieldsOf_cons_of_known hkey] at hsingle
  rw [List.map_reverse, List.mem_reverse]
  exact (List.nodup_cons.mp hsingle).1

end Json.Members

open Json (Reading Members)
open Json.Members (fieldsOf Readable read_object_iff)

/-- A field of a record: its name, how it is read, and the value it has where it is left out. -/
structure Field where
  Value : Type
  name : String
  read : Reading Value
  default : Option Value

namespace Field

def required {α : Type} (name : String) (read : Reading α) : Field := ⟨α, name, read, none⟩

def optional {α : Type} (name : String) (default : α) (read : Reading α) : Field :=
  ⟨α, name, read, some default⟩

def value (f : Field) (m : Members) : Option f.Value :=
  match f.default with
  | none => m.required f.name f.read
  | some default => m.withDefault f.name default f.read

/-- What is read of the field in one record is read of it in the other one. -/
def Keeps (f : Field) (m n : Members) : Prop := ∀ a, f.value m = some a → f.value n = some a

variable {f : Field} {m n : Members}

theorem keeps_of_lookup (hlevels : n.levels = m.levels)
    (hlookup : n.fields.lookup f.name = m.fields.lookup f.name) : f.Keeps m n := by
  intro a ha
  unfold value at ha ⊢
  cases hdefault : f.default <;>
    simpa only [hdefault, Members.required, Members.withDefault, hlevels, hlookup] using ha

theorem keeps_of_replaced {s t : Source} (hlevels : n.levels = m.levels)
    (hm : m.fields.lookup f.name = some s) (hn : n.fields.lookup f.name = some t)
    (h : ∀ levels a, f.read levels s = some a → f.read levels t = some a) : f.Keeps m n := by
  intro a ha
  unfold value at ha ⊢
  cases hdefault : f.default <;>
    simp only [hdefault, Members.required, Members.withDefault, hlevels, hm, hn,
      Option.bind_eq_bind, Option.bind_some] at ha ⊢ <;>
    exact h _ _ ha

/-- The source is read as the default of the field, if at all. -/
def DefaultsAt (f : Field) (s : Source) : Prop :=
  ∃ default, f.default = some default ∧ ∀ levels a, f.read levels s = some a → a = default

theorem optional_defaultsAt {α : Type} {name : String} {default : α} {read : Reading α} {s : Source}
    (h : ∀ levels a, read levels s = some a → a = default) :
    (optional name default read).DefaultsAt s := ⟨default, rfl, h⟩

theorem keeps_of_dropped {s : Source} (hm : m.fields.lookup f.name = some s)
    (hn : n.fields.lookup f.name = none) (h : f.DefaultsAt s) : f.Keeps m n := by
  obtain ⟨default, hdefault, hread⟩ := h
  intro a ha
  simp only [value, hdefault, Members.withDefault, hm, hn] at ha ⊢
  rw [hread _ _ ha]

end Field

/-- What is read step by step is read of another source where every step is. -/
theorem bind_keeps {α β : Type} {x y : Option α} {f g : α → Option β}
    (hx : ∀ a, x = some a → y = some a) (hf : ∀ a b, f a = some b → g a = some b) (b : β)
    (h : x.bind f = some b) : y.bind g = some b := by
  obtain ⟨a, ha, hb⟩ := Option.bind_eq_some_iff.mp h
  exact Option.bind_eq_some_iff.mpr ⟨a, hx a ha, hf a b hb⟩

/-- The records that a snapshot is written in. -/
inductive Record
  | snapshot
  | run
  | message
  | context
  | step

namespace Record

def Value : Record → Type
  | snapshot => Snapshot
  | run => Snapshot.RunPart
  | message => StoredMessage
  | context => Snapshot.ContextPart
  | step => Step

def read : (r : Record) → Reading r.Value
  | snapshot => Snapshot.fromJson
  | run => Snapshot.runPart
  | message => StoredMessage.fromJson
  | context => Snapshot.contextPart
  | step => Step.fromJson

def fields : Record → List Field
  | snapshot => [
      .optional "formatVersion" Snapshot.currentFormat (Json.asNat isNat32),
      .required "workflow" Snapshot.runPart,
      .optional "conversationMessages" [] (Json.asList StoredMessage.fromJson),
      .optional "executionContext" ⟨none, [], []⟩ Snapshot.contextPart]
  | run => [
      .required "id" Json.asText,
      .required "filePath" Json.asText,
      .optional "contentHash" none (Json.asOption Json.asText),
      .required "startedAt" Instant.fromJson,
      .required "lastCheckpoint" Instant.fromJson,
      .required "status" RunStatus.fromJson]
  | message => [
      .required "role" Json.asText,
      .required "content" Json.asText,
      .required "timestamp" Instant.fromJson]
  | context => [
      .optional "currentStep" none (Json.asOption Json.asText),
      .optional "variables" [] Json.asTable,
      .optional "executionHistory" [] (Json.asList Step.fromJson)]
  | step => [
      .required "stepName" Json.asText,
      .optional "stepType" "" Json.asText,
      .required "startTime" Instant.fromJson,
      .optional "endTime" none (Json.asOption Instant.fromJson),
      .required "success" Json.asBool,
      .optional "errorMessage" none (Json.asOption Json.asText)]

def names (r : Record) : List String := r.fields.map Field.name

variable {r : Record} {levels : Nat} {s t : Source} {a : r.Value}

theorem exists_members (h : r.read levels s = some a) :
    ∃ m, Members.read r.names levels s = some m := by
  cases r <;> exact (Option.bind_eq_some_iff.mp h).imp fun _ hm => hm.1

/-- A record is read from its fields and nothing else. -/
theorem read_keeps {m n : Members} (hm : Members.read r.names levels s = some m)
    (hn : Members.read r.names levels t = some n) (hfields : ∀ f ∈ r.fields, f.Keeps m n)
    (h : r.read levels s = some a) : r.read levels t = some a := by
  have hrecord : ∀ {build : Members → Option r.Value}, (∀ b, build m = some b → build n = some b) →
      (Members.read r.names levels s).bind build = some a →
      (Members.read r.names levels t).bind build = some a := by
    intro build hbuild hread
    rw [hm, Option.bind_some] at hread
    rw [hn, Option.bind_some]
    exact hbuild a hread
  cases r with
  | snapshot =>
    obtain ⟨hversion, hrun, hmessages, hcontext, -⟩ := by
      simpa only [fields, List.forall_mem_cons] using hfields
    exact hrecord (bind_keeps hversion fun _ => bind_keeps hrun fun _ =>
      bind_keeps hmessages fun _ => bind_keeps hcontext fun _ _ hb => hb) h
  | run =>
    obtain ⟨hid, hpath, hhash, hstarted, hlast, hstatus, -⟩ := by
      simpa only [fields, List.forall_mem_cons] using hfields
    exact hrecord (bind_keeps hid fun _ => bind_keeps hpath fun _ => bind_keeps hhash fun _ =>
      bind_keeps hstarted fun _ => bind_keeps hlast fun _ => bind_keeps hstatus fun _ _ hb => hb) h
  | message =>
    obtain ⟨hrole, hcontent, htimestamp, -⟩ := by
      simpa only [fields, List.forall_mem_cons] using hfields
    exact hrecord (bind_keeps hrole fun _ => bind_keeps hcontent fun _ =>
      bind_keeps htimestamp fun _ _ hb => hb) h
  | context =>
    obtain ⟨hcurrent, hvars, hhistory, -⟩ := by
      simpa only [fields, List.forall_mem_cons] using hfields
    exact hrecord (bind_keeps hcurrent fun _ => bind_keeps hvars fun _ =>
      bind_keeps hhistory fun _ _ hb => hb) h
  | step =>
    obtain ⟨hname, htype, hstart, hstop, hsuccess, herror, -⟩ := by
      simpa only [fields, List.forall_mem_cons] using hfields
    exact hrecord (bind_keeps hname fun _ => bind_keeps htype fun _ => bind_keeps hstart fun _ =>
      bind_keeps hstop fun _ => bind_keeps hsuccess fun _ => bind_keeps herror fun _ _ hb => hb) h

/-- The members that may be left out, with their default values. The default of a whole context is
an object that gives no field another value than its default. -/
inductive Defaulted : Record → String → Source → Prop
  | formatVersion : Defaulted snapshot "formatVersion" (.number (some (.int 1)))
  | contentHash : Defaulted run "contentHash" .null
  | conversationMessages : Defaulted snapshot "conversationMessages" (.array [])
  | executionContext {members : List (Option String × Source)}
      (h : ∀ key s, (some key, s) ∈ members → key ∈ context.names → Defaulted context key s) :
      Defaulted snapshot "executionContext" (.object members)
  | currentStep : Defaulted context "currentStep" .null
  | vars : Defaulted context "variables" (.object [])
  | executionHistory : Defaulted context "executionHistory" (.array [])
  | stepType : Defaulted step "stepType" (.text (some ""))
  | endTime : Defaulted step "endTime" .null
  | errorMessage : Defaulted step "errorMessage" .null

/-- Members that hold another record. -/
inductive Part : Record → String → Record → Prop
  | workflow : Part snapshot "workflow" run
  | executionContext : Part snapshot "executionContext" context

/-- Members that hold a list of other records. -/
inductive Parts : Record → String → Record → Prop
  | conversationMessages : Parts snapshot "conversationMessages" message
  | executionHistory : Parts context "executionHistory" step

/-- Another way to write a record: its members in another order, with others that are no fields,
or without some that are no fields or hold their default; and so for the records inside it. -/
inductive Edited : Record → Source → Source → Prop
  | refl (r : Record) (s : Source) : Edited r s s
  | trans {r : Record} {s t u : Source} : Edited r s t → Edited r t u → Edited r s u
  | reorder {r : Record} {members others : List (Option String × Source)}
      (h : members.Perm others) : Edited r (.object members) (.object others)
  | add {r : Record} {key : String} (h : key ∉ r.names) (s : Source)
      (members : List (Option String × Source)) :
      Edited r (.object members) (.object ((some key, s) :: members))
  | remove {r : Record} {key : String} {s : Source} (h : key ∈ r.names → Defaulted r key s)
      (members : List (Option String × Source)) :
      Edited r (.object ((some key, s) :: members)) (.object members)
  | part {r q : Record} {key : String} {s t : Source} (h : Part r key q)
      (members : List (Option String × Source)) : Edited q s t →
      Edited r (.object ((some key, s) :: members)) (.object ((some key, t) :: members))
  | item {r q : Record} {key : String} {s t : Source} (h : Parts r key q)
      (before after : List Source) (members : List (Option String × Source)) : Edited q s t →
      Edited r (.object ((some key, .array (before ++ s :: after)) :: members))
        (.object ((some key, .array (before ++ t :: after)) :: members))

variable {members others : List (Option String × Source)} {key : String}

/-- An object is read as a record still where each of its fields is. -/
theorem read_object_keeps (h : r.read levels (.object members) = some a)
    (hothers : Readable r.names members → Readable r.names others)
    (hfields : Readable r.names members → ∀ f ∈ r.fields, ∀ inner,
      f.Keeps ⟨inner, (fieldsOf r.names members).reverse⟩
        ⟨inner, (fieldsOf r.names others).reverse⟩) :
    r.read levels (.object others) = some a := by
  obtain ⟨m, hm⟩ := exists_members h
  obtain ⟨hreadable, inner, rfl, rfl⟩ := read_object_iff.mp hm
  exact read_keeps hm (read_object_iff.mpr ⟨hothers hreadable, inner, rfl, rfl⟩)
    (fun f hf => hfields hreadable f hf inner) h

theorem read_reorder (hperm : members.Perm others)
    (h : r.read levels (.object members) = some a) :
    r.read levels (.object others) = some a := by
  refine read_object_keeps h (·.perm hperm) fun hreadable f _ inner => ?_
  refine Field.keeps_of_lookup rfl ?_
  exact Members.lookup_eq_of_mem_iff hreadable (hreadable.perm hperm) fun _ =>
    hperm.mem_iff.symm

theorem read_add (hkey : key ∉ r.names) (h : r.read levels (.object members) = some a) :
    r.read levels (.object ((some key, s) :: members)) = some a := by
  have hunknown : r.names.contains key = false := by simpa using hkey
  refine read_object_keeps h (·.cons_unknown hunknown s) fun _ f _ inner => ?_
  rw [Members.fieldsOf_cons_of_unknown hunknown]
  exact fun _ hb => hb

/-- Leaving a member out changes nothing if its field, where it is one, is read as the default. -/
theorem read_remove (hdefault : ∀ f ∈ r.fields, f.name = key → f.DefaultsAt s)
    (h : r.read levels (.object ((some key, s) :: members)) = some a) :
    r.read levels (.object members) = some a := by
  refine read_object_keeps h Readable.tail fun hreadable f hf inner => ?_
  by_cases hname : f.name = key
  · have hknown : r.names.contains key = true :=
      List.contains_iff_mem.mpr (List.mem_map.mpr ⟨f, hf, hname⟩)
    refine Field.keeps_of_dropped ?_ ?_ (hdefault f hf hname)
    · rw [hname]
      exact Members.lookup_head hreadable hknown
    · rw [hname]
      exact Members.lookup_tail hreadable hknown
  · exact Field.keeps_of_lookup rfl (Members.sameBut_tail hreadable f.name hname)

theorem read_replace (hvalue : ∀ f ∈ r.fields, f.name = key →
      ∀ levels b, f.read levels s = some b → f.read levels t = some b)
    (h : r.read levels (.object ((some key, s) :: members)) = some a) :
    r.read levels (.object ((some key, t) :: members)) = some a := by
  refine read_object_keeps h (·.replace t) fun hreadable f hf inner => ?_
  by_cases hname : f.name = key
  · have hknown : r.names.contains key = true :=
      List.contains_iff_mem.mpr (List.mem_map.mpr ⟨f, hf, hname⟩)
    refine Field.keeps_of_replaced rfl ?_ ?_ (hvalue f hf hname)
    · rw [hname]
      exact Members.lookup_head hreadable hknown
    · rw [hname]
      exact Members.lookup_head (hreadable.replace t) hknown
  · exact Field.keeps_of_lookup rfl (Members.sameBut_replace hreadable t f.name hname)

/-- A context whose fields all hold their defaults is read as the default context. -/
theorem read_context_of_defaults {a : Snapshot.ContextPart}
    (hdefaults : ∀ f ∈ context.fields, ∀ s, (some f.name, s) ∈ members → f.DefaultsAt s)
    (h : Snapshot.contextPart levels (.object members) = some a) : a = ⟨none, [], []⟩ := by
  have hempty : Snapshot.contextPart levels (.object []) = some a := by
    refine read_object_keeps (r := context) h
      (fun _ => ⟨by simp, List.nodup_nil⟩) fun hreadable f hf inner => ?_
    cases hlookup : (fieldsOf context.names members).reverse.lookup f.name with
    | none => exact Field.keeps_of_lookup rfl hlookup.symm
    | some s =>
      obtain ⟨-, hmem⟩ := (Members.lookup_fieldsOf hreadable).mp hlookup
      exact Field.keeps_of_dropped hlookup rfl (hdefaults f hf s hmem)
  cases levels with
  | zero => cases hempty
  | succ inner => exact (Option.some.inj hempty).symm

theorem nodup_names (r : Record) : r.names.Nodup := by
  cases r <;> decide

/-- What holds of a field holds of all fields with its name. -/
theorem forall_named {P : Field → Prop} {g : Field} (hg : g ∈ r.fields) (hname : g.name = key)
    (h : P g) : ∀ f ∈ r.fields, f.name = key → P f := by
  intro f hf hkey
  rw [List.inj_on_of_nodup_map (nodup_names r) hf hg (hkey.trans hname.symm)]
  exact h

theorem asNat_one (levels b : Nat)
    (h : Json.asNat isNat32 levels (.number (some (.int 1))) = some b) :
    b = Snapshot.currentFormat := (Option.some.inj h).symm

theorem asOption_null {α : Type} (read : Reading α) (levels : Nat) (b : Option α)
    (h : Json.asOption read levels .null = some b) : b = none := (Option.some.inj h).symm

theorem asList_nil {α : Type} (read : Reading α) (levels : Nat) (b : List α)
    (h : Json.asList read levels (.array []) = some b) : b = [] := by
  cases levels with
  | zero => cases h
  | succ inner => exact (Option.some.inj h).symm

theorem asTable_nil (levels : Nat) (b : Table Json)
    (h : Json.asTable levels (.object []) = some b) : b = [] := by
  cases levels with
  | zero => cases h
  | succ inner => exact (Option.some.inj h).symm

/-- A member with its default value is read as the default, if at all. -/
theorem Defaulted.defaultsAt (h : Defaulted r key s) :
    ∀ f ∈ r.fields, f.name = key → f.DefaultsAt s := by
  induction h with
  | formatVersion => exact forall_named (.head _) rfl (Field.optional_defaultsAt asNat_one)
  | contentHash =>
    exact forall_named (.tail _ (.tail _ (.head _))) rfl
      (Field.optional_defaultsAt (asOption_null Json.asText))
  | conversationMessages =>
    exact forall_named (.tail _ (.tail _ (.head _))) rfl
      (Field.optional_defaultsAt (asList_nil StoredMessage.fromJson))
  | executionContext hmembers ih =>
    refine forall_named (.tail _ (.tail _ (.tail _ (.head _)))) rfl
      (Field.optional_defaultsAt fun _ _ => read_context_of_defaults fun f hf s hmem => ?_)
    exact ih f.name s hmem (List.mem_map_of_mem hf) f hf rfl
  | currentStep =>
    exact forall_named (.head _) rfl (Field.optional_defaultsAt (asOption_null Json.asText))
  | vars => exact forall_named (.tail _ (.head _)) rfl (Field.optional_defaultsAt asTable_nil)
  | executionHistory =>
    exact forall_named (.tail _ (.tail _ (.head _))) rfl
      (Field.optional_defaultsAt (asList_nil Step.fromJson))
  | stepType =>
    exact forall_named (.tail _ (.head _)) rfl
      (Field.optional_defaultsAt fun _ _ ha => (Option.some.inj ha).symm)
  | endTime =>
    exact forall_named (.tail _ (.tail _ (.tail _ (.head _)))) rfl
      (Field.optional_defaultsAt (asOption_null Instant.fromJson))
  | errorMessage =>
    exact forall_named (.tail _ (.tail _ (.tail _ (.tail _ (.tail _ (.head _)))))) rfl
      (Field.optional_defaultsAt (asOption_null Json.asText))

theorem mapM_replace {α β : Type} {f : α → Option β} {x y : α}
    (h : ∀ b, f x = some b → f y = some b) (before after : List α) (bs : List β)
    (hbs : (before ++ x :: after).mapM f = some bs) : (before ++ y :: after).mapM f = some bs := by
  rw [List.mapM_append, List.mapM_cons] at hbs ⊢
  exact bind_keeps (fun _ ha => ha) (fun _ =>
    bind_keeps (bind_keeps h fun _ _ hb => hb) fun _ _ hb => hb) bs hbs

/-- A list is read as before where one of its items is. -/
theorem asList_replace {α : Type} {read : Reading α}
    (h : ∀ levels b, read levels s = some b → read levels t = some b) (before after : List Source)
    (levels : Nat) (bs : List α)
    (hbs : Json.asList read levels (.array (before ++ s :: after)) = some bs) :
    Json.asList read levels (.array (before ++ t :: after)) = some bs := by
  cases levels with
  | zero => cases hbs
  | succ inner => exact mapM_replace (h inner) before after bs hbs

/-- What is read of a record is read of it however it is edited. -/
theorem Edited.read_eq (h : Edited r s t) : ∀ levels a, r.read levels s = some a →
    r.read levels t = some a := by
  induction h with
  | refl r s => exact fun _ _ ha => ha
  | trans _ _ hst htu => exact fun levels a ha => htu levels a (hst levels a ha)
  | reorder hperm => exact fun _ _ => read_reorder hperm
  | add hkey s members => exact fun _ _ => read_add hkey
  | remove hdefaulted members =>
    refine fun _ _ => read_remove fun f hf hname => ?_
    exact (hdefaulted (hname ▸ List.mem_map_of_mem hf)).defaultsAt f hf hname
  | part hpart members _ ih =>
    intro levels a
    cases hpart with
    | workflow => exact read_replace (forall_named (.tail _ (.head _)) rfl ih)
    | executionContext =>
      exact read_replace (forall_named (.tail _ (.tail _ (.tail _ (.head _)))) rfl ih)
  | item hparts before after members _ ih =>
    intro levels a
    cases hparts with
    | conversationMessages =>
      exact read_replace
        (forall_named (.tail _ (.tail _ (.head _))) rfl (asList_replace ih before after))
    | executionHistory =>
      exact read_replace
        (forall_named (.tail _ (.tail _ (.head _))) rfl (asList_replace ih before after))

end Record

end Runbook
