import Mathlib.Data.List.Dedup
import Runbook.Proofs.BlankHeaders
import Runbook.Proofs.KeyTexts
import Runbook.Proofs.SortedTables

/-!
The entries of a header. The keys of a mapping differ as values, and a header looks its keys up by
their texts. The texts of two numbers or truth values never agree, so that all entries of a header
are kept unless a number or a truth value is also spelled out as the text of another key; of two
such entries the later one alone is kept.
-/

namespace Runbook

namespace Table

variable {α : Type}

theorem mem_keys_ofList {entries : List (String × α)} {key : String} :
    key ∈ (ofList entries).keys ↔ key ∈ entries.map Prod.fst := by
  rw [← not_iff_not, ← find?_eq_none_iff, find?_ofList, find?_eq_none_iff, keys, List.map_reverse,
    List.mem_reverse]

/-- A table has as many entries as there are different names. -/
theorem length_ofList (entries : List (String × α)) :
    (ofList entries).length = (entries.map Prod.fst).dedup.length := by
  have hperm : (ofList entries).keys.Perm (entries.map Prod.fst).dedup := by
    rw [List.perm_ext_iff_of_nodup (sorted_ofList entries).keys_nodup (List.nodup_dedup _)]
    intro key
    rw [mem_keys_ofList, List.mem_dedup]
  rw [← hperm.length_eq, keys, List.length_map]

theorem length_ofList_of_nodup {entries : List (String × α)}
    (h : (entries.map Prod.fst).Nodup) : (ofList entries).length = entries.length := by
  rw [length_ofList, h.dedup, List.length_map]

theorem length_ofList_lt {entries : List (String × α)} (h : ¬ (entries.map Prod.fst).Nodup) :
    (ofList entries).length < entries.length := by
  have hle := (List.dedup_sublist (entries.map Prod.fst)).length_le
  have hnames : (entries.map Prod.fst).length = entries.length := List.length_map _
  rw [length_ofList, ← hnames]
  refine Nat.lt_of_le_of_ne hle fun heq => h ?_
  rw [← (List.dedup_sublist _).eq_of_length heq]
  exact List.nodup_dedup _

theorem find?_of_nodup {entries : Table α} (h : entries.keys.Nodup) {entry : String × α}
    (hmem : entry ∈ entries) : entries.find? entry.1 = some entry.2 := by
  induction entries with
  | nil => exact absurd hmem List.not_mem_nil
  | cons first rest ih =>
    rw [keys, List.map_cons, List.nodup_cons] at h
    rcases List.mem_cons.mp hmem with rfl | hrest
    · exact if_pos rfl
    · have hne : first.1 ≠ entry.1 := fun heq => h.1 (heq ▸ List.mem_map_of_mem hrest)
      exact (if_neg hne).trans (ih h.2 hrest)

/-- Where no name repeats, every entry is found. -/
theorem find?_ofList_of_nodup {entries : List (String × α)} (h : (entries.map Prod.fst).Nodup)
    {entry : String × α} (hmem : entry ∈ entries) :
    (ofList entries).find? entry.1 = some entry.2 := by
  rw [find?_ofList]
  refine find?_of_nodup ?_ (List.mem_reverse.mpr hmem)
  rw [keys, List.map_reverse, List.nodup_reverse]
  exact h

end Table

namespace Yaml

/-- No later key is the same as an earlier one. -/
def Apart (entries : List (Yaml × Yaml)) : Prop :=
  entries.Pairwise fun earlier later => same later.1 earlier.1 = false

/-- What is read within so much fuel has mappings with different keys. -/
structure Document.Separating (d : Document) (fuel : Nat) : Prop where
  value : ∀ levels own c entries after,
    d.value fuel levels own c = .ok (.map entries, after) → Apart entries
  entries : ∀ levels start seen c entries after, Apart seen.reverse →
    d.entries fuel levels start seen c = .ok (entries, after) → Apart entries

section Separating

variable {d : Document} {fuel : Nat}

/-- A key that is not among the earlier ones can be added to them. -/
theorem Apart.snoc {key v : Yaml} {seen : List (Yaml × Yaml)} (hseen : Apart seen.reverse)
    (hnew : ¬ hasKey key seen = true) : Apart ((key, v) :: seen).reverse := by
  rw [Apart, List.reverse_cons, List.pairwise_append]
  refine ⟨hseen, List.pairwise_singleton _ _, ?_⟩
  intro earlier hearlier later hlater
  obtain rfl := List.mem_singleton.mp hlater
  rw [hasKey, List.any_eq_true, not_exists] at hnew
  have hother := hnew earlier
  rw [List.mem_reverse] at hearlier
  simpa [hearlier] using hother

/-- A mapping is read entry by entry, or stands behind an alias. -/
theorem Document.Separating.value_succ (h : d.Separating fuel) {levels : Nat} {own c after}
    {entries : List (Yaml × Yaml)}
    (hv : d.value (fuel + 1) levels own c = .ok (.map entries, after)) : Apart entries := by
  rw [Document.value] at hv
  obtain ⟨⟨piece, mark⟩, -, hv⟩ := bind_eq_ok.mp hv
  dsimp only at hv
  split at hv
  · obtain ⟨⟨w, inner⟩, hw, hv⟩ := bind_eq_ok.mp hv
    cases hv
  · split at hv
    · cases hv
    · cases hv
    · obtain ⟨place, -, hv⟩ := bind_eq_ok.mp hv
      obtain ⟨⟨w, inner⟩, hw, hv⟩ := bind_eq_ok.mp hv
      cases hv
      exact h.value _ _ _ _ _ hw
    · obtain ⟨w, hw, hv⟩ := bind_eq_ok.mp hv
      cases hv
      exact absurd hw (Document.scalar_ne_map entries)
    · split at hv
      · cases hv
      · obtain ⟨⟨vs, inner⟩, hvs, hv⟩ := bind_eq_ok.mp hv
        cases hv
    · split at hv
      · cases hv
      · obtain ⟨⟨vs, inner⟩, hvs, hv⟩ := bind_eq_ok.mp hv
        cases hv
        exact h.entries _ mark [] _ _ _ List.Pairwise.nil hvs

theorem Document.Separating.entries_succ (h : d.Separating fuel) {levels : Nat} {start c after}
    {seen entries : List (Yaml × Yaml)} (hseen : Apart seen.reverse)
    (hvs : d.entries (fuel + 1) levels start seen c = .ok (entries, after)) : Apart entries := by
  rw [Document.entries] at hvs
  obtain ⟨⟨piece, mark⟩, -, hvs⟩ := bind_eq_ok.mp hvs
  dsimp only at hvs
  split at hvs
  · cases hvs
    exact hseen
  · obtain ⟨⟨key, inner⟩, -, hvs⟩ := bind_eq_ok.mp hvs
    dsimp only at hvs
    split at hvs
    · cases hvs
    · next hnew =>
      obtain ⟨⟨v, last⟩, hv, hvs⟩ := bind_eq_ok.mp hvs
      exact h.entries levels start ((key, v) :: seen) last entries after (hseen.snoc hnew) hvs

theorem Document.separating (d : Document) (fuel : Nat) : d.Separating fuel := by
  induction fuel with
  | zero => exact ⟨by simp [Document.value], by simp [Document.entries]⟩
  | succ fuel ih =>
    exact ⟨fun _ _ _ _ _ => ih.value_succ, fun _ _ _ _ _ _ => ih.entries_succ⟩

end Separating

theorem apart_of_read {text : String} {entries : List (Yaml × Yaml)}
    (h : read text = .ok (.map entries)) : Apart entries := by
  unfold read at h
  dsimp only at h
  obtain ⟨⟨v, c⟩, hv, h⟩ := bind_eq_ok.mp h
  dsimp only at h
  split at h
  · cases h
  · split at h
    · cases h
    · obtain rfl := Except.ok.inj h
      exact (Document.separating _ _).value _ _ _ _ _ hv

end Yaml

namespace Header

open Yaml (Apart same)

variable {entries : List (Yaml × Yaml)}

/-- The entries whose keys have texts, under these texts. -/
def named (entries : List (Yaml × Yaml)) : List (String × Yaml) :=
  entries.filterMap fun entry => (keyText? entry.1).map fun name => (name, entry.2)

/-- Every key is a text, a number or a truth value. -/
def Scalar (entries : List (Yaml × Yaml)) : Prop := ∀ entry ∈ entries, (keyText? entry.1).isSome

/-- The text of a number or a truth value is spelled out as a key of its own. -/
def Spelled (entries : List (Yaml × Yaml)) : Prop :=
  ∃ k ∈ entries.map Prod.fst, ∃ name, keyText? k = some name ∧ k ≠ .text name ∧
    .text name ∈ entries.map Prod.fst

theorem named_cons {entry : Yaml × Yaml} {name : String} (h : keyText? entry.1 = some name)
    (rest : List (Yaml × Yaml)) : named (entry :: rest) = (name, entry.2) :: named rest := by
  rw [named, List.filterMap_cons, h]
  rfl

theorem mem_named {name : String} {v : Yaml} :
    (name, v) ∈ named entries ↔ ∃ k, (k, v) ∈ entries ∧ keyText? k = some name := by
  simp only [named, List.mem_filterMap, Option.map_eq_some_iff, Prod.mk.injEq]
  constructor
  · rintro ⟨⟨k, w⟩, hmem, other, htext, rfl, rfl⟩
    exact ⟨k, hmem, htext⟩
  · rintro ⟨k, hmem, htext⟩
    exact ⟨(k, v), hmem, name, htext, rfl, rfl⟩

theorem collect_of_scalar (h : Scalar entries) (line : Nat) (t : Table Yaml) :
    collect line t entries =
      .ok ((named entries).foldl (fun t entry => t.insert entry.1 entry.2) t) := by
  induction entries generalizing t with
  | nil => rfl
  | cons entry rest ih =>
    obtain ⟨hfirst, hrest⟩ := List.forall_mem_cons.mp h
    obtain ⟨name, hname⟩ := Option.isSome_iff_exists.mp hfirst
    rw [named_cons hname, List.foldl_cons, ← ih hrest, collect, hname]

/-- The first key without a text is the one that is complained about. -/
theorem collect_of_other {before after : List (Yaml × Yaml)} (h : Scalar before) {k v : Yaml}
    (hk : keyText? k = none) (line : Nat) (t : Table Yaml) :
    collect line t (before ++ (k, v) :: after) =
      .error (.headerSyntax ("header keys must be scalars, got " ++ k.kind) (some line) none) := by
  induction before generalizing t with
  | nil => rw [List.nil_append, collect, hk]
  | cons entry rest ih =>
    obtain ⟨hfirst, hrest⟩ := List.forall_mem_cons.mp h
    obtain ⟨name, hname⟩ := Option.isSome_iff_exists.mp hfirst
    rw [List.cons_append, collect, hname]
    exact ih hrest _

/-- Keys that differ have different texts, unless one of them spells the other one out. -/
theorem nodup_named_iff (h : Apart entries) :
    ((named entries).map Prod.fst).Nodup ↔ ¬ Spelled entries := by
  have hnames : (named entries).map Prod.fst = entries.filterMap fun entry => keyText? entry.1 := by
    rw [named, List.map_filterMap]
    simp only [Option.map_map, Function.comp_def, Option.map_id']
  have hsymm : Std.Symm fun a b : Yaml × Yaml =>
      ∀ m, keyText? a.1 = some m → ∀ n, keyText? b.1 = some n → m ≠ n :=
    ⟨fun a b hab n hn m hm heq => hab m hm n hn heq.symm⟩
  rw [hnames, List.Nodup, List.pairwise_filterMap]
  constructor
  · rintro hpairs ⟨k, hk, name, htext, hne, hspelled⟩
    obtain ⟨first, hfirst, rfl⟩ := List.mem_map.mp hk
    obtain ⟨second, hsecond, hkey⟩ := List.mem_map.mp hspelled
    have hdiffer : first ≠ second := fun heq => hne (heq ▸ hkey)
    exact hpairs.forall hfirst hsecond hdiffer name htext name (by rw [hkey, keyText?]) rfl
  · intro hspelled
    refine h.imp_of_mem ?_
    rintro earlier later hearlier hlater hapart m hm n hn rfl
    apply hspelled
    rcases text_of_shared hn hm hapart with ⟨hkey, hne⟩ | ⟨hkey, hne⟩
    · exact ⟨earlier.1, List.mem_map_of_mem hearlier, m, hm, hne,
        hkey ▸ List.mem_map_of_mem hlater⟩
    · exact ⟨later.1, List.mem_map_of_mem hlater, m, hn, hne,
        hkey ▸ List.mem_map_of_mem hearlier⟩

theorem length_named (h : Scalar entries) : (named entries).length = entries.length := by
  induction entries with
  | nil => rfl
  | cons entry rest ih =>
    obtain ⟨hfirst, hrest⟩ := List.forall_mem_cons.mp h
    obtain ⟨name, hname⟩ := Option.isSome_iff_exists.mp hfirst
    rw [named_cons hname, List.length_cons, List.length_cons, ih hrest]

theorem find?_named (entries : List (Yaml × Yaml)) (name : String) :
    Table.find? name (named entries) =
      (entries.find? fun entry => keyText? entry.1 = some name).map Prod.snd := by
  induction entries with
  | nil => rfl
  | cons entry rest ih =>
    cases htext : keyText? entry.1 with
    | none =>
      have hskip : named (entry :: rest) = named rest := by
        rw [named, List.filterMap_cons, htext]
        rfl
      rw [hskip, ih, List.find?_cons_of_neg (by simp [htext])]
    | some other =>
      rw [named_cons htext, Table.find?]
      split
      · next heq => rw [List.find?_cons_of_pos (by simp [htext, heq]), Option.map_some]
      · next hne => rw [ih, List.find?_cons_of_neg (by simpa [htext] using hne)]

/-- What the first pass makes of the entries of a mapping. -/
structure Collected (entries : List (Yaml × Yaml)) (t : Table Yaml) : Prop where
  sorted : t.Sorted
  /-- The last entry of that name counts. -/
  found : ∀ name, t.find? name =
    (entries.reverse.find? fun entry => keyText? entry.1 = some name).map Prod.snd
  whole : ¬ Spelled entries → t.length = entries.length ∧
    ∀ entry ∈ entries, ∀ name, keyText? entry.1 = some name → t.find? name = some entry.2
  lossy : Spelled entries → t.length < entries.length

theorem collected_ofList (hapart : Apart entries) (h : Scalar entries) :
    Collected entries (Table.ofList (named entries)) := by
  refine ⟨Table.sorted_ofList _, ?_, ?_, ?_⟩
  · intro name
    rw [Table.find?_ofList, named, ← List.filterMap_reverse]
    exact find?_named entries.reverse name
  · intro hplain
    have hnodup := (nodup_named_iff hapart).mpr hplain
    refine ⟨(Table.length_ofList_of_nodup hnodup).trans (length_named h), ?_⟩
    intro entry hentry name hname
    exact Table.find?_ofList_of_nodup hnodup (mem_named.mpr ⟨entry.1, hentry, hname⟩)
  · intro hspelled
    have hrepeated : ¬ ((named entries).map Prod.fst).Nodup :=
      fun hnodup => (nodup_named_iff hapart).mp hnodup hspelled
    exact (Table.length_ofList_lt hrepeated).trans_eq (length_named h)

theorem exists_other (h : ¬ Scalar entries) : ∃ before k v after,
    entries = before ++ (k, v) :: after ∧ Scalar before ∧ keyText? k = none := by
  induction entries with
  | nil => exact absurd (by simp [Scalar]) h
  | cons entry rest ih =>
    obtain ⟨k, v⟩ := entry
    cases htext : keyText? k with
    | none => exact ⟨[], k, v, rest, rfl, by simp [Scalar], htext⟩
    | some name =>
      have hrest : ¬ Scalar rest := fun hscalar =>
        h (List.forall_mem_cons.mpr ⟨by rw [htext]; rfl, hscalar⟩)
      obtain ⟨before, l, w, after, rfl, hbefore, hl⟩ := ih hrest
      exact ⟨(k, v) :: before, l, w, after, rfl,
        List.forall_mem_cons.mpr ⟨by rw [htext]; rfl, hbefore⟩, hl⟩

theorem readFields_of_map {text : String} (h : Yaml.read text = .ok (.map entries)) (line : Nat) :
    readFields text line = collect line [] entries := by
  have hblank : Text.isBlankString text = false := by
    by_contra hblank
    exact Yaml.read_of_blank_ne_map (Bool.not_eq_false _ ▸ hblank) entries h
  simp only [readFields, hblank, h, Bool.false_eq_true, if_false]

/-- A mapping whose keys are scalars loses an entry exactly where the text of a number or a truth
value is spelled out as another key. Any other mapping is refused for its first other key. -/
theorem entries_kept {text : String} (h : Yaml.read text = .ok (.map entries)) (line : Nat) :
    Apart entries ∧
    (Scalar entries → ∃ t, readFields text line = .ok t ∧ Collected entries t) ∧
    (¬ Scalar entries → ∃ before k v after, entries = before ++ (k, v) :: after ∧
      Scalar before ∧ keyText? k = none ∧ readFields text line = .error
        (.headerSyntax ("header keys must be scalars, got " ++ k.kind) (some line) none)) := by
  have hapart := Yaml.apart_of_read h
  rw [readFields_of_map h]
  refine ⟨hapart, ?_, ?_⟩
  · intro hscalar
    exact ⟨_, collect_of_scalar hscalar line [], collected_ofList hapart hscalar⟩
  · intro hother
    obtain ⟨before, k, v, after, rfl, hbefore, hk⟩ := exists_other hother
    exact ⟨before, k, v, after, rfl, hbefore, hk, collect_of_other hbefore hk line []⟩

/-- Equality of scalars, in a form that can be evaluated. -/
def equalScalars : Yaml → Yaml → Bool
  | .bool a, .bool b => decide (a = b)
  | .number m, .number n => decide (m = n)
  | .text s, .text t => decide (s = t)
  | _, _ => false

theorem eq_of_equalScalars {k l : Yaml} (h : equalScalars k l = true) : k = l := by
  unfold equalScalars at h
  split at h
  · rw [of_decide_eq_true h]
  · rw [of_decide_eq_true h]
  · rw [of_decide_eq_true h]
  · cases h

def equalEntries : List (Yaml × Yaml) → List (Yaml × Yaml) → Bool
  | [], [] => true
  | (k, v) :: rest, (l, w) :: others =>
      equalScalars k l && equalScalars v w && equalEntries rest others
  | _, _ => false

theorem eq_of_equalEntries {others : List (Yaml × Yaml)}
    (h : equalEntries entries others = true) : entries = others := by
  induction entries generalizing others with
  | nil =>
    cases others with
    | nil => rfl
    | cons other others => cases h
  | cons entry rest ih =>
    cases others with
    | nil => cases h
    | cons other others =>
      simp only [equalEntries, Bool.and_eq_true] at h
      obtain ⟨⟨hkey, hvalue⟩, hrest⟩ := h
      rw [Prod.ext (eq_of_equalScalars hkey) (eq_of_equalScalars hvalue), ih hrest]

/-- Whether the text is a mapping of just these entries. -/
def readsAs (entries : List (Yaml × Yaml)) (text : String) : Bool :=
  match Yaml.read text with
  | .ok (.map others) => equalEntries others entries
  | _ => false

theorem read_of_readsAs {text : String} (h : readsAs entries text = true) :
    Yaml.read text = .ok (.map entries) := by
  unfold readsAs at h
  split at h
  · next others hread => rw [hread, eq_of_equalEntries h]
  · cases h

/-- Entries under a number, a truth value and a text. -/
def mixedEntries : List (Yaml × Yaml) :=
  [(.number (.int 1), .text "a"), (.bool true, .text "b"), (.text "name", .text "c")]

theorem entries_kept_of_numbered :
    Yaml.read "1: a\ntrue: b\nname: c" = .ok (.map mixedEntries) ∧
    ∃ t, readFields "1: a\ntrue: b\nname: c" 2 = .ok t ∧ t.length = 3 ∧
      t.find? "1" = some (.text "a") ∧ t.find? "true" = some (.text "b") ∧
      t.find? "name" = some (.text "c") := by
  have hread : Yaml.read "1: a\ntrue: b\nname: c" = .ok (.map mixedEntries) :=
    read_of_readsAs (by decide +kernel)
  obtain ⟨-, hkept, -⟩ := entries_kept hread 2
  have hscalar : Scalar mixedEntries := by simp [mixedEntries, Scalar, keyText?]
  have hplain : ¬ Spelled mixedEntries := by
    rintro ⟨k, hk, name, hname, hne, hspelled⟩
    obtain rfl : name = "name" := by simpa [mixedEntries] using hspelled
    have hkeys : k = .number (.int 1) ∨ k = .bool true ∨ k = .text "name" := by
      simpa [mixedEntries] using hk
    rcases hkeys with rfl | rfl | rfl
    · exact absurd hname (by decide)
    · exact absurd hname (by decide)
    · exact hne rfl
  obtain ⟨t, ht, hcollected⟩ := hkept hscalar
  obtain ⟨hlength, hfound⟩ := hcollected.whole hplain
  refine ⟨hread, t, ht, hlength, ?_, ?_, ?_⟩
  · exact hfound (.number (.int 1), .text "a") (by simp [mixedEntries]) "1" rfl
  · exact hfound (.bool true, .text "b") (by simp [mixedEntries]) "true" rfl
  · exact hfound (.text "name", .text "c") (by simp [mixedEntries]) "name" rfl

/-- A number and its text are two keys of a mapping, and one of a header. -/
theorem spelled_entry_lost :
    Yaml.read "1: a\n\"1\": b" =
      .ok (.map [(.number (.int 1), .text "a"), (.text "1", .text "b")]) ∧
    readFields "1: a\n\"1\": b" 2 = .ok [("1", .text "b")] := by
  have hread : Yaml.read "1: a\n\"1\": b" =
      .ok (.map [(.number (.int 1), .text "a"), (.text "1", .text "b")]) :=
    read_of_readsAs (by decide +kernel)
  exact ⟨hread, readFields_of_map hread 2⟩

end Header

end Runbook
