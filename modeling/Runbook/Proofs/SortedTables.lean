import Mathlib.Data.List.Induction
import Mathlib.Data.List.Pairwise
import Mathlib.Data.String.Basic
import Runbook.Table

/-!
Tables whose names stand in ascending order. Insertions, removals and filters keep the order;
in a sorted table an entry is found exactly under its own name, so that removing names one after
the other is the same as filtering. Sets of names are determined by their members.
-/

namespace Runbook

namespace Table

variable {α β : Type}

theorem mem_of_find? {t : Table α} {key : String} {value : α}
    (h : t.find? key = some value) : (key, value) ∈ t := by
  induction t with
  | nil => simp at h
  | cons entry rest ih =>
    obtain ⟨k, v⟩ := entry
    simp only [find?] at h
    split at h
    · next hk =>
      subst hk
      obtain rfl : v = value := Option.some.inj h
      exact List.mem_cons_self
    · exact List.mem_cons_of_mem _ (ih h)

theorem find?_eq_none_iff {t : Table α} {key : String} :
    t.find? key = none ↔ key ∉ t.keys := by
  induction t with
  | nil => simp [keys]
  | cons entry rest ih =>
    obtain ⟨k, v⟩ := entry
    simp only [find?, keys, List.map_cons, List.mem_cons, not_or]
    by_cases hk : k = key
    · simp [hk]
    · simp only [if_neg hk, ih, keys]
      exact ⟨fun h => ⟨Ne.symm hk, h⟩, fun h => h.2⟩

theorem contains_iff {t : Table α} {key : String} : t.contains key = true ↔ key ∈ t.keys := by
  rw [contains, ← Option.ne_none_iff_isSome, Ne, find?_eq_none_iff, not_not]

theorem Sorted.tail {entry : String × α} {rest : Table α} (h : Sorted (entry :: rest)) :
    Sorted rest := (List.pairwise_cons.mp h).2

theorem Sorted.keys_nodup {t : Table α} (h : t.Sorted) : t.keys.Nodup :=
  List.pairwise_map.mpr (h.imp fun hlt => ne_of_lt hlt)

/-- In a sorted table no entry hides behind another one of its name. -/
theorem Sorted.find?_eq_some_iff {t : Table α} (h : t.Sorted) {key : String} {value : α} :
    t.find? key = some value ↔ (key, value) ∈ t := by
  refine ⟨mem_of_find?, ?_⟩
  intro hmem
  induction t with
  | nil => simp at hmem
  | cons entry rest ih =>
    obtain ⟨k, v⟩ := entry
    simp only [find?]
    rcases List.mem_cons.mp hmem with heq | hrest
    · obtain ⟨rfl, rfl⟩ := Prod.mk.inj heq
      simp
    · have hlt : k < key := (List.pairwise_cons.mp h).1 (key, value) hrest
      rw [if_neg (ne_of_lt hlt)]
      exact ih h.tail hrest

theorem mem_insert {t : Table α} {key : String} {value : α} {entry : String × α}
    (h : entry ∈ t.insert key value) : entry = (key, value) ∨ entry ∈ t := by
  induction t with
  | nil => simpa [insert] using h
  | cons first rest ih =>
    obtain ⟨k, v⟩ := first
    simp only [insert] at h
    split at h
    · rcases List.mem_cons.mp h with heq | hrest
      · exact Or.inl heq
      · exact Or.inr (List.mem_cons_of_mem _ hrest)
    · split at h
      · rcases List.mem_cons.mp h with heq | hrest
        · exact Or.inl heq
        · exact Or.inr hrest
      · rcases List.mem_cons.mp h with heq | hrest
        · exact Or.inr (heq ▸ List.mem_cons_self)
        · rcases ih hrest with hnew | hold
          · exact Or.inl hnew
          · exact Or.inr (List.mem_cons_of_mem _ hold)

theorem Sorted.insert {t : Table α} (h : t.Sorted) (key : String) (value : α) :
    Sorted (t.insert key value) := by
  induction t with
  | nil => exact List.pairwise_singleton _ _
  | cons first rest ih =>
    obtain ⟨k, v⟩ := first
    obtain ⟨hfirst, hrest⟩ := List.pairwise_cons.mp h
    simp only [Table.insert]
    split
    · next hk =>
      subst hk
      exact List.pairwise_cons.mpr ⟨hfirst, hrest⟩
    · next hk =>
      split
      · next hlt =>
        refine List.pairwise_cons.mpr ⟨?_, h⟩
        intro entry hentry
        rcases List.mem_cons.mp hentry with rfl | hmem
        · exact hlt
        · exact lt_trans hlt (hfirst entry hmem)
      · next hlt =>
        have hkey : k < key := lt_of_le_of_ne (not_lt.mp hlt) hk
        refine List.pairwise_cons.mpr ⟨?_, ih hrest⟩
        intro entry hentry
        rcases mem_insert hentry with rfl | hmem
        · exact hkey
        · exact hfirst entry hmem

theorem erase_eq_filter (t : Table α) (key : String) :
    t.erase key = t.filter fun entry => entry.1 ≠ key := by
  induction t with
  | nil => rfl
  | cons first rest ih =>
    obtain ⟨k, v⟩ := first
    by_cases hk : k = key
    · simp [erase, hk, ih]
    · simp [erase, hk, ih]

theorem Sorted.filter {t : Table α} (h : t.Sorted) (p : String × α → Bool) :
    Sorted (t.filter p) := List.Pairwise.filter p h

theorem Sorted.erase {t : Table α} (h : t.Sorted) (key : String) : Sorted (t.erase key) := by
  rw [erase_eq_filter]
  exact h.filter _

theorem erase_insert (t : Table α) (key : String) (value : α) :
    (t.insert key value).erase key = t.erase key := by
  induction t with
  | nil => simp [Table.insert, Table.erase]
  | cons first rest ih =>
    obtain ⟨k, v⟩ := first
    simp only [Table.insert]
    split
    · next hk => simp [Table.erase, hk]
    · next hk =>
      split
      · simp [Table.erase, hk]
      · simp [Table.erase, hk, ih]

theorem erase_of_not_mem {t : Table α} {key : String} (h : key ∉ t.keys) :
    t.erase key = t := by
  rw [erase_eq_filter, List.filter_eq_self]
  intro entry hentry
  have hne : entry.1 ≠ key := fun heq => h (heq ▸ List.mem_map_of_mem hentry)
  simpa using hne

theorem erase_append (s t : Table α) (key : String) :
    Table.erase key (s ++ t) = s.erase key ++ t.erase key := by
  simp only [erase_eq_filter, List.filter_append]

theorem find?_append_of_not_mem {s : Table α} (t : Table α) {key : String} (h : key ∉ s.keys) :
    Table.find? key (s ++ t) = t.find? key := by
  induction s with
  | nil => rfl
  | cons entry rest ih =>
    obtain ⟨k, v⟩ := entry
    simp only [keys, List.map_cons, List.mem_cons, not_or] at h
    rw [List.cons_append, find?, if_neg (Ne.symm h.1)]
    exact ih h.2

/-- A filtered sorted table holds what the filter lets through. -/
theorem Sorted.find?_filter {t : Table α} (h : t.Sorted) (p : String × α → Bool) (key : String) :
    Table.find? key (t.filter p) = (t.find? key).filter fun value => p (key, value) := by
  apply Option.ext
  intro value
  rw [(h.filter p).find?_eq_some_iff, List.mem_filter, Option.filter_eq_some_iff,
    h.find?_eq_some_iff]

theorem mem_keys_filter {t : Table α} (h : t.Sorted) (p : String × α → Bool) (key : String) :
    key ∈ Table.keys (t.filter p) ↔ ∃ value, t.find? key = some value ∧ p (key, value) := by
  have hkeys : key ∈ Table.keys (t.filter p) ↔ ∃ value, (key, value) ∈ t.filter p := by
    simp [keys]
  rw [hkeys]
  constructor
  · rintro ⟨value, hmem⟩
    obtain ⟨hmem, hp⟩ := List.mem_filter.mp hmem
    exact ⟨value, h.find?_eq_some_iff.mpr hmem, hp⟩
  · rintro ⟨value, hfind, hp⟩
    exact ⟨value, List.mem_filter.mpr ⟨mem_of_find? hfind, hp⟩⟩

theorem Sorted.foldl_insert {t : Table α} (h : t.Sorted) (entries : List (String × α)) :
    Sorted (entries.foldl (fun t entry => t.insert entry.1 entry.2) t) := by
  induction entries generalizing t with
  | nil => exact h
  | cons entry entries ih => exact ih (h.insert entry.1 entry.2)

theorem sorted_ofList (entries : List (String × α)) : Sorted (ofList entries) :=
  Sorted.foldl_insert List.Pairwise.nil entries

theorem insert_of_last {t : Table α} {key : String} (h : ∀ entry ∈ t, entry.1 < key)
    (value : α) : t.insert key value = t ++ [(key, value)] := by
  induction t with
  | nil => rfl
  | cons entry rest ih =>
    have hlt := h entry List.mem_cons_self
    have hne : entry.1 ≠ key := ne_of_lt hlt
    have hnot : ¬key < entry.1 := not_lt_of_gt hlt
    rw [Table.insert, if_neg hne, if_neg hnot,
      ih fun other hother => h other (List.mem_cons_of_mem _ hother), List.cons_append]

/-- Entries that stand in order make up a table as they are. -/
theorem Sorted.ofList_eq {t : Table α} (h : t.Sorted) : ofList t = t := by
  induction t using List.reverseRecOn with
  | nil => rfl
  | append_singleton t entry ih =>
    obtain ⟨hfront, -, hlast⟩ := List.pairwise_append.mp h
    rw [ofList, List.foldl_append, ← ofList, ih hfront]
    exact insert_of_last (fun other hother => hlast other hother entry List.mem_cons_self) entry.2

/-- A sorted table is determined by what is found in it. -/
theorem Sorted.ext {s t : Table α} (hs : s.Sorted) (ht : t.Sorted)
    (h : ∀ key, s.find? key = t.find? key) : s = t := by
  have hsn : s.Nodup := hs.imp fun hlt heq => ne_of_lt hlt (congrArg Prod.fst heq)
  have htn : t.Nodup := ht.imp fun hlt heq => ne_of_lt hlt (congrArg Prod.fst heq)
  have hperm : s.Perm t := by
    rw [List.perm_ext_iff_of_nodup hsn htn]
    rintro ⟨key, value⟩
    rw [← hs.find?_eq_some_iff, ← ht.find?_eq_some_iff, h key]
  exact hperm.eq_of_pairwise (fun a b _ _ hab hba => absurd hba (lt_asymm hab)) hs ht

/-- The last one of several values for one name wins. -/
theorem find?_ofList (entries : List (String × α)) (key : String) :
    (ofList entries).find? key = Table.find? key entries.reverse := by
  induction entries using List.reverseRecOn with
  | nil => rfl
  | append_singleton entries entry ih =>
    have hstep : ofList (entries ++ [entry]) = (ofList entries).insert entry.1 entry.2 := by
      rw [ofList, List.foldl_append]
      rfl
    rw [hstep, find?_insert, ih, List.reverse_append]
    change _ = if entry.1 = key then some entry.2 else Table.find? key entries.reverse
    by_cases hkey : key = entry.1
    · rw [if_pos hkey, if_pos hkey.symm]
    · rw [if_neg hkey, if_neg (Ne.symm hkey)]

theorem mem_of_mem_ofList {entries : List (String × α)} {key : String} {value : α}
    (h : (key, value) ∈ ofList entries) : (key, value) ∈ entries := by
  have hfind := (sorted_ofList entries).find?_eq_some_iff.mpr h
  rw [find?_ofList] at hfind
  exact List.mem_reverse.mp (mem_of_find? hfind)

end Table

namespace Names

/-- The names stand in strictly ascending order. -/
def Ascending (s : Names) : Prop := s.Pairwise (· < ·)

theorem ascending_insert (name : String) {s : Names} (h : Ascending s) :
    Ascending (insert name s) := by
  induction s with
  | nil => exact List.pairwise_singleton _ _
  | cons first rest ih =>
    obtain ⟨hfirst, hrest⟩ := List.pairwise_cons.mp h
    simp only [insert]
    split
    · exact h
    · next hne =>
      split
      · next hlt =>
        refine List.pairwise_cons.mpr ⟨?_, h⟩
        intro other hother
        rcases List.mem_cons.mp hother with rfl | hmem
        · exact hlt
        · exact lt_trans hlt (hfirst other hmem)
      · next hlt =>
        have hname : first < name := lt_of_le_of_ne (not_lt.mp hlt) hne
        refine List.pairwise_cons.mpr ⟨?_, ih hrest⟩
        intro other hother
        rcases mem_insert.mp hother with rfl | hmem
        · exact hname
        · exact hfirst other hmem

theorem Ascending.foldl_insert {s : Names} (h : Ascending s) (names : List String) :
    Ascending (names.foldl (fun s n => insert n s) s) := by
  induction names generalizing s with
  | nil => exact h
  | cons name rest ih => exact ih (ascending_insert name h)

theorem ascending_ofList (names : List String) : Ascending (ofList names) :=
  Ascending.foldl_insert List.Pairwise.nil names

/-- A set of names is determined by its members. -/
theorem Ascending.ext {s t : Names} (hs : Ascending s) (ht : Ascending t)
    (h : ∀ name, name ∈ s ↔ name ∈ t) : s = t := by
  have hsn : s.Nodup := hs.imp fun hlt => ne_of_lt hlt
  have htn : t.Nodup := ht.imp fun hlt => ne_of_lt hlt
  have hperm : s.Perm t := (List.perm_ext_iff_of_nodup hsn htn).mpr h
  exact hperm.eq_of_pairwise (fun a b _ _ hab hba => absurd hba (lt_asymm hab)) hs ht

end Names

end Runbook
