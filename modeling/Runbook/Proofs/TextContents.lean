import Runbook.Proofs.FloatRange
import Runbook.Proofs.ValueReading

/-!
What can be in a tree that a text was read as. Its integers have 64 bits, so that a value which was
taken from such a tree is written as a text that can be read again: it nests no deeper, integers of
64 bits are read back, and no floating-point number is out of range.
-/

namespace Runbook

namespace Json

theorem absorb_lt {significand : Nat} (h : significand < twoTo 64) (digits : List Char) :
    (absorb significand digits).1 < twoTo 64 := by
  induction digits generalizing significand with
  | nil => exact h
  | cons c rest ih =>
    rw [absorb]
    dsimp only
    split
    · next hnext => exact ih hnext
    · exact h

/-- An integer that is read has 64 bits. -/
theorem value_fits {n : Numeral} {k : Int} (h : n.value = some (.int k)) :
    isInt64 k = true ∨ isNat64 k = true := by
  by_cases hmark : n.fraction ≠ none ∨ n.exponent ≠ none
  · exact absurd h (value_ne_int hmark k)
  obtain ⟨negative, whole, fraction, exponent⟩ := n
  rw [not_or, not_not, not_not] at hmark
  obtain ⟨rfl, rfl⟩ := hmark
  have hlt := absorb_lt (by decide : 0 < twoTo 64) whole
  have hbounds : twoTo 64 = 18446744073709551616 ∧ twoTo 63 = 9223372036854775808 := by decide
  simp only [Numeral.value] at h
  generalize absorb 0 whole = taken at h hlt
  obtain ⟨significand, count⟩ := taken
  dsimp only at h hlt
  split at h
  · exact absurd h (scaled_ne_int _ _ _ k)
  · split at h
    · obtain rfl := Number.int.inj (Option.some.inj h)
      refine .inr ?_
      simp only [isNat64, Bool.and_eq_true, decide_eq_true_eq]
      omega
    · split at h
      · cases h
      · next hsmall =>
        obtain rfl := Number.int.inj (Option.some.inj h)
        refine .inl ?_
        simp only [Bool.or_eq_true, decide_eq_true_eq, not_or] at hsmall
        simp only [isInt64, Bool.and_eq_true, decide_eq_true_eq]
        omega

end Json

namespace Source

mutual

/-- The integers of a tree have 64 bits. -/
def Fits : Source → Prop
  | .number (some (.int k)) => isInt64 k = true ∨ isNat64 k = true
  | .array items => FitsItems items
  | .object members => FitsMembers members
  | _ => True

def FitsItems : List Source → Prop
  | [] => True
  | s :: rest => Fits s ∧ FitsItems rest

def FitsMembers : List (Option String × Source) → Prop
  | [] => True
  | (_, s) :: rest => Fits s ∧ FitsMembers rest

end

theorem fitsItems_iff {items : List Source} : FitsItems items ↔ ∀ s ∈ items, s.Fits := by
  induction items with
  | nil => simp [FitsItems]
  | cons s rest ih => simp [FitsItems, ih]

theorem fitsMembers_iff {members : List (Option String × Source)} :
    FitsMembers members ↔ ∀ member ∈ members, member.2.Fits := by
  induction members with
  | nil => simp [FitsMembers]
  | cons member rest ih => simp [FitsMembers, ih]

theorem fits_number {value : Option Number}
    (h : ∀ k, value = some (.int k) → isInt64 k = true ∨ isNat64 k = true) :
    (Source.number value).Fits := by
  cases value with
  | none => trivial
  | some n =>
    cases n with
    | int k => exact h k rfl
    | float x => trivial

end Source

namespace Json

theorem fits_readNumeral {negative : Bool} {s rest : List Char} {value : Option Number}
    (h : readNumeral negative s = some (value, rest)) : (Source.number value).Fits := by
  unfold readNumeral at h
  simp only [Option.bind_eq_bind, Option.bind_eq_some_iff, Option.pure_def, Option.some.injEq,
    Prod.mk.injEq] at h
  obtain ⟨-, -, -, -, fraction, -, exponent, -, hvalue, -⟩ := h
  apply Source.fits_number
  rintro k rfl
  exact value_fits hvalue

/-- What is made of something that was read fits, if it does so whatever was read. -/
theorem fits_of_map {α : Type} {f : α → Source} {read : Option (α × List Char)} {source : Source}
    {rest : List Char} (hread : ∀ a more, read = some (a, more) → (f a).Fits)
    (h : (read.map fun (a, more) => (f a, more)) = some (source, rest)) : source.Fits := by
  obtain ⟨⟨a, more⟩, ha, heq⟩ := Option.map_eq_some_iff.mp h
  obtain ⟨rfl, -⟩ := Prod.mk.inj heq
  exact hread a more ha

/-! One step of each reader, where what is read with the fuel that is left fits. -/

section Step

variable {fuel : Nat} {s rest : List Char}

theorem fits_readValue_succ {source : Source}
    (hitems : ∀ s items more, readItems fuel s = some (items, more) → Source.FitsItems items)
    (hmembers : ∀ s members more,
      readMembers fuel s = some (members, more) → Source.FitsMembers members)
    (h : readValue (fuel + 1) s = some (source, rest)) : source.Fits := by
  rw [readValue] at h
  split at h
  · obtain ⟨rfl, -⟩ := Prod.mk.inj (Option.some.inj h)
    trivial
  · obtain ⟨rfl, -⟩ := Prod.mk.inj (Option.some.inj h)
    trivial
  · obtain ⟨rfl, -⟩ := Prod.mk.inj (Option.some.inj h)
    trivial
  · refine fits_of_map ?_ h
    intro text more _
    trivial
  · exact fits_of_map (fun _ _ => fits_readNumeral) h
  · split at h
    · obtain ⟨rfl, -⟩ := Prod.mk.inj (Option.some.inj h)
      trivial
    · exact fits_of_map (hitems _) h
  · split at h
    · obtain ⟨rfl, -⟩ := Prod.mk.inj (Option.some.inj h)
      trivial
    · exact fits_of_map (hmembers _) h
  · exact fits_of_map (fun _ _ => fits_readNumeral) h

theorem fits_readItems_succ {items : List Source}
    (hvalue : ∀ s source more, readValue fuel s = some (source, more) → source.Fits)
    (hitems : ∀ s items more, readItems fuel s = some (items, more) → Source.FitsItems items)
    (h : readItems (fuel + 1) s = some (items, rest)) : Source.FitsItems items := by
  rw [readItems] at h
  obtain ⟨⟨item, more⟩, hitem, h⟩ := Option.bind_eq_some_iff.mp h
  have hfits : item.Fits := hvalue _ _ _ hitem
  dsimp only at h
  split at h
  · obtain ⟨⟨others, after⟩, hothers, heq⟩ := Option.bind_eq_some_iff.mp h
    obtain ⟨rfl, -⟩ := Prod.mk.inj (Option.some.inj heq)
    exact ⟨hfits, hitems _ _ _ hothers⟩
  · obtain ⟨rfl, -⟩ := Prod.mk.inj (Option.some.inj h)
    exact ⟨hfits, trivial⟩
  · simp at h

theorem fits_readMembers_succ {members : List (Option String × Source)}
    (hvalue : ∀ s source more, readValue fuel s = some (source, more) → source.Fits)
    (hmembers : ∀ s members more,
      readMembers fuel s = some (members, more) → Source.FitsMembers members)
    (h : readMembers (fuel + 1) s = some (members, rest)) : Source.FitsMembers members := by
  rw [readMembers] at h
  split at h
  · obtain ⟨⟨key, more⟩, -, h⟩ := Option.bind_eq_some_iff.mp h
    dsimp only at h
    split at h
    · obtain ⟨⟨value, after⟩, hread, h⟩ := Option.bind_eq_some_iff.mp h
      have hfits : value.Fits := hvalue _ _ _ hread
      dsimp only at h
      split at h
      · obtain ⟨⟨others, last⟩, hothers, heq⟩ := Option.bind_eq_some_iff.mp h
        obtain ⟨rfl, -⟩ := Prod.mk.inj (Option.some.inj heq)
        exact ⟨hfits, hmembers _ _ _ hothers⟩
      · obtain ⟨rfl, -⟩ := Prod.mk.inj (Option.some.inj h)
        exact ⟨hfits, trivial⟩
      · simp at h
    · simp at h
  · simp at h

end Step

/-- By induction on the fuel, which the three readers hand on to each other. -/
theorem fits_reading (fuel : Nat) :
    (∀ s source rest, readValue fuel s = some (source, rest) → source.Fits) ∧
    (∀ s items rest, readItems fuel s = some (items, rest) → Source.FitsItems items) ∧
    (∀ s members rest, readMembers fuel s = some (members, rest) →
      Source.FitsMembers members) := by
  induction fuel with
  | zero => simp [readValue, readItems, readMembers]
  | succ fuel ih =>
    obtain ⟨hvalue, hitems, hmembers⟩ := ih
    exact ⟨fun _ _ _ => fits_readValue_succ hitems hmembers,
      fun _ _ _ => fits_readItems_succ hvalue hitems,
      fun _ _ _ => fits_readMembers_succ hvalue hmembers⟩

end Json

theorem Source.fits_of_read {text : String} {s : Source} (h : Source.read text = some s) :
    s.Fits := by
  unfold Source.read at h
  obtain ⟨⟨source, rest⟩, hread, h⟩ := Option.bind_eq_some_iff.mp h
  obtain ⟨-, -, h⟩ := Option.bind_eq_some_iff.mp h
  obtain rfl := Option.some.inj h
  exact (Json.fits_reading _).1 _ _ _ hread

namespace Json

/-- The value's own text is read as a value again. -/
def Rereads (levels : Nat) (j : Json) : Prop := ∃ k, Source.toJson? levels (reread j) = some k

theorem rereads_number {levels : Nat} {n : Number} (h : (Source.number (some n)).Fits) :
    Rereads levels (.number n) := by
  cases n with
  | int k =>
    refine ⟨.number (.int k), ?_⟩
    rw [reread, numberSource_of_fits h]
    rfl
  | float x =>
    have hsome := numberSource_float_ne_none x
    rw [Rereads, reread]
    rcases renderNumber_cases (.float x) with hnull | ⟨n, hformed, hsigned⟩
    · rw [numberSource, hnull]
      exact ⟨.null, rfl⟩
    · have halone := readValue_signed hformed ends_nil 0
      rw [List.append_nil] at halone
      rw [numberSource, hsigned, halone] at hsome ⊢
      cases hvalue : n.value with
      | none => exact absurd (by rw [hvalue]; rfl) hsome
      | some k => exact ⟨.number k, rfl⟩

theorem rereads_array {levels : Nat} {items : List Json} (h : ∀ j ∈ items, Rereads levels j) :
    Rereads (levels + 1) (.array items) := by
  have hitems : ∃ read, Source.toItems? levels (rereadItems items) = some read := by
    rw [rereadItems_eq, toItems?_eq_mapM]
    induction items with
    | nil => exact ⟨[], rfl⟩
    | cons j rest ih =>
      obtain ⟨k, hk⟩ := h j List.mem_cons_self
      obtain ⟨others, hothers⟩ := ih fun i hi => h i (List.mem_cons_of_mem _ hi)
      exact ⟨k :: others, by rw [List.map_cons, List.mapM_cons, hk, hothers]; rfl⟩
  obtain ⟨read, hread⟩ := hitems
  refine ⟨.array read, ?_⟩
  rw [reread, Source.toJson?, if_neg (Nat.succ_ne_zero levels), Nat.add_sub_cancel, hread]
  rfl

theorem toMembers?_isSome {levels : Nat} {members : List (String × Json)}
    (h : ∀ member ∈ members, Rereads levels member.2) (seen : Table Json) :
    ∃ read, Source.toMembers? levels seen (rereadMembers members) = some read := by
  induction members generalizing seen with
  | nil => exact ⟨seen, rfl⟩
  | cons member rest ih =>
    obtain ⟨key, j⟩ := member
    obtain ⟨k, hk⟩ := h (key, j) List.mem_cons_self
    obtain ⟨read, hread⟩ := ih (fun other hother => h other (List.mem_cons_of_mem _ hother))
      (seen.insert key k)
    refine ⟨read, ?_⟩
    rw [rereadMembers, Source.toMembers?, hk]
    exact hread

theorem rereads_object {levels : Nat} {members : List (String × Json)}
    (h : ∀ member ∈ members, Rereads levels member.2) : Rereads (levels + 1) (.object members) := by
  obtain ⟨read, hread⟩ := toMembers?_isSome h []
  refine ⟨.object read, ?_⟩
  rw [reread, Source.toJson?, if_neg (Nat.succ_ne_zero levels), Nat.add_sub_cancel, hread]
  rfl

end Json

namespace Source

open Json (Rereads rereads_number rereads_array rereads_object)

mutual

/-- By recursion on the tree, one case for each kind of it. -/
theorem Fits.rereads : ∀ {s : Source} {levels : Nat} {j : Json}, s.Fits →
    s.toJson? levels = some j → Rereads levels j
  | .null, _, _, _, h => by
    obtain rfl := Option.some.inj h
    exact ⟨.null, rfl⟩
  | .bool b, _, _, _, h => by
    obtain rfl := Option.some.inj h
    exact ⟨.bool b, rfl⟩
  | .number value, _, _, hfits, h => by
    obtain ⟨n, rfl, rfl⟩ := Option.map_eq_some_iff.mp h
    exact rereads_number hfits
  | .text value, _, _, _, h => by
    obtain ⟨text, rfl, rfl⟩ := Option.map_eq_some_iff.mp h
    exact ⟨.text text, rfl⟩
  | .array items, levels, _, hfits, h => by
    rw [toJson?] at h
    cases levels with
    | zero => simp at h
    | succ levels =>
      rw [if_neg (Nat.succ_ne_zero levels)] at h
      obtain ⟨read, hread, rfl⟩ := Option.map_eq_some_iff.mp h
      exact rereads_array (FitsItems.rereads hfits hread)
  | .object members, levels, _, hfits, h => by
    rw [toJson?] at h
    cases levels with
    | zero => simp at h
    | succ levels =>
      rw [if_neg (Nat.succ_ne_zero levels)] at h
      obtain ⟨read, hread, rfl⟩ := Option.map_eq_some_iff.mp h
      exact rereads_object (FitsMembers.rereads hfits (fun _ hmem => absurd hmem List.not_mem_nil)
        hread)

theorem FitsItems.rereads : ∀ {items : List Source} {levels : Nat} {read : List Json},
    FitsItems items → toItems? levels items = some read → ∀ j ∈ read, Rereads levels j
  | [], _, _, _, h, j, hj => by
    obtain rfl := Option.some.inj h
    exact absurd hj List.not_mem_nil
  | s :: rest, levels, _, hfits, h, j, hj => by
    rw [toItems?] at h
    obtain ⟨first, hfirst, h⟩ := Option.bind_eq_some_iff.mp h
    obtain ⟨others, hothers, h⟩ := Option.bind_eq_some_iff.mp h
    obtain rfl := Option.some.inj h
    rcases List.mem_cons.mp hj with rfl | hrest
    · exact hfits.1.rereads hfirst
    · exact FitsItems.rereads hfits.2 hothers j hrest

theorem FitsMembers.rereads : ∀ {members : List (Option String × Source)} {levels : Nat}
    {seen read : Table Json}, FitsMembers members →
    (∀ entry ∈ seen, Rereads levels entry.2) → toMembers? levels seen members = some read →
    ∀ entry ∈ read, Rereads levels entry.2
  | [], _, _, _, _, hseen, h, entry, hentry => by
    obtain rfl := Option.some.inj h
    exact hseen entry hentry
  | (key, s) :: rest, levels, seen, _, hfits, hseen, h, entry, hentry => by
    rw [toMembers?] at h
    obtain ⟨name, -, h⟩ := Option.bind_eq_some_iff.mp h
    obtain ⟨value, hvalue, h⟩ := Option.bind_eq_some_iff.mp h
    refine FitsMembers.rereads hfits.2 ?_ h entry hentry
    intro other hother
    rcases Table.mem_insert hother with rfl | hold
    · exact hfits.1.rereads hvalue
    · exact hseen other hold

end

end Source

end Runbook
