import Runbook.Proofs.SnapshotText
import Runbook.Proofs.SortedTables

/-!
Values that their text gives back. A value is read as it was written exactly where it nests no
deeper than the reader goes and each of its floating-point numbers is read as it was written. What
is read of it otherwise is another variable, too.
-/

namespace Runbook

/-- The text of the number is read as this very number. -/
def Binary64.ReadsBack (x : Binary64) : Prop :=
  Json.read (Json.render (.number (.float x))) = some (.number (.float x))

theorem mapM_eq_some_self {α : Type} {f : α → Option α} {as : List α} :
    as.mapM f = some as ↔ ∀ a ∈ as, f a = some a := by
  induction as with
  | nil => simp
  | cons a as ih =>
    simp only [List.mapM_cons, Option.bind_eq_bind, Option.bind_eq_some_iff, Option.pure_def,
      Option.some.injEq, List.cons.injEq, List.forall_mem_cons, ← ih]
    constructor
    · rintro ⟨b, hb, bs, hbs, rfl, rfl⟩
      exact ⟨hb, hbs⟩
    · rintro ⟨ha, has⟩
      exact ⟨a, ha, as, has, rfl, rfl⟩

namespace Json

mutual

/-- The floating-point numbers in a value. -/
def floats : Json → List Binary64
  | .number (.float x) => [x]
  | .array items => floatsItems items
  | .object members => floatsMembers members
  | _ => []

def floatsItems : List Json → List Binary64
  | [] => []
  | j :: rest => floats j ++ floatsItems rest

def floatsMembers : List (String × Json) → List Binary64
  | [] => []
  | (_, j) :: rest => floats j ++ floatsMembers rest

end

theorem mem_floatsItems {items : List Json} {x : Binary64} :
    x ∈ floatsItems items ↔ ∃ j ∈ items, x ∈ j.floats := by
  induction items with
  | nil => simp [floatsItems]
  | cons j rest ih => simp [floatsItems, ih]

theorem mem_floatsMembers {members : List (String × Json)} {x : Binary64} :
    x ∈ floatsMembers members ↔ ∃ member ∈ members, x ∈ member.2.floats := by
  induction members with
  | nil => simp [floatsMembers]
  | cons member rest ih => simp [floatsMembers, ih]

theorem depthItems_le_iff {items : List Json} {n : Nat} :
    depthItems items ≤ n ↔ ∀ j ∈ items, j.depth ≤ n := by
  induction items with
  | nil => simp [depthItems]
  | cons j rest ih => simp [depthItems, ih]

theorem depthMembers_le_iff {members : List (String × Json)} {n : Nat} :
    depthMembers members ≤ n ↔ ∀ member ∈ members, member.2.depth ≤ n := by
  induction members with
  | nil => simp [depthMembers]
  | cons member rest ih => simp [depthMembers, ih]

theorem toItems?_eq_mapM (levels : Nat) (items : List Source) :
    Source.toItems? levels items = items.mapM (Source.toJson? levels) := by
  induction items with
  | nil => rfl
  | cons s rest ih =>
    rw [Source.toItems?, ih, List.mapM_cons]

/-- What the text of a member is read as. -/
def rereadMember (levels : Nat) (member : String × Json) : Option (String × Json) :=
  ((reread member.2).toJson? levels).map fun value => (member.1, value)

theorem rereadMember_eq_self_iff {levels : Nat} {member : String × Json} :
    rereadMember levels member = some member ↔
      (reread member.2).toJson? levels = some member.2 := by
  obtain ⟨key, j⟩ := member
  simp [rereadMember]

/-- The values of sorted members are read one by one and put in at the end. -/
theorem toMembers?_eq_mapM (levels : Nat) {members : Table Json} (h : members.Sorted)
    (seen : Table Json) (hseen : ∀ entry ∈ seen, ∀ member ∈ members, entry.1 < member.1) :
    Source.toMembers? levels seen (rereadMembers members) =
      (members.mapM (rereadMember levels)).map (seen ++ ·) := by
  induction members generalizing seen with
  | nil => simp [rereadMembers, Source.toMembers?]
  | cons member rest ih =>
    obtain ⟨key, j⟩ := member
    rw [Table.Sorted, List.pairwise_cons] at h
    rw [rereadMembers, Source.toMembers?, List.mapM_cons, rereadMember]
    simp only [Option.bind_eq_bind, Option.bind_some, Option.pure_def]
    cases Source.toJson? levels (reread j) with
    | none => rfl
    | some value =>
      have hlast : ∀ entry ∈ seen, entry.1 < key :=
        fun entry hentry => hseen entry hentry (key, j) List.mem_cons_self
      have hnext := ih h.2 (seen ++ [(key, value)]) (by
        intro entry hentry member hmember
        rcases List.mem_append.mp hentry with hold | hnew
        · exact hseen entry hold member (List.mem_cons_of_mem _ hmember)
        · rw [List.mem_singleton.mp hnew]
          exact h.1 member hmember)
      simp only [Option.bind_some, Option.map_some, Table.insert_of_last hlast, hnext]
      cases rest.mapM (rereadMember levels) <;> simp

theorem toJson?_eq_number_iff {levels : Nat} {s : Source} {n : Number} :
    s.toJson? levels = some (.number n) ↔ s = .number (some n) := by
  cases s with
  | number value => simp [Source.toJson?]
  | text value => simp [Source.toJson?]
  | array items => simp [Source.toJson?]
  | object members => simp [Source.toJson?]
  | _ => simp [Source.toJson?]

theorem readsBack_iff {x : Binary64} :
    x.ReadsBack ↔ numberSource (.float x) = .number (some (.float x)) := by
  rw [Binary64.ReadsBack, Json.read, read_render]
  exact toJson?_eq_number_iff

def isLeaf (n : Number) : Source → Bool
  | .number m => m = some n
  | _ => false

theorem isLeaf_iff {n : Number} {s : Source} : isLeaf n s = true ↔ s = .number (some n) := by
  cases s <;> simp [isLeaf]

instance (x : Binary64) : Decidable x.ReadsBack :=
  decidable_of_iff (isLeaf (.float x) (numberSource (.float x)) = true)
    (isLeaf_iff.trans readsBack_iff.symm)

/-- Only its depth and its floating-point numbers keep a value from being read back. -/
def BackWithin (j : Json) : Prop :=
  ∀ levels, (reread j).toJson? levels = some j ↔
    j.depth ≤ levels ∧ ∀ x ∈ j.floats, x.ReadsBack

theorem backWithin_number {n : Number} (h : (Json.number n).Canonical) :
    BackWithin (.number n) := by
  intro levels
  rw [toJson?_eq_number_iff, reread]
  cases n with
  | int n =>
    rw [numberSource_of_fits h]
    simp [depth, floats]
  | float x => simp [depth, floats, readsBack_iff]

theorem backWithin_array {items : List Json} (h : ∀ j ∈ items, j.BackWithin) :
    BackWithin (.array items) := by
  intro levels
  rw [reread, Source.toJson?, depth, floats]
  cases levels with
  | zero => simp
  | succ inner =>
    have hitems : (rereadItems items).mapM (Source.toJson? inner) = some items ↔
        ∀ j ∈ items, (reread j).toJson? inner = some j := by
      rw [rereadItems_eq, List.mapM_map]
      exact mapM_eq_some_self
    simp only [Nat.add_one_ne_zero, if_false, Nat.add_sub_cancel, Option.map_eq_some_iff,
      Json.array.injEq, exists_eq_right, toItems?_eq_mapM, hitems, Nat.add_le_add_iff_right,
      depthItems_le_iff, mem_floatsItems]
    constructor
    · intro hread
      exact ⟨fun j hj => ((h j hj inner).mp (hread j hj)).1,
        fun x ⟨j, hj, hx⟩ => ((h j hj inner).mp (hread j hj)).2 x hx⟩
    · rintro ⟨hdepth, hfloats⟩ j hj
      exact (h j hj inner).mpr ⟨hdepth j hj, fun x hx => hfloats x ⟨j, hj, hx⟩⟩

theorem backWithin_object {members : Table Json} (hsorted : members.Sorted)
    (h : ∀ member ∈ members, member.2.BackWithin) : BackWithin (.object members) := by
  intro levels
  rw [reread, Source.toJson?, depth, floats]
  cases levels with
  | zero => simp
  | succ inner =>
    have hmembers : Source.toMembers? inner [] (rereadMembers members) = some members ↔
        ∀ member ∈ members, (reread member.2).toJson? inner = some member.2 := by
      rw [toMembers?_eq_mapM inner hsorted [] (by simp)]
      simp only [List.nil_append, Option.map_id', mapM_eq_some_self, rereadMember_eq_self_iff]
    simp only [Nat.add_one_ne_zero, if_false, Nat.add_sub_cancel, Option.map_eq_some_iff,
      Json.object.injEq, exists_eq_right, hmembers, Nat.add_le_add_iff_right,
      depthMembers_le_iff, mem_floatsMembers]
    constructor
    · intro hread
      exact ⟨fun member hmem => ((h member hmem inner).mp (hread member hmem)).1,
        fun x ⟨member, hmem, hx⟩ => ((h member hmem inner).mp (hread member hmem)).2 x hx⟩
    · rintro ⟨hdepth, hfloats⟩ member hmem
      exact (h member hmem inner).mpr ⟨hdepth member hmem, fun x hx => hfloats x ⟨member, hmem, hx⟩⟩

mutual

/-- By recursion on the value, one case for each kind of it. -/
theorem backWithin : ∀ j : Json, j.Canonical → j.BackWithin
  | .null, _ => by
    intro levels
    simp [reread, Source.toJson?, depth, floats]
  | .bool b, _ => by
    intro levels
    simp [reread, Source.toJson?, depth, floats]
  | .number n, h => backWithin_number h
  | .text s, _ => by
    intro levels
    simp [reread, Source.toJson?, depth, floats]
  | .array items, h => backWithin_array (backWithin_items items h)
  | .object members, h => backWithin_object h.1 (backWithin_members members h.2)

theorem backWithin_items : ∀ items : List Json, CanonicalItems items → ∀ j ∈ items, j.BackWithin
  | [], _, j, hj => absurd hj List.not_mem_nil
  | first :: rest, h, j, hj => by
    rcases List.mem_cons.mp hj with heq | hrest
    · rw [heq]
      exact backWithin first h.1
    · exact backWithin_items rest h.2 j hrest

theorem backWithin_members : ∀ members : List (String × Json), CanonicalMembers members →
    ∀ member ∈ members, member.2.BackWithin
  | [], _, member, hmember => absurd hmember List.not_mem_nil
  | (key, j) :: rest, h, member, hmember => by
    rcases List.mem_cons.mp hmember with heq | hrest
    · rw [heq]
      exact backWithin j h.1
    · exact backWithin_members rest h.2 member hrest

end

theorem scaled_ne_int (negative : Bool) (significand : Nat) (e m : Int) :
    scaled negative significand e ≠ some (.int m) := by
  intro heq
  obtain ⟨x, -, hx⟩ := Option.map_eq_some_iff.mp heq
  cases hx

theorem withExponent_ne_int (negative : Bool) (significand : Nat) (start : Int) (down : Bool)
    (digits : List Char) (m : Int) :
    withExponent negative significand start down digits ≠ some (.int m) := by
  unfold withExponent
  dsimp only
  split
  · exact scaled_ne_int _ _ _ m
  · split <;> simp

/-- A number with a point or an exponent is never read as an integer. -/
theorem value_ne_int {n : Numeral} (h : n.fraction ≠ none ∨ n.exponent ≠ none) (m : Int) :
    n.value ≠ some (.int m) := by
  obtain ⟨negative, whole, fraction, exponent⟩ := n
  cases exponent with
  | some e => exact withExponent_ne_int _ _ _ _ _ m
  | none =>
    obtain ⟨digits, rfl⟩ := Option.ne_none_iff_exists'.mp (h.resolve_right (by simp))
    simp only [Numeral.value, Option.isSome_some, Bool.true_or, if_true]
    exact scaled_ne_int _ _ _ m

/-- The text of a finite number has a point or an exponent. -/
theorem mark_mem_digits (ds : List Char) (lead : Int) :
    '.' ∈ (Binary64.Layout.snapshot.digits ds lead).toList ∨
      'e' ∈ (Binary64.Layout.snapshot.digits ds lead).toList := by
  unfold Binary64.Layout.digits
  split
  · refine Or.inl ?_
    split
    · simp [String.toList_append]
    split
    · simp [String.toList_append, Binary64.Layout.snapshot]
    · simp [String.toList_append]
  · refine Or.inr ?_
    simp [String.toList_append]

theorem mark_mem_renderNumber {x : Binary64} (h : renderNumber (.float x) ≠ "null".toList) :
    '.' ∈ renderNumber (.float x) ∨ 'e' ∈ renderNumber (.float x) := by
  change '.' ∈ (x.render .snapshot).toList ∨ 'e' ∈ (x.render .snapshot).toList
  change (x.render .snapshot).toList ≠ _ at h
  unfold Binary64.render at h ⊢
  by_cases hnan : x.isNaN = true
  · exact absurd (by rw [if_pos hnan]; rfl) h
  by_cases hinfinite : x.isInfinite = true
  · refine absurd ?_ h
    rw [if_neg hnan, if_pos hinfinite]
    split
    · rfl
    · rfl
  rw [if_neg hnan, if_neg hinfinite]
  dsimp only
  generalize hbody : (if x.isZero = true then _ else _ : String) = body
  have hmark : '.' ∈ body.toList ∨ 'e' ∈ body.toList := by
    rw [← hbody]
    split
    · exact Or.inl (by decide)
    · exact mark_mem_digits _ _
  split
  · simpa [String.toList_append] using hmark
  · exact hmark

/-- A numeral of digits alone has neither a point nor an exponent. -/
theorem not_mem_signed {n : Numeral} (h : n.WellFormed) (hfraction : n.fraction = none)
    (hexponent : n.exponent = none) {c : Char} (hc : c.isDigit = false) (hsign : c ≠ '-') :
    c ∉ n.signed := by
  have hwhole : c ∉ n.whole := by
    intro hmem
    rw [h.whole.isDigit c hmem] at hc
    cases hc
  unfold Numeral.signed Numeral.chars
  rw [hfraction, hexponent]
  split <;> simp [Numeral.fractionChars, Numeral.exponentChars, hwhole, hsign]

/-- The text of a floating-point number is never read as an integer. -/
theorem numberSource_float_ne_int (x : Binary64) (m : Int) :
    numberSource (.float x) ≠ .number (some (.int m)) := by
  intro heq
  rcases renderNumber_cases (.float x) with hnull | ⟨n, hformed, hsigned⟩
  · rw [numberSource, hnull] at heq
    cases heq
  · have hvalue : numberSource (.float x) = .number n.value := by
      have halone := readValue_signed hformed ends_nil 0
      rw [List.append_nil] at halone
      rw [numberSource, hsigned, halone]
      rfl
    rw [hvalue] at heq
    refine value_ne_int ?_ m (Source.number.inj heq)
    by_contra hplain
    rw [not_or, not_not, not_not] at hplain
    have hnull : renderNumber (.float x) ≠ "null".toList := by
      intro hnull
      rw [numberSource, hnull] at hvalue
      cases hvalue
    have hmark := mark_mem_renderNumber hnull
    rw [hsigned] at hmark
    rcases hmark with hpoint | hexponent
    · exact not_mem_signed hformed hplain.1 hplain.2 (by decide) (by decide) hpoint
    · exact not_mem_signed hformed hplain.1 hplain.2 (by decide) (by decide) hexponent

end Json

namespace Variable

theorem eq_of_structured {j k : Json} (h : ofJson k = .structured j) : k = j := by
  unfold ofJson at h
  split at h
  · cases h
  · split at h
    · simp at h
    · simp at h
  · cases h
  · cases h
  · exact Variable.structured.inj h

/-- A value that is read from the text of another one and makes the same variable is that one. -/
theorem eq_of_reread {j k : Json} (h : j.Canonical) {levels : Nat}
    (hk : (Json.reread j).toJson? levels = some k) (hsame : ofJson k = ofJson j) : k = j := by
  match j, h with
  | .null, _ => exact (Option.some.inj hk).symm
  | .bool b, _ => exact (Option.some.inj hk).symm
  | .text s, _ => exact (Option.some.inj hk).symm
  | .number (.int n), h =>
    rw [Json.reread, Json.numberSource_of_fits h] at hk
    exact (Option.some.inj hk).symm
  | .number (.float x), _ =>
    match k with
    | .number (.float y) => exact congrArg _ (congrArg _ (Variable.float.inj hsame))
    | .number (.int m) =>
      exact absurd (Json.toJson?_eq_number_iff.mp hk) (Json.numberSource_float_ne_int x m)
  | .array items, _ => exact eq_of_structured hsame
  | .object members, _ => exact eq_of_structured hsame

end Variable

/-- Members that are read and make the same variables as before are the same. -/
theorem Json.eq_of_rereadMembers {levels : Nat} {members read : Table Json}
    (h : Json.CanonicalMembers members) (hread : members.mapM (rereadMember levels) = some read)
    (hsame : read.mapValues Variable.ofJson = members.mapValues Variable.ofJson) :
    read = members := by
  induction members generalizing read with
  | nil => exact (Option.some.inj hread).symm
  | cons member rest ih =>
    obtain ⟨key, j⟩ := member
    rw [List.mapM_cons] at hread
    obtain ⟨first, hfirst, hread⟩ := Option.bind_eq_some_iff.mp hread
    obtain ⟨others, hothers, hread⟩ := Option.bind_eq_some_iff.mp hread
    obtain rfl := Option.some.inj hread
    obtain ⟨k, hk, rfl⟩ := Option.map_eq_some_iff.mp hfirst
    obtain ⟨hhead, htail⟩ := List.cons.inj hsame
    rw [Variable.eq_of_reread h.1 hk (Prod.mk.inj hhead).2, ih h.2 hothers htail]

end Runbook
