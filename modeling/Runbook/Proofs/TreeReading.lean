import Runbook.Proofs.NumberText
import Runbook.Proofs.StringReading

/-!
The indented text of a value is read as a tree of the same shape, with the same strings, whatever
the depth. Reading needs no more fuel than the text has characters.
-/

namespace Runbook.Json

mutual

/-- The tree that the indented text of a value is read as. -/
def reread : Json → Source
  | .null => .null
  | .bool b => .bool b
  | .number n => numberSource n
  | .text s => .text (some s)
  | .array items => .array (rereadItems items)
  | .object members => .object (rereadMembers members)

def rereadItems : List Json → List Source
  | [] => []
  | j :: rest => reread j :: rereadItems rest

def rereadMembers : List (String × Json) → List (Option String × Source)
  | [] => []
  | (k, j) :: rest => (some k, reread j) :: rereadMembers rest

end

/-- The text of a value is read up to its end, at any depth. -/
def ReadsAs (j : Json) : Prop :=
  ∀ depth rest fuel, Ends rest → (indented depth j ++ rest).length < fuel →
    readValue fuel (indented depth j ++ rest) = some (reread j, rest)

theorem skipSpace_cons {c : Char} (hc : isSpace c = false) (rest : List Char) :
    skipSpace (c :: rest) = c :: rest := by
  simp [skipSpace, hc]

theorem skipSpace_newline (depth : Nat) (s : List Char) :
    skipSpace (newline depth ++ s) = skipSpace s := by
  unfold skipSpace
  apply List.dropWhile_append_of_pos
  intro c hc
  rcases List.mem_cons.mp hc with rfl | hspace
  · decide
  · rw [List.eq_of_mem_replicate hspace]
    decide

/-- Only what follows white space matters to the readers. -/
theorem readValue_congr {s t : List Char} (h : skipSpace s = skipSpace t) (fuel : Nat) :
    readValue fuel s = readValue fuel t := by
  cases fuel with
  | zero => rw [readValue, readValue]
  | succ fuel => rw [readValue, readValue, h]

theorem readItems_congr {s t : List Char} (h : skipSpace s = skipSpace t) (fuel : Nat) :
    readItems fuel s = readItems fuel t := by
  cases fuel with
  | zero => rw [readItems, readItems]
  | succ fuel => rw [readItems, readItems, readValue_congr h]

theorem readMembers_congr {s t : List Char} (h : skipSpace s = skipSpace t) (fuel : Nat) :
    readMembers fuel s = readMembers fuel t := by
  cases fuel with
  | zero => rw [readMembers, readMembers]
  | succ fuel => rw [readMembers, readMembers, h]

theorem quote_append (s : String) (rest : List Char) :
    quote s ++ rest = '"' :: (s.toList.flatMap escapeChar ++ '"' :: rest) := by
  simp [quote]

theorem ends_newline (depth : Nat) (s : List Char) : Ends (newline depth ++ s) :=
  ends_cons (by decide)

/-- What stands behind an item: the next one, or the closing bracket. -/
theorem ends_indentedItems (depth outer : Nat) (items : List Json) (rest : List Char) :
    Ends (indentedItems depth items ++ (newline outer ++ rest)) := by
  cases items with
  | nil => exact ends_newline outer rest
  | cons j items => exact ends_cons (by decide)

theorem ends_indentedMembers (depth outer : Nat) (members : List (String × Json))
    (rest : List Char) : Ends (indentedMembers depth members ++ (newline outer ++ rest)) := by
  cases members with
  | nil => exact ends_newline outer rest
  | cons member members => exact ends_cons (by decide)

/-- The items of an array, the first of which stands without a comma. -/
theorem readItems_indented {j : Json} (hj : ReadsAs j) {items : List Json}
    (hitems : ∀ k ∈ items, ReadsAs k) (depth outer : Nat) (rest : List Char) (fuel : Nat)
    (hfuel : (indented depth j ++ (indentedItems depth items ++
      (newline outer ++ ']' :: rest))).length + 1 < fuel) :
    readItems fuel (indented depth j ++ (indentedItems depth items ++
      (newline outer ++ ']' :: rest))) = some (reread j :: rereadItems items, rest) := by
  induction items generalizing j fuel with
  | nil =>
    obtain ⟨fuel, rfl⟩ : ∃ n, fuel = n + 1 := ⟨fuel - 1, by omega⟩
    have hfirst := hj depth _ fuel (ends_indentedItems depth outer [] (']' :: rest)) (by omega)
    have hclose : skipSpace (indentedItems depth [] ++ (newline outer ++ ']' :: rest)) =
        ']' :: rest := by
      rw [indentedItems, List.nil_append, skipSpace_newline]
      exact skipSpace_cons (by decide) rest
    rw [readItems, hfirst]
    simp only [Option.bind_eq_bind, Option.bind_some, hclose]
    rfl
  | cons k items ih =>
    obtain ⟨fuel, rfl⟩ : ∃ n, fuel = n + 1 := ⟨fuel - 1, by omega⟩
    have hfirst := hj depth _ fuel (ends_indentedItems depth outer (k :: items) (']' :: rest))
      (by omega)
    have hcomma : indentedItems depth (k :: items) ++ (newline outer ++ ']' :: rest) =
        ',' :: (newline depth ++ (indented depth k ++ (indentedItems depth items ++
          (newline outer ++ ']' :: rest)))) := by
      simp only [indentedItems, List.cons_append, List.append_assoc]
    have hnext := ih (hitems k List.mem_cons_self)
      (fun other hother => hitems other (List.mem_cons_of_mem _ hother)) fuel (by
        rw [hcomma] at hfuel
        simp only [List.length_append, List.length_cons] at hfuel ⊢
        omega)
    rw [readItems, hfirst]
    simp only [Option.bind_eq_bind, Option.bind_some, hcomma,
      skipSpace_cons (by decide : isSpace ',' = false), readItems_congr (skipSpace_newline depth _), hnext]
    rfl

/-- The members of an object, the first of which stands without a comma. -/
theorem readMembers_indented {j : Json} (hj : ReadsAs j) {members : List (String × Json)}
    (hmembers : ∀ member ∈ members, ReadsAs member.2) (key : String) (depth outer : Nat)
    (rest : List Char) (fuel : Nat)
    (hfuel : (quote key ++ (':' :: ' ' :: (indented depth j ++ (indentedMembers depth members ++
      (newline outer ++ '\x7d' :: rest))))).length + 1 < fuel) :
    readMembers fuel (quote key ++ (':' :: ' ' :: (indented depth j ++
      (indentedMembers depth members ++ (newline outer ++ '\x7d' :: rest))))) =
        some ((some key, reread j) :: rereadMembers members, rest) := by
  induction members generalizing j key fuel with
  | nil =>
    obtain ⟨fuel, rfl⟩ : ∃ n, fuel = n + 1 := ⟨fuel - 1, by omega⟩
    have hfirst := hj depth _ fuel (ends_indentedMembers depth outer [] ('\x7d' :: rest)) (by
      simp only [List.length_append, List.length_cons] at hfuel ⊢
      omega)
    have hclose : skipSpace (indentedMembers depth [] ++ (newline outer ++ '\x7d' :: rest)) =
        '\x7d' :: rest := by
      rw [indentedMembers, List.nil_append, skipSpace_newline]
      exact skipSpace_cons (by decide) rest
    have hspace : ∀ s, skipSpace (' ' :: s) = skipSpace s := fun s => rfl
    rw [readMembers, quote_append, skipSpace_cons (by decide)]
    simp only [readText_escaped, Option.bind_eq_bind, Option.bind_some,
      skipSpace_cons (by decide : isSpace ':' = false), readValue_congr (hspace _), hfirst, hclose]
    rfl
  | cons member members ih =>
    obtain ⟨next, k⟩ := member
    obtain ⟨fuel, rfl⟩ : ∃ n, fuel = n + 1 := ⟨fuel - 1, by omega⟩
    have hfirst := hj depth _ fuel
      (ends_indentedMembers depth outer ((next, k) :: members) ('\x7d' :: rest)) (by
        simp only [List.length_append, List.length_cons] at hfuel ⊢
        omega)
    have hcomma :
        indentedMembers depth ((next, k) :: members) ++ (newline outer ++ '\x7d' :: rest) =
        ',' :: (newline depth ++ (quote next ++ (':' :: ' ' :: (indented depth k ++
          (indentedMembers depth members ++ (newline outer ++ '\x7d' :: rest)))))) := by
      simp only [indentedMembers, List.cons_append, List.append_assoc, List.nil_append]
    have hnext := ih (hmembers (next, k) List.mem_cons_self)
      (fun other hother => hmembers other (List.mem_cons_of_mem _ hother)) next fuel (by
        rw [hcomma] at hfuel
        simp only [List.length_append, List.length_cons] at hfuel ⊢
        omega)
    have hspace : ∀ s, skipSpace (' ' :: s) = skipSpace s := fun s => rfl
    rw [hcomma] at hfirst
    rw [hcomma, readMembers, quote_append, skipSpace_cons (by decide)]
    simp only [readText_escaped, Option.bind_eq_bind, Option.bind_some,
      skipSpace_cons (by decide : isSpace ':' = false), readValue_congr (hspace _), hfirst,
      skipSpace_cons (by decide : isSpace ',' = false),
      readMembers_congr (skipSpace_newline depth _), hnext]
    rfl

theorem readsAs_text (s : String) : ReadsAs (.text s) := by
  intro depth rest fuel hrest hfuel
  obtain ⟨fuel, rfl⟩ : ∃ n, fuel = n + 1 := ⟨fuel - 1, by omega⟩
  rw [indented, quote_append, readValue, skipSpace_cons (by decide)]
  simp only [readText_escaped, Option.map_some]
  rfl

theorem readsAs_number (n : Number) : ReadsAs (.number n) := by
  intro depth rest fuel hrest hfuel
  obtain ⟨fuel, rfl⟩ : ∃ n, fuel = n + 1 := ⟨fuel - 1, by omega⟩
  exact readValue_renderNumber n hrest fuel

/-- The text of a value does not begin like white space or the end of an array or object. -/
theorem indented_head (j : Json) (depth : Nat) : ∃ c more, indented depth j = c :: more ∧
    isSpace c = false ∧ c ≠ ']' ∧ c ≠ '\x7d' := by
  cases j with
  | null => exact ⟨_, _, rfl, by decide⟩
  | bool b => cases b <;> exact ⟨_, _, rfl, by decide⟩
  | number n =>
    rcases renderNumber_cases n with hnull | ⟨numeral, hformed, heq⟩
    · exact ⟨_, _, hnull, by decide⟩
    · cases hn : numeral.negative with
      | true =>
        refine ⟨'-', numeral.chars, ?_, by decide⟩
        rw [indented, heq, Numeral.signed, hn]
        rfl
      | false =>
        obtain ⟨c, more, hwhole⟩ := List.exists_cons_of_ne_nil hformed.whole.ne_nil
        have hc : c.isDigit = true :=
          hformed.whole.isDigit c (by rw [hwhole]; exact List.mem_cons_self)
        have hne : ∀ d : Char, d.isDigit = false → c ≠ d := by
          rintro d hd rfl
          simp [hd] at hc
        refine ⟨c, more ++ Numeral.fractionChars numeral.fraction ++
          Numeral.exponentChars numeral.exponent, ?_, ?_, hne ']' (by decide),
          hne '\x7d' (by decide)⟩
        · rw [indented, heq, Numeral.signed, hn]
          simp [Numeral.chars, hwhole]
        · simp [isSpace, hne ' ' (by decide), hne '\n' (by decide), hne '\t' (by decide),
            hne '\r' (by decide)]
  | text s => exact ⟨_, _, by rw [indented, quote, List.cons_append], by decide⟩
  | array items =>
    cases items with
    | nil => exact ⟨_, _, by rw [indented], by decide⟩
    | cons j items => exact ⟨_, _, by rw [indented]; rfl, by decide⟩
  | object members =>
    cases members with
    | nil => exact ⟨_, _, by rw [indented], by decide⟩
    | cons member members => exact ⟨_, _, by rw [indented]; rfl, by decide⟩

theorem readValue_bracket (fuel : Nat) {s : List Char}
    (h : ∀ rest, skipSpace s ≠ ']' :: rest) : readValue (fuel + 1) ('[' :: s) =
      (readItems fuel (skipSpace s)).map (Prod.map .array id) := by
  rw [readValue, skipSpace_cons (by decide)]
  conv => lhs; whnf
  split
  · next rest heq => exact absurd heq (h rest)
  · rfl

theorem readValue_brace (fuel : Nat) {s : List Char}
    (h : ∀ rest, skipSpace s ≠ '\x7d' :: rest) : readValue (fuel + 1) ('\x7b' :: s) =
      (readMembers fuel (skipSpace s)).map (Prod.map .object id) := by
  rw [readValue, skipSpace_cons (by decide)]
  conv => lhs; whnf
  split
  · next rest heq => exact absurd heq (h rest)
  · rfl

theorem readsAs_array {items : List Json} (h : ∀ j ∈ items, ReadsAs j) :
    ReadsAs (.array items) := by
  intro depth rest fuel hrest hfuel
  obtain ⟨fuel, rfl⟩ : ∃ n, fuel = n + 1 := ⟨fuel - 1, by omega⟩
  cases items with
  | nil =>
    rw [indented, readValue]
    rfl
  | cons j items =>
    have htext : indented depth (.array (j :: items)) ++ rest =
        '[' :: (newline (depth + 1) ++ (indented (depth + 1) j ++
          (indentedItems (depth + 1) items ++ (newline depth ++ ']' :: rest)))) := by
      simp only [indented, List.cons_append, List.append_assoc, List.nil_append]
    obtain ⟨c, more, hhead, hspace, hclose, -⟩ := indented_head j (depth + 1)
    have hskip : skipSpace (newline (depth + 1) ++ (indented (depth + 1) j ++
        (indentedItems (depth + 1) items ++ (newline depth ++ ']' :: rest)))) =
        indented (depth + 1) j ++ (indentedItems (depth + 1) items ++
          (newline depth ++ ']' :: rest)) := by
      rw [skipSpace_newline, hhead, List.cons_append, skipSpace_cons hspace]
    have hread := readItems_indented (h j List.mem_cons_self)
      (fun k hk => h k (List.mem_cons_of_mem _ hk)) (depth + 1) depth rest fuel (by
        rw [htext] at hfuel
        simp only [newline, List.length_append, List.length_cons] at hfuel ⊢
        omega)
    rw [htext, readValue_bracket, hskip, hread]
    · rfl
    · intro after heq
      rw [hskip, hhead, List.cons_append] at heq
      exact hclose (List.cons.inj heq).1

theorem readsAs_object {members : List (String × Json)} (h : ∀ member ∈ members, ReadsAs member.2) :
    ReadsAs (.object members) := by
  intro depth rest fuel hrest hfuel
  obtain ⟨fuel, rfl⟩ : ∃ n, fuel = n + 1 := ⟨fuel - 1, by omega⟩
  cases members with
  | nil =>
    rw [indented, readValue]
    rfl
  | cons member members =>
    obtain ⟨key, j⟩ := member
    have htext : indented depth (.object ((key, j) :: members)) ++ rest =
        '\x7b' :: (newline (depth + 1) ++ (quote key ++ (':' :: ' ' :: (indented (depth + 1) j ++
          (indentedMembers (depth + 1) members ++ (newline depth ++ '\x7d' :: rest)))))) := by
      simp only [indented, List.cons_append, List.append_assoc, List.nil_append]
    have hskip : ∀ s, skipSpace (newline (depth + 1) ++ (quote key ++ s)) = quote key ++ s := by
      intro s
      rw [skipSpace_newline, quote_append, skipSpace_cons (by decide)]
    have hread := readMembers_indented (h (key, j) List.mem_cons_self)
      (fun other hother => h other (List.mem_cons_of_mem _ hother)) key (depth + 1) depth rest
      fuel (by
        rw [htext] at hfuel
        simp only [newline, List.length_append, List.length_cons] at hfuel ⊢
        omega)
    rw [htext, readValue_brace, hskip, hread]
    · rfl
    · intro after heq
      rw [hskip, quote_append] at heq
      simp at heq

mutual

/-- By recursion on the value, one case for each kind of it. -/
theorem readsAs : ∀ j : Json, ReadsAs j
  | .null => by
    intro depth rest fuel hrest hfuel
    obtain ⟨fuel, rfl⟩ : ∃ n, fuel = n + 1 := ⟨fuel - 1, by omega⟩
    rfl
  | .bool b => by
    intro depth rest fuel hrest hfuel
    obtain ⟨fuel, rfl⟩ : ∃ n, fuel = n + 1 := ⟨fuel - 1, by omega⟩
    cases b <;> rfl
  | .number n => readsAs_number n
  | .text s => readsAs_text s
  | .array items => readsAs_array (readsAs_items items)
  | .object members => readsAs_object (readsAs_members members)

theorem readsAs_items : ∀ items : List Json, ∀ j ∈ items, ReadsAs j
  | [], j, hj => absurd hj List.not_mem_nil
  | first :: rest, j, hj => by
    rcases List.mem_cons.mp hj with heq | hrest
    · rw [heq]
      exact readsAs first
    · exact readsAs_items rest j hrest

theorem readsAs_members : ∀ members : List (String × Json), ∀ member ∈ members, ReadsAs member.2
  | [], member, hmember => absurd hmember List.not_mem_nil
  | (key, j) :: rest, member, hmember => by
    rcases List.mem_cons.mp hmember with heq | hrest
    · rw [heq]
      exact readsAs j
    · exact readsAs_members rest member hrest

end

/-- The text of a whole value is read to its end. -/
theorem read_render (j : Json) : Source.read j.render = some (reread j) := by
  have hread := readsAs j 0 [] (indented 0 j).length.succ ends_nil (by simp)
  rw [List.append_nil] at hread
  unfold Source.read render
  rw [String.toList_ofList]
  dsimp only
  rw [hread]
  rfl

end Runbook.Json
