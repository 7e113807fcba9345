import Mathlib.Data.List.DropRight
import Mathlib.Data.List.TakeWhile
import Runbook.Text.Blank

/-!
Patterns that a line is matched with, each a row of pieces. A piece takes a run of characters of
one kind, and a pattern matches a line when its pieces together take all of it. Where that can be
done in several ways, the choice of an earlier piece goes before those of later ones. There is a
lemma for every way in which a run can end: at a mark, at the end of the line, or one character
early, because the rest of the pattern needs that. A text is searched for a pattern from the left,
and behind each match from its end on.
-/

namespace Runbook.Document

open Text

/-- A run of characters of one kind, as long as can be, or as short as can be if it is `lazy`. -/
structure Piece where
  accepts : Char → Bool
  least : Nat
  most : Option Nat
  lazy : Bool
  captured : Bool

namespace Piece

/-- The most characters that the piece can take at the front of a text. -/
def longest (p : Piece) (s : List Char) : Nat :=
  let run := (s.takeWhile p.accepts).length
  p.most.elim run (min run)

/-- How many characters the piece can take, the first choice first. -/
def lengths (p : Piece) (s : List Char) : List Nat :=
  let ascending := List.range' p.least (p.longest s + 1 - p.least)
  if p.lazy then ascending else ascending.reverse

end Piece

/-- What the captured pieces of a pattern take when the pattern matches a text. -/
def captures : List Piece → List Char → Option (List (List Char))
  | [], s => if s = [] then some [] else none
  | p :: rest, s => (p.lengths s).findSome? fun n =>
      (captures rest (s.drop n)).map fun found => if p.captured then s.take n :: found else found

def one (c : Char) : Piece := ⟨(· == c), 1, some 1, false, false⟩

def literal (word : String) : List Piece := word.toList.map one

/-- White space, if there is any. -/
def blanks : Piece := ⟨isBlank, 0, none, false, false⟩

def isInline (c : Char) : Bool := c ≠ '\n'

/-- What stands between white space; none of it may be there. -/
def content : Piece := ⟨isInline, 0, none, true, true⟩

def hashes : Piece := ⟨(· == '#'), 0, none, false, false⟩

/-- Every captured piece of a pattern takes something. -/
theorem length_captures {pieces : List Piece} {s : List Char} {found : List (List Char)}
    (h : captures pieces s = some found) : found.length = pieces.countP (·.captured) := by
  induction pieces generalizing s found with
  | nil =>
    rw [captures] at h
    split at h
    · obtain rfl := Option.some.inj h
      rfl
    · cases h
  | cons p pieces ih =>
    obtain ⟨n, -, hn⟩ := List.exists_of_findSome?_eq_some h
    obtain ⟨rest, hrest, rfl⟩ := Option.map_eq_some_iff.mp hn
    have hlength := ih hrest
    by_cases hcaptured : p.captured = true
    · simp [hcaptured, hlength]
    · simp [hcaptured, hlength]

section Choice

variable {p : Piece} {rest : List Piece} {s : List Char} {found : List (List Char)} {k : Nat}

theorem mem_lengths {n : Nat} : n ∈ p.lengths s ↔ p.least ≤ n ∧ n ≤ p.longest s := by
  unfold Piece.lengths
  split
  · simp only [List.mem_range'_1]
    omega
  · simp only [List.mem_reverse, List.mem_range'_1]
    omega

theorem captures_eq_none
    (h : ∀ n, p.least ≤ n → n ≤ p.longest s → captures rest (s.drop n) = none) :
    captures (p :: rest) s = none := by
  rw [captures, List.findSome?_eq_none_iff]
  intro n hn
  obtain ⟨hleast, hlongest⟩ := mem_lengths.mp hn
  rw [h n hleast hlongest, Option.map_none]

/-- Where a piece cannot take as much as it has to, nothing is captured. -/
theorem captures_of_short (h : p.longest s < p.least) : captures (p :: rest) s = none :=
  captures_eq_none fun _ hleast hlongest =>
    absurd (Nat.le_trans hleast hlongest) (Nat.not_le_of_lt h)

theorem range'_split {first count : Nat} (hfirst : first ≤ k) (hlast : k < first + count) :
    List.range' first count =
      List.range' first (k - first) ++ k :: List.range' (k + 1) (first + count - (k + 1)) := by
  have hcount : count = (k - first) + (first + count - (k + 1) + 1) := by omega
  have hk : first + (k - first) = k := by omega
  calc List.range' first count
      = List.range' first ((k - first) + (first + count - (k + 1) + 1)) := by rw [← hcount]
    _ = _ := by rw [← List.range'_append_1, hk, List.range'_succ]

/-- The first of several numbers for which something is found. -/
theorem findSome?_range' {α : Type} {f : Nat → Option α} {a : α} {first count : Nat}
    (hfirst : first ≤ k) (hlast : k < first + count) (hk : f k = some a)
    (hbefore : ∀ n, first ≤ n → n < k → f n = none) :
    (List.range' first count).findSome? f = some a := by
  rw [List.findSome?_eq_some_iff]
  refine ⟨_, k, _, range'_split hfirst hlast, hk, fun n hn => ?_⟩
  rw [List.mem_range'_1] at hn
  exact hbefore n hn.1 (by omega)

/-- The last of several numbers for which something is found. -/
theorem findSome?_reverse_range' {α : Type} {f : Nat → Option α} {a : α} {first count : Nat}
    (hfirst : first ≤ k) (hlast : k < first + count) (hk : f k = some a)
    (hafter : ∀ n, k < n → n < first + count → f n = none) :
    (List.range' first count).reverse.findSome? f = some a := by
  rw [List.findSome?_eq_some_iff]
  refine ⟨(List.range' (k + 1) (first + count - (k + 1))).reverse, k,
    (List.range' first (k - first)).reverse, ?_, hk, fun n hn => ?_⟩
  · rw [range'_split hfirst hlast]
    simp
  · rw [List.mem_reverse, List.mem_range'_1] at hn
    exact hafter n (by omega) (by omega)

/-- A piece takes `k` characters when that is the first choice which lets the rest match. -/
theorem captures_eq_some (hleast : p.least ≤ k) (hlongest : k ≤ p.longest s)
    (hrest : captures rest (s.drop k) = some found)
    (hothers : ∀ n, p.least ≤ n → n ≤ p.longest s → (if p.lazy then n < k else k < n) →
      captures rest (s.drop n) = none) :
    captures (p :: rest) s = some (if p.captured then s.take k :: found else found) := by
  have hk : ((captures rest (s.drop k)).map fun found =>
      if p.captured then s.take k :: found else found) =
      some (if p.captured then s.take k :: found else found) := by
    rw [hrest, Option.map_some]
  have hnone : ∀ n, p.least ≤ n → n ≤ p.longest s → (if p.lazy then n < k else k < n) →
      ((captures rest (s.drop n)).map fun found =>
        if p.captured then s.take n :: found else found) = none := by
    intro n hn hn' hchoice
    rw [hothers n hn hn' hchoice, Option.map_none]
  rw [captures, Piece.lengths]
  cases hlazy : p.lazy with
  | true =>
    rw [if_pos rfl]
    refine findSome?_range' hleast (by omega) hk fun n hn hlt => ?_
    exact hnone n hn (by omega) (by simpa [hlazy] using hlt)
  | false =>
    rw [if_neg (by simp)]
    refine findSome?_reverse_range' hleast (by omega) hk fun n hlt hn => ?_
    exact hnone n (by omega) (by omega) (by simpa [hlazy] using hlt)

end Choice

section Pieces

variable {rest : List Piece} {s : List Char}

@[simp] theorem captures_one_nil (c : Char) : captures (one c :: rest) [] = none := rfl

/-- A piece of one character takes the first one, if that is of its kind. -/
theorem captures_single_cons (q : Char → Bool) (d : Char) :
    captures (⟨q, 1, some 1, false, false⟩ :: rest) (d :: s) =
      if q d then captures rest s else none := by
  by_cases hd : q d = true
  · have hlongest : (⟨q, 1, some 1, false, false⟩ : Piece).longest (d :: s) = 1 := by
      simp [Piece.longest, hd]
    rw [if_pos hd]
    cases hrest : captures rest s with
    | none =>
      refine captures_eq_none fun n hn hn' => ?_
      obtain rfl : n = 1 := Nat.le_antisymm (hlongest ▸ hn') hn
      exact hrest
    | some found =>
      refine (captures_eq_some (k := 1) (Nat.le_refl 1) (Nat.le_of_eq hlongest.symm) hrest ?_)
      intro n hn hn' hlt
      have h1 : n ≤ 1 := hlongest ▸ hn'
      have h2 : 1 < n := hlt
      omega
  · have hlongest : (⟨q, 1, some 1, false, false⟩ : Piece).longest (d :: s) = 0 := by
      simp [Piece.longest, hd]
    rw [if_neg hd]
    exact captures_of_short (hlongest ▸ Nat.zero_lt_one)

@[simp] theorem captures_one_cons (c d : Char) :
    captures (one c :: rest) (d :: s) = if d = c then captures rest s else none := by
  have hsingle : captures (one c :: rest) (d :: s) = if d == c then captures rest s else none :=
    captures_single_cons (· == c) d
  simpa only [beq_iff_eq] using hsingle

theorem captures_one_eq_some_iff {c : Char} {found : List (List Char)} :
    captures (one c :: rest) s = some found ↔ ∃ t, s = c :: t ∧ captures rest t = some found := by
  cases s with
  | nil => simp
  | cons d s =>
    rw [captures_one_cons]
    by_cases hd : d = c
    · simp [hd]
    · simp [hd]

theorem captures_literal (word : String) :
    captures (literal word ++ rest) s = (stripPrefix? word.toList s).bind (captures rest) := by
  unfold literal
  induction word.toList generalizing s with
  | nil => simp [stripPrefix?]
  | cons c word ih =>
    cases s with
    | nil => simp [stripPrefix?]
    | cons d s =>
      rw [List.map_cons, List.cons_append, captures_one_cons, ih]
      by_cases hd : d = c
      · subst hd
        simp [stripPrefix?]
      · simp [stripPrefix?, hd, Ne.symm hd]

theorem drop_takeWhile_length (q : Char → Bool) (s : List Char) :
    s.drop (s.takeWhile q).length = s.dropWhile q := by
  have hsplit : s.takeWhile q ++ s.dropWhile q = s := List.takeWhile_append_dropWhile
  have hdrop : (s.takeWhile q ++ s.dropWhile q).drop (s.takeWhile q).length = s.dropWhile q :=
    List.drop_left
  rwa [hsplit] at hdrop

/-- Before the end of a run there is one more character of its kind. -/
theorem exists_cons_of_lt_run {q : Char → Bool} {n : Nat} (h : n < (s.takeWhile q).length) :
    ∃ c t, s.drop n = c :: t ∧ q c = true := by
  have hlength : n < s.length := Nat.lt_of_lt_of_le h (List.takeWhile_prefix q).length_le
  refine ⟨s[n], s.drop (n + 1), List.drop_eq_getElem_cons hlength, ?_⟩
  have hget : (s.takeWhile q)[n] = s[n] := (List.takeWhile_prefix q).getElem h
  rw [← hget]
  exact (List.mem_takeWhile_imp (List.getElem_mem h))

/-- A run is taken whole if the rest of the pattern matches after it. -/
theorem captures_run_some {q : Char → Bool} {least : Nat} {rest : List Piece}
    {found : List (List Char)} (hleast : least ≤ (s.takeWhile q).length)
    (h : captures rest (s.dropWhile q) = some found) :
    captures (⟨q, least, none, false, false⟩ :: rest) s = some found := by
  rw [← drop_takeWhile_length] at h
  refine captures_eq_some (k := (s.takeWhile q).length) hleast (Nat.le_refl _) h ?_
  intro n _ hn hlt
  exact absurd (show n ≤ (s.takeWhile q).length from hn) (Nat.not_le.mpr hlt)

/-- A run gives its last character back if the rest of the pattern needs it. -/
theorem captures_give_back {q : Char → Bool} {least k : Nat} {rest : List Piece}
    {found : List (List Char)} (hrun : (s.takeWhile q).length = k + 1) (hleast : least ≤ k)
    (hwhole : captures rest (s.drop (k + 1)) = none)
    (hlast : captures rest (s.drop k) = some found) :
    captures (⟨q, least, none, false, false⟩ :: rest) s = some found := by
  have hlongest : k ≤ (s.takeWhile q).length := by omega
  refine captures_eq_some (k := k) hleast hlongest hlast ?_
  intro n _ hn hlt
  have hle : n ≤ (s.takeWhile q).length := hn
  have hlt : k < n := hlt
  obtain rfl : n = k + 1 := by omega
  exact hwhole

/-- A run is taken whole if the rest of the pattern cannot begin within it. -/
theorem captures_run {q : Char → Bool} {rest : List Piece}
    (h : ∀ n, n < (s.takeWhile q).length → captures rest (s.drop n) = none) :
    captures (⟨q, 0, none, false, false⟩ :: rest) s = captures rest (s.dropWhile q) := by
  cases hrest : captures rest (s.dropWhile q) with
  | some found => exact captures_run_some (Nat.zero_le _) hrest
  | none =>
    rw [← drop_takeWhile_length] at hrest
    refine captures_eq_none fun n _ hn => ?_
    rcases Nat.lt_or_eq_of_le (show n ≤ (s.takeWhile q).length from hn) with hlt | rfl
    · exact h n hlt
    · exact hrest

/-- A captured run ends where a mark stands that is not of its kind. -/
theorem captures_run_one_eq_some_iff {q : Char → Bool} {c : Char} (hc : q c = false)
    {found : List (List Char)} :
    captures (⟨q, 0, none, false, true⟩ :: one c :: rest) s = some found ↔
      ∃ run t more, (∀ d ∈ run, q d = true) ∧ s = run ++ c :: t ∧ captures rest t = some more ∧
        found = run :: more := by
  constructor
  · intro h
    obtain ⟨n, hn, hcaptured⟩ := List.exists_of_findSome?_eq_some h
    obtain ⟨more, hmore, rfl⟩ := Option.map_eq_some_iff.mp hcaptured
    obtain ⟨t, ht, hrest⟩ := captures_one_eq_some_iff.mp hmore
    have hlongest : n ≤ (s.takeWhile q).length := (mem_lengths.mp hn).2
    refine ⟨s.take n, t, more, fun d hd => ?_, ?_, hrest, rfl⟩
    · have hinitial : s.take n <+: s.takeWhile q :=
        List.prefix_of_prefix_length_le (List.take_prefix n s) (List.takeWhile_prefix q)
          (Nat.le_trans (List.length_take_le n s) hlongest)
      exact List.mem_takeWhile_imp (hinitial.subset hd)
    · rw [← ht, List.take_append_drop]
  · rintro ⟨run, t, more, hrun, rfl, hrest, rfl⟩
    have hwhole : (run ++ c :: t).takeWhile q = run := by
      rw [List.takeWhile_append_of_pos hrun, List.takeWhile_cons_of_neg (by simp [hc]),
        List.append_nil]
    have hafter : captures (one c :: rest) ((run ++ c :: t).drop run.length) = some more := by
      rw [List.drop_left, captures_one_eq_some_iff]
      exact ⟨t, rfl, hrest⟩
    have hlongest : (⟨q, 0, none, false, true⟩ : Piece).longest (run ++ c :: t) = run.length :=
      congrArg List.length hwhole
    rw [captures_eq_some (k := run.length) (Nat.zero_le _) (Nat.le_of_eq hlongest.symm) hafter
      fun n _ hn hlt => absurd (hlongest ▸ hn) (Nat.not_le.mpr hlt), List.take_left]
    rfl

/-- White space ends where a mark stands. -/
theorem captures_blanks_one {c : Char} (hc : isBlank c = false) :
    captures (blanks :: one c :: rest) s = captures (one c :: rest) (trimStart s) := by
  refine captures_run fun n hn => ?_
  obtain ⟨d, t, hdrop, hd⟩ := exists_cons_of_lt_run hn
  have hne : d ≠ c := by
    rintro rfl
    simp [hc] at hd
  rw [hdrop, captures_one_cons, if_neg hne]

/-- A run alone takes a text that has no other characters. -/
theorem captures_all (q : Char → Bool) :
    captures [⟨q, 0, none, false, false⟩] s = if s.all q then some [] else none := by
  have hrun : captures [⟨q, 0, none, false, false⟩] s = captures [] (s.dropWhile q) := by
    refine captures_run fun n hn => ?_
    obtain ⟨d, t, hdrop, -⟩ := exists_cons_of_lt_run hn
    rw [hdrop]
    rfl
  rw [hrun]
  simp only [captures, List.dropWhile_eq_nil_iff, List.all_eq_true]

theorem captures_blanks : captures [blanks] s = if isBlankText s then some [] else none :=
  captures_all isBlank

theorem captures_hashes_blanks :
    captures [hashes, blanks] s =
      if isBlankText (s.dropWhile (· == '#')) then some [] else none := by
  have hrun : captures [hashes, blanks] s = captures [blanks] (s.dropWhile (· == '#')) := by
    refine captures_run fun n hn => ?_
    obtain ⟨c, t, hdrop, hc⟩ := exists_cons_of_lt_run hn
    obtain rfl : c = '#' := by simpa using hc
    rw [hdrop, captures_blanks, if_neg]
    simp [isBlankText, isBlank]
  rw [hrun, captures_blanks]

/-- Without its mark a pattern does not match. -/
theorem captures_of_not_mem {c : Char} {pieces : List Piece} (hc : one c ∈ pieces) (hs : c ∉ s) :
    captures pieces s = none := by
  induction pieces generalizing s with
  | nil => simp at hc
  | cons p pieces ih =>
    rcases List.mem_cons.mp hc with rfl | hmem
    · cases s with
      | nil => rfl
      | cons d s =>
        have hd : d ≠ c := fun h => hs (h ▸ List.mem_cons_self)
        rw [captures_one_cons, if_neg hd]
    · exact captures_eq_none fun n _ _ => ih hmem fun h => hs (List.mem_of_mem_drop h)

end Pieces

/-! The matches of a pattern in a text, from the left. -/

section Search

/-- All that stands behind a match. -/
def remainder : Piece := ⟨fun _ => true, 0, none, false, true⟩

/-- What a pattern captures at the front of a text, and after that the rest of the text. -/
def capturesFront (pieces : List Piece) (s : List Char) : Option (List (List Char)) :=
  captures (pieces ++ [remainder]) s

/-- What a pattern captures in a text: at the first place where it matches, and then at the first
one behind that match. It is for patterns that take at least one character. -/
def allCaptures (pieces : List Piece) (s : List Char) : List (List (List Char)) :=
  match s with
  | [] => []
  | c :: rest =>
      match capturesFront pieces (c :: rest) with
      | none => allCaptures pieces rest
      | some found =>
          if (found.getLast?.getD []).length ≤ rest.length then
            found.dropLast :: allCaptures pieces (found.getLast?.getD [])
          else allCaptures pieces rest
termination_by s.length

theorem captures_remainder (s : List Char) : captures [remainder] s = some [s] := by
  have hwhole : s.takeWhile (fun _ => true) = s := List.takeWhile_eq_self_iff.mpr fun _ _ => rfl
  have hlongest : remainder.longest s = s.length := congrArg List.length hwhole
  have hend : captures [] (s.drop s.length) = some [] := by
    rw [List.drop_length]
    rfl
  rw [captures_eq_some (k := s.length) (Nat.zero_le _) (Nat.le_of_eq hlongest.symm) hend
    fun n _ hn hlt => absurd (hlongest ▸ hn) (Nat.not_le.mpr hlt), List.take_length]
  rfl

theorem allCaptures_miss {pieces : List Piece} {c : Char} {rest : List Char}
    (h : capturesFront pieces (c :: rest) = none) :
    allCaptures pieces (c :: rest) = allCaptures pieces rest := by
  rw [allCaptures, h]

theorem allCaptures_match {pieces : List Piece} {s behind : List Char} {found : List (List Char)}
    (h : capturesFront pieces s = some (found ++ [behind])) (hlength : behind.length < s.length) :
    allCaptures pieces s = found :: allCaptures pieces behind := by
  cases s with
  | nil => simp at hlength
  | cons c rest =>
    have hle : behind.length ≤ rest.length := Nat.le_of_lt_succ hlength
    rw [allCaptures, h]
    simp [hle]

end Search

/-! What is left of a line when a run of characters at its end is cut off. -/

section Ends

variable {q : Char → Bool} {s : List Char} {n : Nat}

theorem all_drop_iff : (s.drop n).all q = true ↔ (s.rdropWhile q).length ≤ n := by
  induction s using List.reverseRecOn with
  | nil => simp
  | append_singleton s c ih =>
    by_cases hn : s.length < n
    · have hlength : ((s ++ [c]).rdropWhile q).length ≤ (s ++ [c]).length :=
        (List.rdropWhile_prefix q (s ++ [c])).length_le
      have hdrop : (s ++ [c]).drop n = [] := by
        rw [List.drop_eq_nil_iff, List.length_append, List.length_singleton]
        omega
      rw [hdrop, List.all_nil]
      rw [List.length_append, List.length_singleton] at hlength
      exact iff_of_true rfl (by omega)
    · rw [List.drop_append_of_le_length (Nat.le_of_not_lt hn), List.all_append, Bool.and_eq_true,
        ih]
      by_cases hc : q c = true
      · rw [List.rdropWhile_concat_pos _ _ _ hc]
        simp [hc]
      · rw [List.rdropWhile_concat_neg _ _ _ hc, List.length_append, List.length_singleton]
        simp only [List.all_cons, hc, Bool.false_and, Bool.false_eq_true, and_false, false_iff]
        omega

theorem rdropWhile_drop : (s.drop n).rdropWhile q = (s.rdropWhile q).drop n := by
  induction s using List.reverseRecOn with
  | nil => simp
  | append_singleton s c ih =>
    by_cases hn : s.length < n
    · have hlength : ((s ++ [c]).rdropWhile q).length ≤ (s ++ [c]).length :=
        (List.rdropWhile_prefix q (s ++ [c])).length_le
      rw [List.length_append, List.length_singleton] at hlength
      rw [List.drop_eq_nil_of_le (by rw [List.length_append, List.length_singleton]; omega),
        List.drop_eq_nil_of_le (by omega), List.rdropWhile_nil]
    · have hle : n ≤ s.length := Nat.le_of_not_lt hn
      rw [List.drop_append_of_le_length hle]
      by_cases hc : q c = true
      · rw [List.rdropWhile_concat_pos _ _ _ hc, List.rdropWhile_concat_pos _ _ _ hc, ih]
      · rw [List.rdropWhile_concat_neg _ _ _ hc, List.rdropWhile_concat_neg _ _ _ hc,
          List.drop_append_of_le_length hle]

theorem trimEnd_eq (s : List Char) : trimEnd s = s.rdropWhile isBlank := rfl

theorem take_length_trimEnd (s : List Char) : s.take (trimEnd s).length = trimEnd s :=
  (List.prefix_iff_eq_take.mp (List.rdropWhile_prefix isBlank s)).symm

theorem isBlankText_drop_iff : isBlankText (s.drop n) = true ↔ (trimEnd s).length ≤ n :=
  all_drop_iff

theorem takeWhile_isInline (hs : '\n' ∉ s) : s.takeWhile isInline = s := by
  rw [List.takeWhile_eq_self_iff]
  intro c hc
  have hne : c ≠ '\n' := fun h => hs (h ▸ hc)
  simp [isInline, hne]

/-- Content goes up to the white space at the end. -/
theorem captures_content (hs : '\n' ∉ s) : captures [content, blanks] s = some [trimEnd s] := by
  have hlength : (trimEnd s).length ≤ s.length := (List.rdropWhile_prefix isBlank s).length_le
  have hlongest : content.longest s = s.length := by
    simp [Piece.longest, content, takeWhile_isInline hs]
  have hrest : captures [blanks] (s.drop (trimEnd s).length) = some [] := by
    rw [captures_blanks, if_pos (isBlankText_drop_iff.mpr (Nat.le_refl _))]
  have hcaptures := captures_eq_some (p := content) (Nat.zero_le _) (hlongest ▸ hlength) hrest
    fun n _ _ hlt => by
      have hn : ¬ (trimEnd s).length ≤ n := Nat.not_le.mpr hlt
      rw [captures_blanks, if_neg (fun h => hn (isBlankText_drop_iff.mp h))]
  rw [hcaptures, take_length_trimEnd]
  rfl

theorem not_mem_of_suffix {c : Char} {t : List Char} (hs : c ∉ s) (h : t <:+ s) : c ∉ t :=
  fun hc => hs (h.subset hc)

theorem trimStart_suffix (s : List Char) : trimStart s <:+ s := List.dropWhile_suffix isBlank

theorem captures_trimmed (hs : '\n' ∉ s) :
    captures [blanks, content, blanks] s = some [trim s] :=
  captures_run_some (Nat.zero_le _) (captures_content (not_mem_of_suffix hs (trimStart_suffix s)))

end Ends

end Runbook.Document
