import Mathlib.Data.List.Basic
import Mathlib.Data.List.Induction
import Mathlib.Data.List.Infix
import Mathlib.Data.Nat.Find
import Runbook.Text.Blank

/-!
Texts as lines. A text that is put together from lines falls apart into the same lines again, and
every piece of a text but the last one ends in a line feed, so that the number of a line counts the
line feeds in front of it. A text without line ends stands in another one when it stands in one of
its lines, and its first place there is on the first of them.
-/

namespace Runbook.Text

/-- One line together with its line feed. -/
def IsLine (line : List Char) : Prop := ∃ start, '\n' ∉ start ∧ line = start ++ ['\n']

theorem isLine_lineFeed : IsLine ['\n'] := ⟨[], List.not_mem_nil, rfl⟩

theorem IsLine.cons {c : Char} (hc : c ≠ '\n') {line : List Char} (h : IsLine line) :
    IsLine (c :: line) := by
  obtain ⟨start, hstart, rfl⟩ := h
  exact ⟨c :: start, by simp [hc.symm, hstart], rfl⟩

theorem IsLine.getLast? {line : List Char} (h : IsLine line) : line.getLast? = some '\n' := by
  obtain ⟨start, -, rfl⟩ := h
  simp

theorem IsLine.lineFeeds {line : List Char} (h : IsLine line) : lineFeeds line = 1 := by
  obtain ⟨start, hstart, rfl⟩ := h
  simp [Text.lineFeeds, List.count_eq_zero_of_not_mem hstart]

theorem splitLines_line (start rest : List Char) (h : '\n' ∉ start) :
    splitLines (start ++ '\n' :: rest) = (start ++ ['\n']) :: splitLines rest := by
  induction start with
  | nil => simp [splitLines]
  | cons c start ih =>
    obtain ⟨hc, hstart⟩ := not_or.mp (mt List.mem_cons.mpr h)
    rw [List.cons_append, splitLines, if_neg (Ne.symm hc), ih hstart]
    rfl

theorem IsLine.splitLines_append {line : List Char} (h : IsLine line) (rest : List Char) :
    splitLines (line ++ rest) = line :: splitLines rest := by
  obtain ⟨start, hstart, rfl⟩ := h
  rw [List.append_assoc, List.singleton_append, splitLines_line start rest hstart]

/-- A text without a line feed is one piece. -/
theorem splitLines_of_not_mem {s : List Char} (hne : s ≠ []) (h : '\n' ∉ s) :
    splitLines s = [s] := by
  induction s with
  | nil => contradiction
  | cons c rest ih =>
    obtain ⟨hc, hrest⟩ := not_or.mp (mt List.mem_cons.mpr h)
    rw [splitLines, if_neg (Ne.symm hc)]
    cases rest with
    | nil => rfl
    | cons d more => rw [ih (List.cons_ne_nil d more) hrest]

theorem splitLines_flatten_append {lines : List (List Char)} (h : ∀ line ∈ lines, IsLine line)
    (rest : List Char) : splitLines (lines.flatten ++ rest) = lines ++ splitLines rest := by
  induction lines with
  | nil => rfl
  | cons line lines ih =>
    have hline := h line List.mem_cons_self
    have hlines := ih fun other hother => h other (List.mem_cons_of_mem _ hother)
    rw [List.flatten_cons, List.append_assoc, hline.splitLines_append, hlines, List.cons_append]

/-- A piece of a text is a line unless it is the last piece and lacks the line feed. -/
theorem isLine_or_last {s line : List Char} (before : List (List Char)) {after : List (List Char)}
    (h : splitLines s = before ++ line :: after) :
    IsLine line ∨ after = [] ∧ line ≠ [] ∧ '\n' ∉ line := by
  induction s generalizing before line after with
  | nil => simp [splitLines] at h
  | cons c rest ih =>
    rw [splitLines] at h
    by_cases hc : c = '\n'
    · rw [if_pos hc] at h
      cases before with
      | nil =>
        obtain rfl := (List.cons.inj h).1
        exact .inl (hc ▸ isLine_lineFeed)
      | cons first before => exact ih before (List.cons.inj h).2
    · rw [if_neg hc] at h
      split at h
      · next hrest =>
        obtain ⟨hline, hafter⟩ : [c] = line ∧ after = [] := by
          cases before <;> simp_all
        obtain rfl := hline
        exact .inr ⟨hafter, by simp, by simpa using Ne.symm hc⟩
      · next first others hrest =>
        cases before with
        | nil =>
          obtain ⟨rfl, rfl⟩ := List.cons.inj h
          rcases ih [] hrest with hline | ⟨hlast, -, hfree⟩
          · exact .inl (hline.cons hc)
          · exact .inr ⟨hlast, by simp, by simp [Ne.symm hc, hfree]⟩
        | cons _ before =>
          obtain rfl : others = before ++ line :: after := (List.cons.inj h).2
          exact ih (first :: before) hrest

/-- What is left of a piece has no line feed. -/
theorem not_mem_chomp {s line : List Char} (h : line ∈ splitLines s) : '\n' ∉ chomp line := by
  obtain ⟨before, after, hsplit⟩ := List.append_of_mem h
  rcases isLine_or_last before hsplit with ⟨start, hstart, rfl⟩ | ⟨-, -, hfree⟩
  · have hreverse : '\n' ∉ start.reverse := by simpa using hstart
    unfold chomp
    rw [List.reverse_append]
    cases hlast : start.reverse with
    | nil => simp
    | cons c rest =>
      rw [hlast] at hreverse
      obtain ⟨hc, hrest⟩ := not_or.mp (mt List.mem_cons.mpr hreverse)
      by_cases hreturn : c = '\r'
      · subst hreturn
        simpa using hrest
      · simp [hreturn, hc, hrest]
  · have hreverse : '\n' ∉ line.reverse := by simpa using hfree
    unfold chomp
    split
    · next hlast => simp [hlast] at hreverse
    · next hlast => simp [hlast] at hreverse
    · exact hfree

theorem not_mem_lines {s line : List Char} (h : line ∈ lines s) : '\n' ∉ line := by
  obtain ⟨raw, hraw, rfl⟩ := List.mem_map.mp h
  exact not_mem_chomp hraw

theorem isLine_of_before {s : List Char} (before : List (List Char)) {after : List (List Char)}
    (h : splitLines s = before ++ after) (hne : after ≠ []) : ∀ line ∈ before, IsLine line := by
  intro line hline
  obtain ⟨front, back, rfl⟩ := List.append_of_mem hline
  rw [List.append_assoc, List.cons_append] at h
  refine (isLine_or_last front h).resolve_right ?_
  rintro ⟨hnil, -⟩
  exact hne (List.append_eq_nil_iff.mp hnil).2

/-- The text is empty or ends in a line feed. -/
def IsClosed (s : List Char) : Prop := s = [] ∨ s.getLast? = some '\n'

theorem isLine_of_mem_splitLines {s line : List Char} (h : IsClosed s)
    (hline : line ∈ splitLines s) : IsLine line := by
  obtain ⟨before, after, hsplit⟩ := List.append_of_mem hline
  refine (isLine_or_last before hsplit).resolve_right ?_
  rintro ⟨rfl, hne, hfree⟩
  have hs : s = before.flatten ++ line := by
    rw [← flatten_splitLines s, hsplit]
    simp
  have hlast : s.getLast? = line.getLast? := by
    rw [hs, List.getLast?_append_of_ne_nil _ hne]
  rcases h with rfl | h
  · simp [splitLines] at hsplit
  · exact hfree (List.mem_of_getLast? (hlast ▸ h))

/-- Behind a line feed the pieces of a text go on as if it began there. -/
theorem splitLines_append {s : List Char} (h : IsClosed s) (t : List Char) :
    splitLines (s ++ t) = splitLines s ++ splitLines t := by
  have hflatten := splitLines_flatten_append (fun _ => isLine_of_mem_splitLines h) t
  rwa [flatten_splitLines] at hflatten

theorem lineFeeds_append (s t : List Char) : lineFeeds (s ++ t) = lineFeeds s + lineFeeds t :=
  List.count_append

/-- The start of a line adds no line feed to what stands in front of it. -/
theorem lineFeeds_append_of_not_mem (s : List Char) {t : List Char} (h : '\n' ∉ t) :
    lineFeeds (s ++ t) = lineFeeds s := by
  rw [lineFeeds_append, show lineFeeds t = 0 from List.count_eq_zero_of_not_mem h, Nat.add_zero]

theorem lineFeeds_flatten {lines : List (List Char)} (h : ∀ line ∈ lines, IsLine line) :
    lineFeeds lines.flatten = lines.length := by
  induction lines with
  | nil => rfl
  | cons line lines ih =>
    have hline := h line List.mem_cons_self
    have hlines := ih fun other hother => h other (List.mem_cons_of_mem _ hother)
    rw [List.flatten_cons, lineFeeds_append, hline.lineFeeds, hlines, List.length_cons]
    omega

theorem length_splitLines {s : List Char} (h : IsClosed s) :
    (splitLines s).length = lineFeeds s := by
  have hcount := lineFeeds_flatten fun _ => isLine_of_mem_splitLines h
  rwa [flatten_splitLines, eq_comm] at hcount

/-- Line number `n` of a text, counted from one by the line feeds in front of it, reads `line`
without its line feed and without a carriage return before that. -/
def LineAt (s : List Char) (n : Nat) (line : List Char) : Prop :=
  ∃ before raw after, s = before ++ (raw ++ after) ∧ IsClosed before ∧ n = lineFeeds before + 1 ∧
    (IsLine raw ∨ raw ≠ [] ∧ '\n' ∉ raw ∧ after = []) ∧ line = chomp raw

theorem splitLines_piece {raw after : List Char}
    (h : IsLine raw ∨ raw ≠ [] ∧ '\n' ∉ raw ∧ after = []) :
    splitLines (raw ++ after) = raw :: splitLines after := by
  rcases h with hline | ⟨hne, hfree, rfl⟩
  · exact hline.splitLines_append after
  · rw [List.append_nil, splitLines_of_not_mem hne hfree]
    rfl

theorem IsLine.ne_nil {line : List Char} (h : IsLine line) : line ≠ [] := by
  rintro rfl
  simpa using h.getLast?

/-- What ends in a line is closed, whatever stands in front of it. -/
theorem IsLine.isClosed_append {line : List Char} (h : IsLine line) (s : List Char) :
    IsClosed (s ++ line) :=
  .inr (by rw [List.getLast?_append_of_ne_nil s h.ne_nil, h.getLast?])

theorem IsClosed.append {s t : List Char} (hs : IsClosed s) (ht : IsClosed t) :
    IsClosed (s ++ t) := by
  rcases ht with rfl | ht
  · rwa [List.append_nil]
  · have hne : t ≠ [] := by
      rintro rfl
      simp at ht
    exact .inr (by rw [List.getLast?_append_of_ne_nil _ hne, ht])

theorem isClosed_flatten {lines : List (List Char)} (h : ∀ line ∈ lines, IsLine line) :
    IsClosed lines.flatten := by
  induction lines with
  | nil => exact .inl rfl
  | cons line lines ih =>
    have hlines := ih fun other hother => h other (List.mem_cons_of_mem _ hother)
    exact IsClosed.append (.inr (h line List.mem_cons_self).getLast?) hlines

/-- The numbers that count line feeds are the places in the list of lines. -/
theorem lineAt_iff {s : List Char} {n : Nat} {line : List Char} :
    LineAt s n line ↔ 1 ≤ n ∧ (lines s)[n - 1]? = some line := by
  rw [lines, List.getElem?_map]
  constructor
  · rintro ⟨before, raw, after, rfl, hbefore, rfl, hraw, rfl⟩
    rw [splitLines_append hbefore, splitLines_piece hraw, Nat.add_sub_cancel,
      ← length_splitLines hbefore]
    simp
  · rintro ⟨hn, hline⟩
    obtain ⟨raw, hraw, rfl⟩ := Option.map_eq_some_iff.mp hline
    obtain ⟨hlength, rfl⟩ := List.getElem?_eq_some_iff.mp hraw
    have hsplit : splitLines s = (splitLines s).take (n - 1) ++
        (splitLines s)[n - 1] :: (splitLines s).drop (n - 1 + 1) := by
      rw [List.getElem_cons_drop, List.take_append_drop]
    have hbefore := isLine_of_before _ hsplit (List.cons_ne_nil _ _)
    have hflatten := congrArg List.flatten hsplit
    rw [flatten_splitLines, List.flatten_append, List.flatten_cons] at hflatten
    refine ⟨_, _, _, hflatten, isClosed_flatten hbefore, ?_, ?_, rfl⟩
    · rw [lineFeeds_flatten hbefore, List.length_take]
      omega
    · rcases isLine_or_last _ hsplit with hline | ⟨hlast, hne, hfree⟩
      · exact .inl hline
      · exact .inr ⟨hne, hfree, by rw [hlast, List.flatten_nil]⟩

theorem LineAt.unique {s : List Char} {n : Nat} {line other : List Char} (h : LineAt s n line)
    (hother : LineAt s n other) : line = other :=
  Option.some.inj ((lineAt_iff.mp h).2.symm.trans (lineAt_iff.mp hother).2)

/-- Lines keep their texts where other lines are put in front of them or behind them. -/
theorem LineAt.within {before s after line : List Char} {n : Nat} (hbefore : IsClosed before)
    (hafter : IsClosed s ∨ after = []) (h : LineAt s n line) :
    LineAt (before ++ (s ++ after)) (lineFeeds before + n) line := by
  obtain ⟨front, raw, back, rfl, hfront, rfl, hraw, rfl⟩ := h
  refine ⟨before ++ front, raw, back ++ after, by simp, hbefore.append hfront, ?_, ?_, rfl⟩
  · rw [lineFeeds_append]
    omega
  · rcases hraw with hline | ⟨hne, hfree, rfl⟩
    · exact .inl hline
    · rcases hafter with hclosed | rfl
      · rw [List.append_nil] at hclosed
        rcases hclosed with hnil | hlast
        · exact absurd (List.append_eq_nil_iff.mp hnil).2 hne
        · rw [List.getLast?_append_of_ne_nil _ hne] at hlast
          exact absurd (List.mem_of_getLast? hlast) hfree
      · exact .inr ⟨hne, hfree, rfl⟩

/-! What stands within one line. -/

/-- What does not end in a character is found in front of it already. -/
theorem infix_of_concat {t s : List Char} {c : Char} (hlast : t.getLast? ≠ some c)
    (h : t <:+: s ++ [c]) : t <:+: s := by
  rcases List.infix_concat_iff.mp h with hend | hwithin
  · rcases List.suffix_concat_iff.mp hend with rfl | ⟨start, rfl, -⟩
    · exact List.nil_infix
    · exact absurd List.getLast?_concat hlast
  · exact hwithin

theorem prefix_of_splitLines {t s : List Char} (hfree : '\n' ∉ t) (hne : t ≠ []) (h : t <+: s) :
    ∃ line more, splitLines s = line :: more ∧ t <+: line := by
  obtain ⟨after, rfl⟩ := h
  induction t with
  | nil => exact absurd rfl hne
  | cons c t ih =>
    obtain ⟨hc, hrest⟩ := not_or.mp (mt List.mem_cons.mpr hfree)
    rw [List.cons_append, splitLines, if_neg (Ne.symm hc)]
    cases t with
    | nil =>
      cases splitLines ([] ++ after) with
      | nil => exact ⟨[c], [], rfl, List.prefix_refl _⟩
      | cons line more => exact ⟨c :: line, more, rfl, List.prefix_append [c] line⟩
    | cons d t =>
      obtain ⟨line, more, hsplit, hline⟩ := ih hrest (List.cons_ne_nil d t)
      rw [hsplit]
      exact ⟨c :: line, more, rfl, List.cons_prefix_cons.mpr ⟨rfl, hline⟩⟩

theorem infix_of_splitLines {t s : List Char} (hfree : '\n' ∉ t) (hne : t ≠ []) (h : t <:+: s) :
    ∃ line ∈ splitLines s, t <:+: line := by
  induction s with
  | nil => exact absurd (List.infix_nil.mp h) hne
  | cons c rest ih =>
    rcases List.infix_cons_iff.mp h with hstart | hwithin
    · obtain ⟨line, more, hsplit, hline⟩ := prefix_of_splitLines hfree hne hstart
      rw [hsplit]
      exact ⟨line, List.mem_cons_self, hline.isInfix⟩
    · obtain ⟨line, hmem, hline⟩ := ih hwithin
      rw [splitLines]
      split
      · exact ⟨line, List.mem_cons_of_mem _ hmem, hline⟩
      · split
        · next hnil =>
          rw [hnil] at hmem
          cases hmem
        · next first others hrest =>
          rw [hrest] at hmem
          rcases List.mem_cons.mp hmem with rfl | hother
          · exact ⟨c :: line, List.mem_cons_self, List.infix_cons hline⟩
          · exact ⟨line, List.mem_cons_of_mem _ hother, hline⟩

theorem prefix_chomp (line : List Char) : chomp line <+: line := by
  unfold chomp
  split
  · next rest h =>
    rw [← List.reverse_reverse line, h]
    simp
  · next rest h =>
    rw [← List.reverse_reverse line, h]
    simp
  · exact List.prefix_refl line

/-- A text without a line feed stands in another text when it stands in one of its lines, unless it
ends in a carriage return. -/
theorem infix_iff_lines {t s : List Char} (hfree : '\n' ∉ t) (hne : t ≠ [])
    (hreturn : t.getLast? ≠ some '\r') : t <:+: s ↔ ∃ line ∈ lines s, t <:+: line := by
  constructor
  · intro h
    obtain ⟨line, hmem, hline⟩ := infix_of_splitLines hfree hne h
    refine ⟨chomp line, List.mem_map.mpr ⟨line, hmem, rfl⟩, ?_⟩
    have hfeed : t.getLast? ≠ some '\n' := fun hlast => hfree (List.mem_of_getLast? hlast)
    unfold chomp
    split
    · next rest hreverse =>
      have hshape : line = rest.reverse ++ ['\r'] ++ ['\n'] := by
        rw [← List.reverse_reverse line, hreverse]
        simp
      rw [hshape] at hline
      exact infix_of_concat hreturn (infix_of_concat hfeed hline)
    · next rest _ hreverse =>
      have hshape : line = rest.reverse ++ ['\n'] := by
        rw [← List.reverse_reverse line, hreverse]
        simp
      rw [hshape] at hline
      exact infix_of_concat hfeed hline
    · exact hline
  · rintro ⟨line, hmem, hline⟩
    obtain ⟨raw, hraw, rfl⟩ := List.mem_map.mp hmem
    have hpiece : raw <:+: s := by
      rw [← flatten_splitLines s]
      exact List.infix_of_mem_flatten hraw
    exact hline.trans ((prefix_chomp raw).isInfix.trans hpiece)

/-! The line of a place in a text. -/

/-- A text falls apart into lines that are over and the start of a further one. -/
theorem exists_line_start (s : List Char) :
    ∃ before start, s = before ++ start ∧ IsClosed before ∧ '\n' ∉ start := by
  induction s using List.reverseRecOn with
  | nil => exact ⟨[], [], rfl, .inl rfl, List.not_mem_nil⟩
  | append_singleton s c ih =>
    by_cases hc : c = '\n'
    · subst hc
      exact ⟨s ++ ['\n'], [], by simp, .inr List.getLast?_concat, List.not_mem_nil⟩
    · obtain ⟨before, start, rfl, hbefore, hstart⟩ := ih
      exact ⟨before, start ++ [c], by simp, hbefore, by simp [hstart, Ne.symm hc]⟩

/-- A text begins with what is left of its first line. -/
theorem exists_line_stop (s : List Char) :
    ∃ stop after, s = stop ++ after ∧ (IsLine stop ∨ '\n' ∉ stop ∧ after = []) := by
  induction s with
  | nil => exact ⟨[], [], rfl, .inr ⟨List.not_mem_nil, rfl⟩⟩
  | cons c rest ih =>
    by_cases hc : c = '\n'
    · subst hc
      exact ⟨['\n'], rest, rfl, .inl isLine_lineFeed⟩
    · obtain ⟨stop, after, rfl, hline | ⟨hstop, rfl⟩⟩ := ih
      · exact ⟨c :: stop, after, rfl, .inl (hline.cons hc)⟩
      · exact ⟨c :: stop, [], rfl, .inr ⟨by simp [hstop, Ne.symm hc], rfl⟩⟩

section Place

variable {t s : List Char}

/-- What stands behind some text stands on the line that the line feeds of that text lead to. -/
theorem lineAt_of_prefix (hfree : '\n' ∉ t) (hne : t ≠ []) (hreturn : t.getLast? ≠ some '\r')
    {front : List Char} (h : front ++ t <+: s) :
    ∃ line, LineAt s (lineFeeds front + 1) line ∧ t <:+: line := by
  obtain ⟨rest, rfl⟩ := h
  obtain ⟨before, start, rfl, hbefore, hstart⟩ := exists_line_start front
  obtain ⟨stop, after, rfl, hstop⟩ := exists_line_stop rest
  have hpiece : IsLine (start ++ t ++ stop) ∨
      start ++ t ++ stop ≠ [] ∧ '\n' ∉ start ++ t ++ stop ∧ after = [] := by
    rcases hstop with ⟨last, hlast, rfl⟩ | ⟨hstop, hafter⟩
    · exact .inl ⟨start ++ t ++ last, by simp [hstart, hfree, hlast], by simp⟩
    · exact .inr ⟨by simp [hne], by simp [hstart, hfree, hstop], hafter⟩
  have hcount := lineFeeds_append_of_not_mem before hstart
  refine ⟨chomp (start ++ t ++ stop),
    ⟨before, start ++ t ++ stop, after, by simp, hbefore, by rw [hcount], hpiece, rfl⟩, ?_⟩
  have halone : lines (start ++ t ++ stop) = [chomp (start ++ t ++ stop)] := by
    have hsplit : splitLines (start ++ t ++ stop ++ []) = [start ++ t ++ stop] :=
      splitLines_piece (hpiece.imp_right fun h => ⟨h.1, h.2.1, rfl⟩)
    rw [List.append_nil] at hsplit
    rw [lines, hsplit, List.map_singleton]
  have hwithin : t <:+: start ++ t ++ stop := ⟨start, stop, rfl⟩
  obtain ⟨line, hline, ht⟩ := (infix_iff_lines hfree hne hreturn).mp hwithin
  rw [halone] at hline
  exact List.mem_singleton.mp hline ▸ ht

theorem LineAt.exists_prefix {n : Nat} {line : List Char} (h : LineAt s n line)
    (ht : t <:+: line) : ∃ front, front ++ t <+: s ∧ n = lineFeeds front + 1 := by
  have hfree : '\n' ∉ line := not_mem_lines (List.mem_of_getElem? (lineAt_iff.mp h).2)
  obtain ⟨before, raw, after, rfl, -, rfl, -, rfl⟩ := h
  obtain ⟨start, stop, hshape⟩ := ht
  obtain ⟨ending, hraw⟩ := prefix_chomp raw
  have hstart : '\n' ∉ start := fun hmem => hfree (by simp [← hshape, hmem])
  refine ⟨before ++ start, ⟨stop ++ (ending ++ after), ?_⟩, ?_⟩
  · rw [← hraw, ← hshape]
    simp
  · rw [lineFeeds_append_of_not_mem before hstart]

/-- A text stands in another one behind `front`, and nowhere earlier. -/
def FirstBehind (t s front : List Char) : Prop :=
  front ++ t <+: s ∧ ∀ other, other ++ t <+: s → front.length ≤ other.length

theorem exists_firstBehind (h : t <:+: s) : ∃ front, FirstBehind t s front := by
  classical
  obtain ⟨start, rest, rfl⟩ := h
  have hplace : ∃ n front, front ++ t <+: start ++ t ++ rest ∧ front.length = n :=
    ⟨_, start, List.prefix_append _ _, rfl⟩
  obtain ⟨front, hfront, hlength⟩ := Nat.find_spec hplace
  refine ⟨front, hfront, fun other hother => ?_⟩
  rw [hlength]
  exact Nat.find_min' hplace ⟨other, hother, rfl⟩

/-- The first line that a text stands in is the one that the line feeds in front of it lead to. -/
theorem FirstBehind.line {front : List Char} (h : FirstBehind t s front) (hfree : '\n' ∉ t)
    (hne : t ≠ []) (hreturn : t.getLast? ≠ some '\r') {k : Nat} {line : List Char}
    (hline : (lines s)[k]? = some line) (ht : t <:+: line)
    (hbefore : ∀ m other, m < k → (lines s)[m]? = some other → ¬ t <:+: other) :
    k = lineFeeds front := by
  have hat : LineAt s (k + 1) line := lineAt_iff.mpr ⟨Nat.le_add_left 1 k, hline⟩
  obtain ⟨other, hother, hcount⟩ := hat.exists_prefix ht
  have hle : lineFeeds front ≤ k := by
    have hfront : front <+: other :=
      List.prefix_of_prefix_length_le ((List.prefix_append front t).trans h.1)
        ((List.prefix_append other t).trans hother) (h.2 other hother)
    have hmore : lineFeeds front ≤ lineFeeds other := hfront.sublist.count_le '\n'
    omega
  refine Nat.le_antisymm (Nat.not_lt.mp fun hlt => ?_) hle
  obtain ⟨first, hfirst, hfound⟩ := lineAt_of_prefix hfree hne hreturn h.1
  have hplace := (lineAt_iff.mp hfirst).2
  rw [Nat.add_sub_cancel] at hplace
  exact hbefore _ first hlt hplace hfound

end Place

end Runbook.Text
