import Runbook.Document.FrontMatter
import Runbook.Proofs.TextLines

/-!
The grammar of a document with a header: white space, an opening line of three dashes, the lines
of the header, a closing line of dashes, and the body. A document is taken apart in one way at
most, and it has a header exactly when it can be taken apart.
-/

namespace Runbook.FrontMatter

open Text

/-- Nothing but dashes, three of them at least. -/
def IsDashes (s : List Char) : Prop := ∃ n, 3 ≤ n ∧ s = List.replicate n '-'

theorem isClosing_iff {line : List Char} : isClosing line = true ↔ IsDashes (trimEnd line) := by
  simp only [isClosing, Bool.and_eq_true, decide_eq_true_eq, List.all_eq_true, beq_iff_eq]
  constructor
  · rintro ⟨hlength, hall⟩
    exact ⟨_, hlength, List.eq_replicate_of_mem hall⟩
  · rintro ⟨n, hn, heq⟩
    rw [heq, List.length_replicate]
    exact ⟨hn, fun c hc => List.eq_of_mem_replicate hc⟩

theorem isOpening_iff {line : List Char} :
    isOpening line = true ↔ trimEnd line = ['-', '-', '-'] ∧ line.getLast? = some '\n' := by
  simp [isOpening]

/-- The header goes up to the first closing line. -/
theorem cut?_eq_some_iff {lines header body : List (List Char)} :
    cut? lines = some (header, body) ↔ ∃ closing, lines = header ++ closing :: body ∧
      IsDashes (trimEnd closing) ∧ ∀ line ∈ header, ¬ IsDashes (trimEnd line) := by
  induction lines generalizing header with
  | nil => simp [cut?]
  | cons first rest ih =>
    by_cases hfirst : IsDashes (trimEnd first)
    · rw [cut?, if_pos (isClosing_iff.mpr hfirst)]
      constructor
      · intro h
        obtain ⟨rfl, rfl⟩ := Prod.mk.inj (Option.some.inj h)
        exact ⟨first, rfl, hfirst, by simp⟩
      · rintro ⟨closing, heq, -, hheader⟩
        cases header with
        | nil => rw [(List.cons.inj heq).2]
        | cons line header =>
          obtain rfl := (List.cons.inj heq).1
          exact absurd hfirst (hheader first List.mem_cons_self)
    · rw [cut?, if_neg (mt isClosing_iff.mp hfirst), Option.map_eq_some_iff]
      constructor
      · rintro ⟨⟨header, body⟩, hcut, heq⟩
        obtain ⟨rfl, rfl⟩ := Prod.mk.inj heq
        obtain ⟨closing, rfl, hclosing, hheader⟩ := ih.mp hcut
        exact ⟨closing, rfl, hclosing, List.forall_mem_cons.mpr ⟨hfirst, hheader⟩⟩
      · rintro ⟨closing, heq, hclosing, hheader⟩
        cases header with
        | nil =>
          obtain rfl := (List.cons.inj heq).1
          exact absurd hclosing hfirst
        | cons line header =>
          obtain ⟨rfl, hrest⟩ := List.cons.inj heq
          exact ⟨(header, body),
            ih.mpr ⟨closing, hrest, hclosing, (List.forall_mem_cons.mp hheader).2⟩, rfl⟩

theorem parts?_eq_some_iff {s : List Char} {header body : List (List Char)} :
    parts? s = some (header, body) ↔ ∃ opening closing,
      splitLines s = opening :: (header ++ closing :: body) ∧
      (trimEnd opening = ['-', '-', '-'] ∧ opening.getLast? = some '\n') ∧
      IsDashes (trimEnd closing) ∧ ∀ line ∈ header, ¬ IsDashes (trimEnd line) := by
  cases hpieces : splitLines s with
  | nil => simp [parts?, hpieces]
  | cons first pieces =>
    simp only [parts?, hpieces, ← isOpening_iff]
    by_cases hfirst : isOpening first
    · rw [if_pos hfirst, cut?_eq_some_iff]
      constructor
      · rintro ⟨closing, rfl, hclosing, hheader⟩
        exact ⟨first, closing, rfl, hfirst, hclosing, hheader⟩
      · rintro ⟨opening, closing, heq, -, hclosing, hheader⟩
        exact ⟨closing, (List.cons.inj heq).2, hclosing, hheader⟩
    · rw [if_neg hfirst]
      constructor
      · simp
      · rintro ⟨opening, closing, heq, hopening, -⟩
        exact absurd ((List.cons.inj heq).1 ▸ hopening) hfirst

theorem split_of_parts {document : String} {lines rest : List (List Char)}
    (h : parts? (trimStart document.toList) = some (lines, rest)) :
    split document = ⟨some (.ofList lines.flatten), .ofList rest.flatten,
      lineFeeds (document.toList.takeWhile isBlank) + 2,
      lineFeeds (document.toList.takeWhile isBlank) + lines.length + 3⟩ := by
  simp only [split, h]

theorem split_of_no_parts {document : String} (h : parts? (trimStart document.toList) = none) :
    split document = ⟨none, document, 0, 1⟩ := by
  simp only [split, h]

theorem split_of_no_header {document : String} (h : (split document).header = none) :
    split document = ⟨none, document, 0, 1⟩ := by
  cases hparts : parts? (trimStart document.toList) with
  | none => exact split_of_no_parts hparts
  | some parts => simp [split_of_parts hparts] at h

/-- A document taken apart. -/
structure Layout where
  lead : List Char
  opening : List Char
  header : List Char
  closing : List Char
  body : List Char

namespace Layout

def text (l : Layout) : List Char := l.lead ++ l.opening ++ l.header ++ l.closing ++ l.body

/-- The lines of a header, none of which closes it. -/
def IsHeader (lines : List (List Char)) : Prop :=
  ∀ line ∈ lines, IsLine line ∧ ¬ IsDashes (trimEnd line)

structure Formed (l : Layout) : Prop where
  /-- All white space in front of the opening line is in the lead. -/
  lead : l.lead = l.text.takeWhile isBlank
  opening : IsLine l.opening
  opening_dashes : trimEnd l.opening = ['-', '-', '-']
  header : ∃ lines, IsHeader lines ∧ l.header = lines.flatten
  closing_dashes : IsDashes (trimEnd l.closing)
  closing : IsLine l.closing ∨ '\n' ∉ l.closing ∧ l.body = []

namespace Formed

variable {l m : Layout}

/-- Behind the lead stands the opening line, which does not begin with white space. -/
theorem trimStart_text (h : l.Formed) :
    trimStart l.text = l.opening ++ (l.header ++ (l.closing ++ l.body)) := by
  have hsplit : l.lead ++ trimStart l.text = l.text := by
    conv => lhs; rw [h.lead]
    exact List.takeWhile_append_dropWhile
  refine List.append_cancel_left (hsplit.trans ?_)
  simp only [text, List.append_assoc]

theorem closing_ne_nil (h : l.Formed) : l.closing ≠ [] := by
  intro hnil
  obtain ⟨n, hn, heq⟩ := h.closing_dashes
  have hlength := congrArg List.length heq
  simp [hnil, trimEnd] at hlength
  omega

theorem splitLines_closing (h : l.Formed) :
    splitLines (l.closing ++ l.body) = l.closing :: splitLines l.body := by
  rcases h.closing with hline | ⟨hfree, hbody⟩
  · exact hline.splitLines_append l.body
  · rw [hbody, List.append_nil, splitLines_of_not_mem h.closing_ne_nil hfree]
    rfl

theorem parts?_text (h : l.Formed) {lines : List (List Char)} (hlines : IsHeader lines)
    (hheader : l.header = lines.flatten) :
    parts? (trimStart l.text) = some (lines, splitLines l.body) := by
  have hopening : isOpening l.opening = true :=
    isOpening_iff.mpr ⟨h.opening_dashes, h.opening.getLast?⟩
  have hcut : cut? (lines ++ l.closing :: splitLines l.body) = some (lines, splitLines l.body) :=
    cut?_eq_some_iff.mpr ⟨l.closing, rfl, h.closing_dashes, fun line hline => (hlines line hline).2⟩
  rw [h.trimStart_text, parts?, h.opening.splitLines_append, hheader,
    splitLines_flatten_append fun line hline => (hlines line hline).1, h.splitLines_closing]
  simp only [hopening, if_true, hcut]

/-- What a document that can be taken apart is split into. -/
theorem split_eq (h : l.Formed) {document : String} (htext : document.toList = l.text) :
    split document = ⟨some (.ofList l.header), .ofList l.body, lineFeeds l.lead + 2,
      lineFeeds l.lead + lineFeeds l.header + 3⟩ := by
  obtain ⟨lines, hlines, hheader⟩ := h.header
  have hcount : lineFeeds l.header = lines.length := by
    rw [hheader, lineFeeds_flatten fun line hline => (hlines line hline).1]
  have hparts := h.parts?_text hlines hheader
  rw [← htext] at hparts
  rw [split_of_parts hparts, flatten_splitLines, htext, ← h.lead, hcount, hheader]

/-- No document can be taken apart in two ways. -/
theorem unique (hl : l.Formed) (hm : m.Formed) (htext : l.text = m.text) : l = m := by
  have hlead : l.lead = m.lead := by rw [hl.lead, hm.lead, htext]
  obtain ⟨linesL, hlinesL, hheaderL⟩ := hl.header
  obtain ⟨linesM, hlinesM, hheaderM⟩ := hm.header
  have hparts := hl.parts?_text hlinesL hheaderL
  rw [htext, hm.parts?_text hlinesM hheaderM, Option.some.injEq, Prod.mk.injEq] at hparts
  have hheader : l.header = m.header := by rw [hheaderL, hheaderM, hparts.1]
  have hbody : l.body = m.body := by
    rw [← flatten_splitLines l.body, ← hparts.2, flatten_splitLines]
  have hbehind := congrArg splitLines (congrArg trimStart htext)
  rw [hl.trimStart_text, hm.trimStart_text, hl.opening.splitLines_append,
    hm.opening.splitLines_append] at hbehind
  have hopening : l.opening = m.opening := (List.cons.inj hbehind).1
  have hclosing : l.closing = m.closing := by
    simpa [text, hlead, hopening, hheader, hbody] using htext
  cases l
  cases m
  simp_all

end Formed

/-- A document with a header can be taken apart around it. -/
theorem exists_formed {document header : String} (h : (split document).header = some header) :
    ∃ l : Layout, l.Formed ∧ l.text = document.toList ∧ l.header = header.toList ∧
      l.body = (split document).body.toList := by
  cases hparts : parts? (trimStart document.toList) with
  | none => simp [split_of_no_parts hparts] at h
  | some parts =>
    obtain ⟨lines, rest⟩ := parts
    rw [split_of_parts hparts] at h ⊢
    obtain rfl : String.ofList lines.flatten = header := Option.some.inj h
    obtain ⟨opening, closing, hpieces, ⟨hopening, hlast⟩, hclosing, hheader⟩ :=
      parts?_eq_some_iff.mp hparts
    have hbehind : trimStart document.toList =
        opening ++ (lines.flatten ++ (closing ++ rest.flatten)) := by
      rw [← flatten_splitLines (trimStart document.toList), hpieces]
      simp
    have htext : document.toList.takeWhile isBlank ++ opening ++ lines.flatten ++ closing ++
        rest.flatten = document.toList := by
      simp only [List.append_assoc]
      rw [← hbehind]
      exact List.takeWhile_append_dropWhile
    refine ⟨⟨document.toList.takeWhile isBlank, opening, lines.flatten, closing, rest.flatten⟩,
      ⟨?_, ?_, hopening, ⟨lines, ?_, rfl⟩, hclosing, ?_⟩, htext, ?_, ?_⟩
    · rw [text, htext]
    · rcases isLine_or_last [] hpieces with hline | ⟨-, -, hfree⟩
      · exact hline
      · exact absurd (List.mem_of_getLast? hlast) hfree
    · intro line hline
      have hlines := isLine_of_before (opening :: lines) hpieces (List.cons_ne_nil _ _)
      exact ⟨hlines line (List.mem_cons_of_mem _ hline), hheader line hline⟩
    · rcases isLine_or_last (opening :: lines) hpieces with hline | ⟨rfl, -, hfree⟩
      · exact .inl hline
      · exact .inr ⟨hfree, rfl⟩
    · rw [String.toList_ofList]
    · rw [String.toList_ofList]

theorem isLine_dashes : IsLine "---\n".toList := ⟨"---".toList, by decide, rfl⟩

/-- The plain way to write a document with a header. -/
theorem formed_plain {lines : List (List Char)} (h : IsHeader lines) (body : List Char) :
    Formed ⟨[], "---\n".toList, lines.flatten, "---\n".toList, body⟩ where
  lead := rfl
  opening := isLine_dashes
  opening_dashes := rfl
  header := ⟨lines, h, rfl⟩
  closing_dashes := ⟨3, Nat.le_refl 3, rfl⟩
  closing := .inl isLine_dashes

end Layout

open Layout in
/-- A document has a header exactly when it can be taken apart around one, in the one way there
is, and is all body else. -/
theorem split_grammar :
    (∀ document header body, (split document).header = some header ∧
        (split document).body = body ↔
      ∃ l : Layout, l.Formed ∧ l.text = document.toList ∧ l.header = header.toList ∧
        l.body = body.toList) ∧
    (∀ l m : Layout, l.Formed → m.Formed → l.text = m.text → l = m) ∧
    (∀ document, (∀ l : Layout, l.Formed → l.text ≠ document.toList) →
      (split document).header = none ∧ (split document).body = document) ∧
    ∀ lines, IsHeader lines → ∀ body,
      (split ("---\n" ++ .ofList lines.flatten ++ "---\n" ++ body)).header =
        some (.ofList lines.flatten) ∧
      (split ("---\n" ++ .ofList lines.flatten ++ "---\n" ++ body)).body = body := by
  refine ⟨?_, fun l m hl hm => hl.unique hm, ?_, ?_⟩
  · intro document header body
    constructor
    · rintro ⟨hheader, rfl⟩
      exact exists_formed hheader
    · rintro ⟨l, hl, htext, hheader, hbody⟩
      rw [hl.split_eq htext.symm, hheader, hbody, String.ofList_toList, String.ofList_toList]
      exact ⟨rfl, rfl⟩
  · intro document hnone
    have hheader : (split document).header = none := by
      by_contra hsome
      obtain ⟨header, hheader⟩ := Option.ne_none_iff_exists'.mp hsome
      obtain ⟨l, hl, htext, -⟩ := exists_formed hheader
      exact hnone l hl htext
    rw [split_of_no_header hheader]
    exact ⟨rfl, rfl⟩
  · intro lines hlines body
    rw [(formed_plain hlines body.toList).split_eq (by simp [text])]
    exact ⟨rfl, String.ofList_toList⟩

/-- White space around both lines of dashes, empty and carriage-returned header lines, and a
closing line of five dashes that ends the document. -/
theorem split_grammar_of_spaced : ∃ l : Layout, l.Formed ∧
    l.text = "\n \t---  \r\nname: a\r\n\r\n-- \n-----\u2003".toList ∧
    l.header = "name: a\r\n\r\n-- \n".toList ∧ l.body = "".toList :=
  (split_grammar.1 "\n \t---  \r\nname: a\r\n\r\n-- \n-----\u2003" _ _).mp (by decide +kernel)

end Runbook.FrontMatter
