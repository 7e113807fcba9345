import Runbook.Proofs.OutlineFindings

/-!
The names that are found in a body: paths, keys of parameters, and texts of headings. They are
trimmed by patterns, which take white space on both sides of a name as long as something is left
for the name. So all of them are clean, but for a name in whose place nothing but white space
stands: it is the last character of that.
-/

namespace Runbook

namespace Document

open Text

/-- Not empty, and without white space at either end. -/
structure Clean (s : List Char) : Prop where
  ne_nil : s ≠ []
  head : ∀ c, s.head? = some c → isBlank c = false
  last : ∀ c, s.getLast? = some c → isBlank c = false

/-- A heading with nothing but white space after its hashes. -/
def isBareHeading (line : List Char) : Bool := isBlankText (line.dropWhile (· == '#'))

/-- What stands between the hyphen and the colon of a parameter. -/
def keyPart? (line : List Char) : Option (List Char) := do
  return (← stripPrefix? ['-'] (← quoted? line)).takeWhile (· ≠ ':')

/-- A parameter with nothing but white space in the place of its key. -/
def isBareParameter (line : List Char) : Bool := (keyPart? line).any isBlankText

section Trimmed

variable {s : List Char} {c : Char}

theorem not_clean_of_isBlank (hc : isBlank c = true) : ¬ Clean [c] := by
  intro h
  have hhead := h.head c rfl
  rw [hc] at hhead
  cases hhead

theorem clean_singleton (hc : isBlank c = false) : Clean [c] where
  ne_nil := List.cons_ne_nil c []
  head := by
    intro d hd
    obtain rfl : c = d := Option.some.inj hd
    exact hc
  last := by
    intro d hd
    obtain rfl : c = d := Option.some.inj hd
    exact hc

/-- What begins without white space is clean when it is cut off at its end. -/
theorem clean_trimEnd {t : List Char} (ht : t <+: c :: s) (hc : isBlank c = false)
    (hne : trimEnd t ≠ []) : Clean (trimEnd t) where
  ne_nil := hne
  head := by
    intro d hd
    have hinitial : trimEnd t <+: c :: s := (List.rdropWhile_prefix isBlank t).trans ht
    obtain ⟨e, rest, he⟩ := List.exists_cons_of_ne_nil hne
    rw [he] at hd hinitial
    obtain rfl : e = d := Option.some.inj hd
    rwa [(List.cons_prefix_cons.mp hinitial).1]
  last := by
    intro d hd
    rw [List.getLast?_eq_some_getLast hne, Option.some.injEq] at hd
    have hlast := List.rdropWhile_last_not isBlank t hne
    rw [Bool.not_eq_true] at hlast
    exact hd ▸ hlast

theorem clean_trim (h : trim s ≠ []) : Clean (trim s) := by
  cases htrim : trimStart s with
  | nil => simp [trim, htrim, trimEnd] at h
  | cons c t =>
    rw [trim, htrim] at h ⊢
    exact clean_trimEnd (List.prefix_refl _) (isBlank_of_trimStart htrim) h

theorem trim_ne_nil (h : isBlankText s = false) : trim s ≠ [] := by
  cases htrim : trimStart s with
  | nil =>
    have hblank : isBlankText s = true := List.all_eq_true.mpr (List.dropWhile_eq_nil_iff.mp htrim)
    rw [h] at hblank
    cases hblank
  | cons c t =>
    rw [trim, htrim]
    exact trimEnd_ne_nil (isBlank_of_trimStart htrim)

end Trimmed

section Lines

variable {line : List Char}

theorem clean_of_executePattern {path : List Char} (hline : '\n' ∉ line)
    (h : captures executePattern line = some [path]) (hne : path ≠ []) : Clean path := by
  rw [captures_executePattern hline] at h
  obtain ⟨found, hfound, hpath⟩ := Option.map_eq_some_iff.mp h
  obtain rfl : found = path := (List.cons.inj hpath).1
  unfold executePath? at hfound
  obtain ⟨rest, -, hrest⟩ := Option.bind_eq_some_iff.mp hfound
  obtain ⟨after, -, hafter⟩ := Option.bind_eq_some_iff.mp hrest
  obtain rfl : trim after = found := Option.some.inj hafter
  exact clean_trim hne

/-- A key is clean unless nothing but white space stands in its place. -/
theorem key_of_parameterKey? {before key : List Char} (hbefore : ':' ∉ before)
    (h : parameterKey? before = some key) :
    key ≠ [] ∧ ':' ∉ key ∧ (Clean key ↔ isBlankText before = false) := by
  unfold parameterKey? at h
  by_cases hblank : isBlankText before = true
  · rw [if_pos hblank] at h
    obtain ⟨c, hc, rfl⟩ := Option.map_eq_some_iff.mp h
    have hmem : c ∈ before := List.mem_of_getLast? hc
    have hspace : isBlank c = true := List.all_eq_true.mp hblank c hmem
    refine ⟨List.cons_ne_nil c [], fun hcolon => ?_, ?_⟩
    · rw [List.mem_singleton.mp hcolon] at hbefore
      exact hbefore hmem
    · simp [not_clean_of_isBlank hspace, hblank]
  · rw [if_neg hblank] at h
    obtain rfl := Option.some.inj h
    rw [Bool.not_eq_true] at hblank
    have hne := trim_ne_nil hblank
    refine ⟨hne, fun hcolon => ?_, iff_of_true (clean_trim hne) hblank⟩
    have hinitial := (List.rdropWhile_prefix isBlank (trimStart before)).subset hcolon
    exact hbefore ((trimStart_suffix before).subset hinitial)

theorem key_of_parameterPattern {key value : List Char} (hline : '\n' ∉ line)
    (h : captures parameterPattern line = some [key, value]) :
    key ≠ [] ∧ ':' ∉ key ∧ (Clean key ↔ isBareParameter line = false) := by
  have hread := captures_parameterPattern hline
  rw [h, Option.bind_some, keyValue?] at hread
  unfold parameter? at hread
  obtain ⟨rest, hquoted, hrest⟩ := Option.bind_eq_some_iff.mp hread.symm
  obtain ⟨entry, hentry, hparts⟩ := Option.bind_eq_some_iff.mp hrest
  have hpart : keyPart? line = some (entry.takeWhile (· ≠ ':')) := by
    simp [keyPart?, hquoted, hentry]
  have hbefore : ':' ∉ entry.takeWhile (· ≠ ':') := by
    intro hcolon
    simpa using List.mem_takeWhile_imp hcolon
  rw [isBareParameter, hpart, Option.any_some]
  split at hparts
  · obtain ⟨found, hfound, hpair⟩ := Option.bind_eq_some_iff.mp hparts
    obtain rfl : found = key := (Prod.mk.inj (Option.some.inj hpair)).1
    exact key_of_parameterKey? hbefore hfound
  · cases hparts

/-- The text of a heading begins with its first character that is no white space. -/
theorem clean_headingText {c : Char} {s : List Char} (hc : isBlank c = false) :
    Clean (headingText (c :: s)) := by
  unfold headingText
  have hinitial : ((trimEnd (c :: s)).reverse.dropWhile (· == '#')).reverse <+: c :: s :=
    (List.rdropWhile_prefix (· == '#') (trimEnd (c :: s))).trans
      (List.rdropWhile_prefix isBlank (c :: s))
  dsimp only
  split
  · exact clean_singleton hc
  · next hcore =>
    rw [List.isEmpty_iff] at hcore
    exact clean_trimEnd hinitial hc hcore

/-- The text of a heading is clean unless nothing but white space stands behind the hashes. -/
theorem text_of_heading? {level : Nat} {text : List Char} (h : heading? line = some (level, text)) :
    text ≠ [] ∧ (Clean text ↔ isBareHeading line = false) := by
  unfold heading? at h
  dsimp only at h
  rw [drop_takeWhile_length] at h
  unfold isBareHeading
  generalize line.dropWhile (· == '#') = rest at h ⊢
  split at h
  · cases h
  · next hmarked =>
    cases hafter : rest.dropWhile isBlank with
    | nil =>
      have hblank : ∀ c ∈ rest, isBlank c = true := List.dropWhile_eq_nil_iff.mp hafter
      have hspace : rest.takeWhile isBlank = rest := List.takeWhile_eq_self_iff.mpr hblank
      rw [hafter, hspace, List.isEmpty_nil, if_pos rfl] at h
      split at h
      · cases h
      · obtain rfl := (Prod.mk.inj (Option.some.inj h)).2
        simp only [hspace, Bool.or_eq_true, List.isEmpty_iff, not_or] at hmarked
        have hlast := List.drop_length_sub_one hmarked.2
        have hmem := List.getLast_mem hmarked.2
        have hbare : isBlankText rest = true := List.all_eq_true.mpr hblank
        rw [hlast]
        refine ⟨List.cons_ne_nil _ [], ?_⟩
        simp [not_clean_of_isBlank (hblank _ hmem), hbare]
    | cons c t =>
      rw [hafter, if_neg (by simp)] at h
      obtain rfl := (Prod.mk.inj (Option.some.inj h)).2
      have hc : isBlank c = false := isBlank_of_trimStart hafter
      have hclean : Clean (headingText (c :: t)) := clean_headingText hc
      have hmem : c ∈ rest :=
        (List.dropWhile_suffix isBlank).subset (hafter ▸ List.mem_cons_self)
      refine ⟨hclean.ne_nil, iff_of_true hclean ?_⟩
      rw [isBlankText, List.all_eq_false]
      exact ⟨c, hmem, by simp [hc]⟩

theorem text_of_headingPattern {marks text : List Char} (hline : '\n' ∉ line)
    (h : captures headingPattern line = some [marks, text]) :
    text ≠ [] ∧ (Clean text ↔ isBareHeading line = false) := by
  rw [captures_headingPattern hline] at h
  obtain ⟨⟨level, found⟩, hfound, hpair⟩ := Option.map_eq_some_iff.mp h
  obtain ⟨-, hrest⟩ := List.cons.inj hpair
  obtain rfl : found = text := (List.cons.inj hrest).1
  exact text_of_heading? hfound

end Lines

/-! The lines that the parameters of a reference stand in. -/

section Entries

variable {lines : List (List Char)} {key value : String}

theorem mem_entriesOf (h : (key, value) ∈ entriesOf lines) : ∃ line ∈ lines, ∃ text,
    captures parameterPattern line = some [key.toList, text] := by
  obtain ⟨line, hline, hentry⟩ := List.mem_filterMap.mp h
  obtain ⟨⟨first, last⟩, hpair, hnames⟩ := Option.map_eq_some_iff.mp hentry
  obtain ⟨found, hfound, hkey⟩ := Option.bind_eq_some_iff.mp hpair
  refine ⟨line, (List.takeWhile_prefix _).subset hline, ?_⟩
  unfold keyValue? at hkey
  split at hkey
  · next text =>
    obtain rfl := (Prod.mk.inj (Option.some.inj hkey)).1
    obtain rfl := (Prod.mk.inj hnames).1
    exact ⟨text, by rw [hfound, String.toList_ofList]⟩
  · cases hkey

theorem mem_entriesAfter (h : (key, value) ∈ entriesAfter lines) : ∃ line ∈ lines, ∃ text,
    captures parameterPattern line = some [key.toList, text] := by
  unfold entriesAfter at h
  split at h
  · cases h
  · next first rest hrest =>
    split at h
    · obtain ⟨line, hline, hcaptures⟩ := mem_entriesOf h
      have hsuffix : first :: rest <:+ lines := hrest ▸ List.dropWhile_suffix _
      exact ⟨line, hsuffix.subset (List.mem_cons_of_mem first hline), hcaptures⟩
    · cases h

end Entries

end Document

open Document

namespace Content

variable {body : String} {first : Nat}

theorem path_clean {r : SubWorkflowReference}
    (hr : r ∈ (ofBody body first).subWorkflowReferences) : Clean r.path.toList := by
  obtain ⟨k, l, hl, hreference⟩ := mem_subWorkflowReferences.mp hr
  obtain ⟨line, hline, -, -, rfl⟩ := outsideAt?_eq_some_iff.mp hl
  obtain ⟨path, hpath, hne, rfl⟩ := reference?_eq_some_iff.mp hreference
  rw [String.toList_ofList]
  exact clean_of_executePattern (Text.not_mem_lines (List.mem_of_getElem? hline)) hpath hne

/-- Every key stands in a line of the body. -/
theorem line_of_key {r : SubWorkflowReference}
    (hr : r ∈ (ofBody body first).subWorkflowReferences) {key : String}
    (hkey : key ∈ r.parameters.keys) : ∃ line ∈ Text.lines body.toList, ∃ value,
      captures parameterPattern line = some [key.toList, value] := by
  obtain ⟨k, l, hl, hreference⟩ := mem_subWorkflowReferences.mp hr
  obtain ⟨line, -, -, -, rfl⟩ := outsideAt?_eq_some_iff.mp hl
  obtain ⟨path, -, -, rfl⟩ := reference?_eq_some_iff.mp hreference
  obtain ⟨⟨name, value⟩, hentry, rfl⟩ := List.mem_map.mp hkey
  obtain ⟨after, hafter, hcaptures⟩ := mem_entriesAfter (Table.mem_of_mem_ofList hentry)
  exact ⟨after, List.mem_of_mem_drop hafter, hcaptures⟩

theorem line_of_heading {h : Heading} (hh : h ∈ (ofBody body first).headings) :
    ∃ line ∈ Text.lines body.toList, ∃ marks,
      captures headingPattern line = some [marks, h.text.toList] := by
  obtain ⟨k, l, hl, hheading⟩ := mem_headings.mp hh
  obtain ⟨line, hline, -, -, rfl⟩ := outsideAt?_eq_some_iff.mp hl
  obtain ⟨marks, text, hcaptures, rfl⟩ := heading?_eq_some_iff.mp hheading
  rw [String.toList_ofList]
  exact ⟨line, List.mem_of_getElem? hline, marks, hcaptures⟩

/-- All paths are clean, no key has a colon, and no name is empty. A key is clean unless nothing
but white space stands in its place, and so is the text of a heading. -/
theorem names_clean (body : String) (first : Nat) :
    (∀ r ∈ (ofBody body first).subWorkflowReferences, Clean r.path.toList ∧
      ∀ key ∈ r.parameters.keys, key.toList ≠ [] ∧ ':' ∉ key.toList ∧
        ∃ line ∈ Text.lines body.toList, ∃ value,
          captures parameterPattern line = some [key.toList, value] ∧
          (Clean key.toList ↔ isBareParameter line = false)) ∧
    ∀ h ∈ (ofBody body first).headings, h.text.toList ≠ [] ∧
      ∃ line ∈ Text.lines body.toList, ∃ marks,
        captures headingPattern line = some [marks, h.text.toList] ∧
        (Clean h.text.toList ↔ isBareHeading line = false) := by
  constructor
  · intro r hr
    refine ⟨path_clean hr, fun key hkey => ?_⟩
    obtain ⟨line, hline, value, hcaptures⟩ := line_of_key hr hkey
    obtain ⟨hne, hcolon, hclean⟩ := key_of_parameterPattern (Text.not_mem_lines hline) hcaptures
    exact ⟨hne, hcolon, line, hline, value, hcaptures, hclean⟩
  · intro h hh
    obtain ⟨line, hline, marks, hcaptures⟩ := line_of_heading hh
    obtain ⟨hne, hclean⟩ := text_of_headingPattern (Text.not_mem_lines hline) hcaptures
    exact ⟨hne, line, hline, marks, hcaptures, hclean⟩

/-- A heading, a path and a key with white space around them. -/
def spaced : String := "#  Title  ##\n> Execute:  ./a.md \n> Parameters:\n> -  depth : 2"

theorem names_clean_of_spaced :
    (⟨"./a.md", [("depth", "2")], 2⟩ ∈ (ofBody spaced 1).subWorkflowReferences ∧
      Clean "./a.md".toList ∧ "depth" ∈ Table.keys [("depth", "2")] ∧
      "depth".toList ≠ [] ∧ ':' ∉ "depth".toList) ∧
    ⟨1, "Title", 1⟩ ∈ (ofBody spaced 1).headings ∧ "Title".toList ≠ [] ∧
      ∃ line ∈ Text.lines spaced.toList, ∃ marks,
        captures headingPattern line = some [marks, "Title".toList] ∧
        (Clean "Title".toList ↔ isBareHeading line = false) := by
  have hreference : ⟨"./a.md", [("depth", "2")], 2⟩ ∈ (ofBody spaced 1).subWorkflowReferences := by
    decide +kernel
  have hheading : ⟨1, "Title", 1⟩ ∈ (ofBody spaced 1).headings := by decide +kernel
  have hkey : "depth" ∈ Table.keys [("depth", "2")] := by decide
  obtain ⟨hpath, hkeys⟩ := (names_clean spaced 1).1 _ hreference
  obtain ⟨hne, hcolon, -⟩ := hkeys "depth" hkey
  exact ⟨⟨hreference, hpath, hkey, hne, hcolon⟩, hheading, (names_clean spaced 1).2 _ hheading⟩

/-- A heading and a key with nothing but white space in their places. -/
def bare : String := "#  \n> Execute: ./a.md\n> Parameters:\n> - : v"

theorem bare_names_unclean :
    (ofBody bare 1).headings = [⟨1, " ", 1⟩] ∧
      (ofBody bare 1).subWorkflowReferences = [⟨"./a.md", [(" ", "v")], 2⟩] ∧
      ¬ Clean " ".toList := by
  refine ⟨by decide +kernel, by decide +kernel, ?_⟩
  exact not_clean_of_isBlank (by decide)

end Content

end Runbook
