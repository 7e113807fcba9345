import Runbook.Proofs.ToolNames

/-!
The tools that a text mentions. A tool is searched for by a pattern: the letters of its name in
either case, a hyphen or an underscore between its words, and a word boundary at both ends. Every
spelling of its name that stands alone in a text is found, and in an ASCII text nothing else is.
-/

namespace Runbook.Registry

open Text

/-- Whether the last character of a text belongs to a word. -/
def endsWord (s : List Char) : Bool := s.getLast?.any isWord

/-- A place where a word begins or ends, with the text on both sides of it. -/
def IsBoundary (front rest : List Char) : Prop := endsWord front ≠ startsWord rest

/-- The pattern of a tool takes `w`, with the text on both sides of it. -/
structure Matches (name front w rest : List Char) : Prop where
  begins : IsBoundary front (w ++ rest)
  spelled : List.Forall₂ (fun n c => spells n c = true) name w
  ends : IsBoundary (front ++ w) rest

/-- A part of a text with no word character next to it. -/
structure StandsAlone (text front w rest : String) : Prop where
  text_eq : text = front ++ w ++ rest
  front_ends : endsWord front.toList = false
  rest_starts : startsWord rest.toList = false

@[simp] theorem startsWord_cons (c : Char) (s : List Char) : startsWord (c :: s) = isWord c := rfl

@[simp] theorem endsWord_concat (s : List Char) (c : Char) : endsWord (s ++ [c]) = isWord c := by
  simp [endsWord]

/-! What a name's characters stand for. -/

/-- What is written for a letter is a letter. -/
theorem isWord_of_spells {n c : Char} (hn : n.isLower = true) (h : spells n c = true) :
    isWord c = true := by
  have hhyphen : n ≠ '-' := by
    rintro rfl
    exact absurd hn (by decide)
  rw [spells, if_neg hhyphen] at h
  simp only [Bool.or_eq_true, beq_iff_eq, Bool.and_eq_true] at h
  rcases h with (hlower | ⟨-, rfl⟩) | ⟨-, rfl⟩
  · have hnumber := toNat_toLower c
    have hrange : 97 ≤ n.toNat ∧ n.toNat ≤ 122 := by
      unfold Char.isLower at hn
      simpa [UInt32.le_iff_toNat_le] using hn
    rw [hlower] at hnumber
    have hletter : 65 ≤ c.toNat ∧ c.toNat ≤ 90 ∨ 97 ≤ c.toNat ∧ c.toNat ≤ 122 := by
      split at hnumber <;> omega
    have halpha : c.isAlpha = true := by
      unfold Char.isAlpha Char.isUpper Char.isLower
      simp only [Bool.or_eq_true, Bool.and_eq_true, decide_eq_true_eq, UInt32.le_iff_toNat_le,
        ge_iff_le]
      exact hletter
    rw [isWord, if_pos (by omega), Char.isAlphanum, halpha]
    rfl
  · decide +kernel
  · decide +kernel

/-- Every character spells what stands for it in a normal form. -/
theorem spells_fold (c : Char) : spells (fold c) c = true := by
  have hmark : c.toLower = '_' → c = '_' := (toLower_eq_mark_iff (.inl rfl)).mp
  have hhyphen : c.toLower = '-' → c = '-' := (toLower_eq_mark_iff (.inr rfl)).mp
  unfold spells fold hyphenated
  by_cases hlower : c.toLower = '_'
  · simp [hmark hlower]
  · by_cases hsame : c.toLower = '-'
    · simp [hhyphen hsame]
    · simp [hlower, hsame]

/-- An ASCII character spells nothing else, but for the underscore, which is in no name. -/
theorem fold_of_spells {n c : Char} (hn : n ≠ '_') (hc : c.toNat < 128) (h : spells n c = true) :
    fold c = n := by
  have hlong : c ≠ '\u017f' := by
    rintro rfl
    exact absurd hc (by decide)
  have hkelvin : c ≠ '\u212a' := by
    rintro rfl
    exact absurd hc (by decide)
  unfold spells at h
  split at h
  · next hhyphen =>
    simp only [Bool.or_eq_true, beq_iff_eq] at h
    rcases h with rfl | rfl
    · exact hhyphen.symm
    · exact hhyphen.symm
  · simp only [hlong, hkelvin, Bool.or_eq_true, beq_iff_eq, Bool.and_eq_true, and_false,
      or_false] at h
    rw [fold, hyphenated, h, if_neg hn]

/-! The names of the tools. -/

/-- A name that begins and ends with a letter, without underscores and white space. -/
structure ToolName (name : List Char) : Prop where
  first : ∃ n rest, name = n :: rest ∧ n.isLower = true
  last : ∃ front n, name = front ++ [n] ∧ n.isLower = true
  plain : '_' ∉ name
  visible : ∀ n ∈ name, isBlank n = false

theorem toolName_of_mem {tool : String} (h : tool ∈ builtinTools) : ToolName tool.toList := by
  have hall : ∀ tool ∈ builtinTools, tool.toList.head?.any Char.isLower = true ∧
      tool.toList.getLast?.any Char.isLower = true ∧ '_' ∉ tool.toList ∧
      tool.toList.all (fun n => !isBlank n) = true := by decide +kernel
  obtain ⟨hfirst, hlast, hplain, hvisible⟩ := hall tool h
  obtain ⟨n, hn, hsmall⟩ := (Option.any_eq_true _ _).mp hfirst
  obtain ⟨m, hm, hsmall'⟩ := (Option.any_eq_true _ _).mp hlast
  obtain ⟨rest, hrest⟩ := List.head?_eq_some_iff.mp hn
  obtain ⟨front, hfront⟩ := List.getLast?_eq_some_iff.mp hm
  refine ⟨⟨n, rest, hrest, hsmall⟩, ⟨front, m, hfront, hsmall'⟩, hplain, fun n hn => ?_⟩
  rw [← Bool.not_eq_true', List.all_eq_true.mp hvisible n hn]

section Search

variable {name front w rest s : List Char}

theorem startsWord_of_spelled (hname : ToolName name)
    (h : List.Forall₂ (fun n c => spells n c = true) name w) (rest : List Char) :
    startsWord (w ++ rest) = true := by
  obtain ⟨n, names, rfl, hn⟩ := hname.first
  obtain ⟨c, w, hc, -, rfl⟩ := List.forall₂_cons_left_iff.mp h
  rw [List.cons_append, startsWord_cons, isWord_of_spells hn hc]

theorem endsWord_of_spelled (hname : ToolName name)
    (h : List.Forall₂ (fun n c => spells n c = true) name w) (front : List Char) :
    endsWord (front ++ w) = true := by
  obtain ⟨names, n, rfl, hn⟩ := hname.last
  rw [← List.forall₂_reverse_iff, List.reverse_concat] at h
  obtain ⟨c, before, hc, -, hw⟩ := List.forall₂_cons_left_iff.mp h
  rw [List.reverse_eq_cons_iff] at hw
  rw [hw, ← List.append_assoc, endsWord_concat, isWord_of_spells hn hc]

/-- The boundaries lie where no word character is next to what is taken. -/
theorem matches_iff (hname : ToolName name) : Matches name front w rest ↔
    endsWord front = false ∧ List.Forall₂ (fun n c => spells n c = true) name w ∧
      startsWord rest = false := by
  constructor
  · intro h
    have hbegins := h.begins
    have hends := h.ends
    rw [IsBoundary, startsWord_of_spelled hname h.spelled, Ne, Bool.not_eq_true] at hbegins
    rw [IsBoundary, endsWord_of_spelled hname h.spelled, Ne, eq_comm, Bool.not_eq_true] at hends
    exact ⟨hbegins, h.spelled, hends⟩
  · rintro ⟨hfront, hspelled, hrest⟩
    refine ⟨?_, hspelled, ?_⟩
    · rw [IsBoundary, hfront, startsWord_of_spelled hname hspelled]
      exact Bool.false_ne_true
    · rw [IsBoundary, hrest, endsWord_of_spelled hname hspelled]
      exact Bool.false_ne_true.symm

theorem spelled?_eq_some_iff : spelled? name s = some rest ↔
    ∃ w, s = w ++ rest ∧ List.Forall₂ (fun n c => spells n c = true) name w := by
  induction name generalizing s with
  | nil =>
    simp only [spelled?, Option.some.injEq, List.forall₂_nil_left_iff]
    constructor
    · rintro rfl
      exact ⟨[], rfl, rfl⟩
    · rintro ⟨w, hs, rfl⟩
      exact hs
  | cons n name ih =>
    cases s with
    | nil =>
      simp only [spelled?, List.forall₂_cons_left_iff]
      constructor
      · intro h
        cases h
      · rintro ⟨w, hs, c, w', -, -, rfl⟩
        cases hs
    | cons c s =>
      simp only [spelled?, List.forall₂_cons_left_iff]
      constructor
      · intro h
        split at h
        · next hc =>
          obtain ⟨w, rfl, hw⟩ := ih.mp h
          exact ⟨c :: w, rfl, c, w, hc, hw, rfl⟩
        · cases h
      · rintro ⟨w, hs, d, w', hd, hw, rfl⟩
        obtain ⟨rfl, rfl⟩ := List.cons.inj hs
        rw [if_pos hd]
        exact ih.mpr ⟨w', rfl, hw⟩

/-- By induction on the text, with what has been passed kept in front of it. -/
theorem mentions_iff (hname : ToolName name) (front s : List Char) :
    mentions name (endsWord front) s = true ↔
      ∃ passed w rest, s = passed ++ w ++ rest ∧ Matches name (front ++ passed) w rest := by
  induction s generalizing front with
  | nil =>
    simp only [mentions, Bool.false_eq_true, false_iff]
    rintro ⟨passed, w, rest, hs, hmatch⟩
    obtain ⟨n, names, rfl, -⟩ := hname.first
    obtain ⟨c, w, -, -, rfl⟩ := List.forall₂_cons_left_iff.mp hmatch.spelled
    simp at hs
  | cons c s ih =>
    have hnext := ih (front ++ [c])
    rw [endsWord_concat] at hnext
    rw [mentions, Bool.or_eq_true, hnext]
    constructor
    · rintro (hhere | ⟨passed, w, rest, rfl, hmatch⟩)
      · rw [Bool.and_eq_true, Bool.not_eq_true'] at hhere
        obtain ⟨hfront, hhere⟩ := hhere
        split at hhere
        · next rest hrest =>
          obtain ⟨w, hs, hw⟩ := spelled?_eq_some_iff.mp hrest
          refine ⟨[], w, rest, hs, ?_⟩
          rw [List.append_nil]
          exact (matches_iff hname).mpr ⟨hfront, hw, by simpa using hhere⟩
        · cases hhere
      · refine ⟨c :: passed, w, rest, by simp, ?_⟩
        rwa [List.append_assoc] at hmatch
    · rintro ⟨passed, w, rest, hs, hmatch⟩
      cases passed with
      | nil =>
        left
        obtain ⟨hfront, hw, hrest⟩ := (matches_iff hname).mp hmatch
        rw [List.append_nil] at hfront
        rw [hfront, spelled?_eq_some_iff.mpr ⟨w, hs, hw⟩]
        simp [hrest]
      | cons d passed =>
        right
        obtain ⟨rfl, rfl⟩ := List.cons.inj hs
        refine ⟨passed, w, rest, rfl, ?_⟩
        rwa [List.append_assoc]

end Search

/-! Spellings and matches. -/

section Spellings

variable {tool front w rest text : String}

theorem spelled_of_normalForm (h : normalForm w = tool) (htrim : trimmed w = w) :
    List.Forall₂ (fun n c => spells n c = true) tool.toList w.toList := by
  have hlist : trim w.toList = w.toList := by
    rw [← String.toList_ofList (l := trim w.toList)]
    exact congrArg String.toList htrim
  rw [← h, toList_normalForm, hlist, List.forall₂_map_left_iff, List.forall₂_same]
  exact fun c _ => spells_fold c

theorem trim_of_visible {s : List Char} (h : ∀ c ∈ s, isBlank c = false) : trim s = s := by
  have hstart : trimStart s = s := by
    refine List.dropWhile_eq_self_iff.mpr fun hlength => ?_
    rw [h _ (List.getElem_mem hlength)]
    exact Bool.false_ne_true
  rw [trim, hstart]
  refine List.rdropWhile_eq_self_iff.mpr fun hne => ?_
  rw [h _ (List.getLast_mem hne)]
  exact Bool.false_ne_true

theorem map_fold_of_spelled {name s : List Char} (hplain : '_' ∉ name)
    (hs : ∀ c ∈ s, c.toNat < 128)
    (h : List.Forall₂ (fun n c => spells n c = true) name s) : s.map fold = name := by
  induction h with
  | nil => rfl
  | cons hc _ ih =>
    rw [List.mem_cons, not_or] at hplain
    rw [List.forall_mem_cons] at hs
    rw [List.map_cons, fold_of_spells (Ne.symm hplain.1) hs.1 hc, ih hplain.2 hs.2]

/-- A spelling in ASCII has the name of the tool for its normal form. -/
theorem normalForm_of_spelled (hname : ToolName tool.toList) (hw : ∀ c ∈ w.toList, c.toNat < 128)
    (h : List.Forall₂ (fun n c => spells n c = true) tool.toList w.toList) :
    normalForm w = tool := by
  have hfold := map_fold_of_spelled hname.plain hw h
  have hvisible : ∀ c ∈ w.toList, isBlank c = false := by
    intro c hc
    rw [← isBlank_fold]
    exact hname.visible _ (hfold ▸ List.mem_map_of_mem hc)
  rw [← String.toList_inj, toList_normalForm, trim_of_visible hvisible, hfold]

theorem mem_toolMentions_iff : tool ∈ toolMentions text ↔ tool ∈ builtinTools ∧
    ∃ front w rest, text.toList = front ++ w ++ rest ∧ Matches tool.toList front w rest := by
  rw [toolMentions, List.mem_filter]
  exact and_congr_right fun htool => mentions_iff (toolName_of_mem htool) [] text.toList

/-- Every spelling of a tool's name that stands alone in a text is found there. In an ASCII text
each tool that is found stands alone in a spelling of its name; in any text, where its pattern
matches. No tool is given twice, and all in the order of the registry. -/
theorem detection_agrees (text : String) :
    (∀ front w rest, StandsAlone text front w rest → isBuiltin w = true → trimmed w = w →
      normalForm w ∈ toolMentions text) ∧
    ((∀ c ∈ text.toList, c.toNat < 128) → ∀ tool ∈ toolMentions text,
      ∃ front w rest, StandsAlone text front w rest ∧ normalForm w = tool) ∧
    (∀ tool, tool ∈ toolMentions text ↔ tool ∈ builtinTools ∧
      ∃ front w rest, text.toList = front ++ w ++ rest ∧ Matches tool.toList front w rest) ∧
    (toolMentions text).Sublist builtinTools ∧ (toolMentions text).Nodup := by
  have horder : (toolMentions text).Sublist builtinTools := List.filter_sublist
  refine ⟨?_, ?_, fun tool => mem_toolMentions_iff, horder, horder.nodup (by decide)⟩
  · intro front w rest halone hbuiltin htrim
    have htool : normalForm w ∈ builtinTools := List.contains_iff_mem.mp hbuiltin
    refine mem_toolMentions_iff.mpr ⟨htool, front.toList, w.toList, rest.toList, ?_, ?_⟩
    · rw [halone.text_eq, String.toList_append, String.toList_append]
    · exact (matches_iff (toolName_of_mem htool)).mpr
        ⟨halone.front_ends, spelled_of_normalForm rfl htrim, halone.rest_starts⟩
  · intro hascii tool htool
    obtain ⟨htool, front, w, rest, htext, hmatch⟩ := mem_toolMentions_iff.mp htool
    have hname := toolName_of_mem htool
    obtain ⟨hfront, hspelled, hrest⟩ := (matches_iff hname).mp hmatch
    refine ⟨.ofList front, .ofList w, .ofList rest, ⟨?_, ?_, ?_⟩, ?_⟩
    · rw [← String.ofList_append, ← String.ofList_append, ← htext, String.ofList_toList]
    · rw [String.toList_ofList, hfront]
    · rw [String.toList_ofList, hrest]
    · refine normalForm_of_spelled hname ?_ (by rwa [String.toList_ofList])
      intro c hc
      rw [String.toList_ofList] at hc
      exact hascii c (by simp [htext, hc])

end Spellings

/-- A spelling between an emphasis mark and a full stop; the other tool's name is part of a longer
word. -/
theorem detection_agrees_on_emphasis :
    StandsAlone "Run *Build_TEST*. No file-systems." "Run *" "Build_TEST" "*. No file-systems." ∧
      normalForm "Build_TEST" = "build-test" ∧
      "build-test" ∈ toolMentions "Run *Build_TEST*. No file-systems." ∧
      ∃ front w rest, StandsAlone "Run *Build_TEST*. No file-systems." front w rest ∧
        normalForm w = "build-test" := by
  have halone : StandsAlone "Run *Build_TEST*. No file-systems." "Run *" "Build_TEST"
      "*. No file-systems." := ⟨by decide, by decide, by decide⟩
  have hnormal : normalForm "Build_TEST" = "build-test" := by decide
  have hascii : "Run *Build_TEST*. No file-systems.".toList.all (·.toNat < 128) = true := by
    decide
  obtain ⟨hfound, hback, -⟩ := detection_agrees "Run *Build_TEST*. No file-systems."
  have hmention := hfound _ _ _ halone (by decide) (by decide)
  rw [hnormal] at hmention
  refine ⟨halone, hnormal, hmention, hback (fun c hc => ?_) _ hmention⟩
  exact of_decide_eq_true (List.all_eq_true.mp hascii c hc)

/-- Outside of ASCII a tool is found by letters that its normal form does not fold. -/
example : toolMentions "file-\u017fystem" = ["file-system"] ∧
    isBuiltin "file-\u017fystem" = false := by decide +kernel

end Runbook.Registry
