import Runbook.Document.Outline
import Runbook.Proofs.PatternMatching

/-!
The patterns of the lines in a body. The readers of quoted lines and of headings give just what
these patterns capture.
-/

namespace Runbook.Document

open Text

def quoteMark : List Piece := [blanks, one '>', blanks]

/-- `> Execute: path` -/
def executePattern : List Piece := quoteMark ++ (literal "Execute:" ++ [blanks, content, blanks])

/-- `> Parameters:` and anything after it. -/
def parametersPattern : List Piece :=
  quoteMark ++ (literal "Parameters:" ++ [⟨isInline, 0, none, false, false⟩])

/-- What stands before the colon of a parameter; something must. -/
def keyText : Piece := ⟨(· ≠ ':'), 1, none, true, true⟩

/-- `> - key: value` -/
def parameterPattern : List Piece :=
  quoteMark ++ [one '-', blanks, keyText, blanks, one ':', blanks, content, blanks]

/-- `# text`, and perhaps hashes at the end. -/
def headingPattern : List Piece :=
  [⟨(· == '#'), 1, some 6, false, true⟩, ⟨isBlank, 1, none, false, false⟩,
    ⟨isInline, 1, none, true, true⟩, blanks, hashes, blanks]

section Quotes

variable {line : List Char}

theorem quoted?_suffix {rest : List Char} (h : quoted? line = some rest) : rest <:+ line := by
  unfold quoted? at h
  split at h
  · next tail htail =>
    obtain rfl : trimStart tail = rest := Option.some.inj h
    have htail' : tail <:+ '>' :: tail := List.suffix_cons _ _
    exact (trimStart_suffix tail).trans (htail'.trans (htail ▸ trimStart_suffix line))
  · cases h

theorem stripPrefix?_suffix {word s rest : List Char} (h : stripPrefix? word s = some rest) :
    rest <:+ s := by
  unfold stripPrefix? at h
  split at h
  · obtain rfl := Option.some.inj h
    exact List.drop_suffix _ _
  · cases h

/-- After the quote mark the pattern goes on with what is quoted. -/
theorem captures_quoteMark {c : Char} (hc : isBlank c = false) (rest : List Piece) :
    captures (quoteMark ++ one c :: rest) line =
      (quoted? line).bind (captures (one c :: rest)) := by
  change captures (blanks :: one '>' :: blanks :: one c :: rest) line = _
  rw [captures_blanks_one (by decide)]
  unfold quoted?
  cases htrim : trimStart line with
  | nil => rfl
  | cons d tail =>
    rw [captures_one_cons]
    by_cases hd : d = '>'
    · subst hd
      rw [if_pos rfl, captures_blanks_one hc]
      rfl
    · simp [hd]

theorem captures_blankQuote : (captures quoteMark line).isSome = isBlankQuote line := by
  change (captures [blanks, one '>', blanks] line).isSome = _
  rw [captures_blanks_one (by decide)]
  unfold isBlankQuote quoted?
  cases htrim : trimStart line with
  | nil => rfl
  | cons d tail =>
    rw [captures_one_cons]
    by_cases hd : d = '>'
    · subst hd
      rw [if_pos rfl, captures_blanks]
      have hnil : trimStart tail = [] ↔ isBlankText tail = true := by
        simp [trimStart, isBlankText]
      by_cases hblank : isBlankText tail = true
      · simp [hblank, hnil.mpr hblank]
      · simp [hblank, mt hnil.mp hblank]
    · simp [hd]

theorem captures_executePattern (hline : '\n' ∉ line) :
    captures executePattern line = (executePath? line).map fun path => [path] := by
  have hpattern : captures executePattern line =
      (quoted? line).bind (captures (literal "Execute:" ++ [blanks, content, blanks])) :=
    captures_quoteMark (by decide) _
  rw [hpattern]
  unfold executePath?
  cases hquoted : quoted? line with
  | none => rfl
  | some rest =>
    have hrest : '\n' ∉ rest := not_mem_of_suffix hline (quoted?_suffix hquoted)
    change (captures (literal "Execute:" ++ [blanks, content, blanks])) rest =
      ((stripPrefix? "Execute:".toList rest).bind fun path => some (trim path)).map fun path => [path]
    rw [captures_literal]
    cases hpath : stripPrefix? "Execute:".toList rest with
    | none => rfl
    | some path =>
      exact captures_trimmed (not_mem_of_suffix hrest (stripPrefix?_suffix hpath))

theorem captures_parametersPattern (hline : '\n' ∉ line) :
    (captures parametersPattern line).isSome = isParametersLine line := by
  have hpattern : captures parametersPattern line =
      (quoted? line).bind
        (captures (literal "Parameters:" ++ [⟨isInline, 0, none, false, false⟩])) :=
    captures_quoteMark (by decide) _
  rw [hpattern]
  unfold isParametersLine
  cases hquoted : quoted? line with
  | none => rfl
  | some rest =>
    have hrest : '\n' ∉ rest := not_mem_of_suffix hline (quoted?_suffix hquoted)
    rw [Option.bind_some, captures_literal, Option.bind_some]
    cases hafter : stripPrefix? "Parameters:".toList rest with
    | none => rfl
    | some after =>
      have hinline : '\n' ∉ after := not_mem_of_suffix hrest (stripPrefix?_suffix hafter)
      have hend : captures [] (after.dropWhile isInline) = some [] := by
        have hall := List.takeWhile_eq_self_iff.mp (takeWhile_isInline hinline)
        rw [List.dropWhile_eq_nil_iff.mpr hall]
        rfl
      rw [Option.bind_some, captures_run_some (Nat.zero_le _) hend]
      rfl

/-! A parameter. -/

section Parameters

variable {before value : List Char}

/-- Between the key and its colon stands nothing but white space. -/
theorem captures_colon {rest : List Piece} (hbefore : ':' ∉ before) :
    captures (blanks :: one ':' :: rest) (before ++ ':' :: value) =
      if isBlankText before then captures rest value else none := by
  rw [captures_blanks_one (by decide)]
  induction before with
  | nil => rw [List.nil_append, trimStart, List.dropWhile_cons_of_neg (by decide),
      captures_one_cons, if_pos rfl]; rfl
  | cons c before ih =>
    have hc : ':' ≠ c := fun h => hbefore (h ▸ List.mem_cons_self)
    have htail : ':' ∉ before := fun h => hbefore (List.mem_cons_of_mem c h)
    by_cases hblank : isBlank c = true
    · have htrim : trimStart (c :: before ++ ':' :: value) = trimStart (before ++ ':' :: value) :=
        List.dropWhile_cons_of_pos hblank
      have htext : isBlankText (c :: before) = isBlankText before := by
        simp [isBlankText, hblank]
      rw [htrim, htext, ih htail]
    · have htrim : trimStart (c :: before ++ ':' :: value) = c :: before ++ ':' :: value :=
        List.dropWhile_cons_of_neg hblank
      have htext : isBlankText (c :: before) = false := by simp [isBlankText, hblank]
      rw [htrim, htext, List.cons_append, captures_one_cons, if_neg (Ne.symm hc)]
      rfl

theorem takeWhile_colon (hbefore : ':' ∉ before) :
    (before ++ ':' :: value).takeWhile (· ≠ ':') = before := by
  have hall : ∀ c ∈ before, (decide (c ≠ ':')) = true := by
    intro c hc
    have hne : c ≠ ':' := fun h => hbefore (h ▸ hc)
    simp [hne]
  rw [List.takeWhile_append_of_pos hall, List.takeWhile_cons_of_neg (by simp), List.append_nil]

/-- The key goes up to the white space before the colon, but it has at least one character. -/
theorem captures_keyText (hbefore : ':' ∉ before) (hne : before ≠ []) (hvalue : '\n' ∉ value) :
    captures [keyText, blanks, one ':', blanks, content, blanks] (before ++ ':' :: value) =
      some [before.take (max 1 (trimEnd before).length), trim value] := by
  have hlength : (trimEnd before).length ≤ before.length :=
    (List.rdropWhile_prefix isBlank before).length_le
  have hpos : 1 ≤ before.length := List.length_pos_iff.mpr hne
  have hmax : max 1 (trimEnd before).length ≤ before.length := Nat.max_le.mpr ⟨hpos, hlength⟩
  have hlongest : keyText.longest (before ++ ':' :: value) = before.length :=
    congrArg List.length (takeWhile_colon hbefore)
  have hdrop : ∀ n, n ≤ before.length →
      captures [blanks, one ':', blanks, content, blanks] ((before ++ ':' :: value).drop n) =
        if isBlankText (before.drop n) then some [trim value] else none := by
    intro n hn
    have habsent : ':' ∉ before.drop n := fun h => hbefore (List.mem_of_mem_drop h)
    rw [List.drop_append_of_le_length hn, captures_colon habsent, captures_trimmed hvalue]
  have hcaptures := captures_eq_some (p := keyText) (Nat.le_max_left 1 (trimEnd before).length)
    (hlongest ▸ hmax)
    (by rw [hdrop _ hmax, if_pos (isBlankText_drop_iff.mpr (Nat.le_max_right _ _))])
    fun n hleast hn hlt => by
      have hleast : 1 ≤ n := hleast
      have hlt : n < max 1 (trimEnd before).length := hlt
      have hblank : ¬ isBlankText (before.drop n) = true := by
        rw [isBlankText_drop_iff]
        omega
      rw [hdrop n (hlongest ▸ hn), if_neg hblank]
  rw [hcaptures, List.take_append_of_le_length hmax]
  rfl

theorem captures_keyText_none :
    captures [keyText, blanks, one ':', blanks, content, blanks] (':' :: value) = none := by
  have hlongest : keyText.longest (':' :: value) = 0 := rfl
  exact captures_of_short (hlongest ▸ Nat.zero_lt_one)

theorem trimEnd_ne_nil {c : Char} {s : List Char} (hc : isBlank c = false) :
    trimEnd (c :: s) ≠ [] := by
  intro h
  have hblank : isBlank c = true := List.rdropWhile_eq_nil_iff.mp h c List.mem_cons_self
  rw [hc] at hblank
  cases hblank

theorem isBlank_of_trimStart {s tail : List Char} {c : Char} (h : trimStart s = c :: tail) :
    isBlank c = false := by
  have hhead := List.head?_dropWhile_not isBlank s
  rw [show s.dropWhile isBlank = c :: tail from h, List.head?_cons] at hhead
  simpa using hhead

/-- White space alone before the colon: the key is the last character of it. -/
theorem captures_blank_entry {init : List Char} {c : Char}
    (hblank : isBlankText (init ++ [c]) = true) (hvalue : '\n' ∉ value) :
    captures [blanks, keyText, blanks, one ':', blanks, content, blanks]
      (init ++ [c] ++ ':' :: value) = some [[c], trim value] := by
  have hall : ∀ d ∈ init ++ [c], isBlank d = true := List.all_eq_true.mp hblank
  have hrun : ((init ++ [c] ++ ':' :: value).takeWhile isBlank).length = init.length + 1 := by
    rw [List.takeWhile_append_of_pos hall, List.takeWhile_cons_of_neg (by decide),
      List.append_nil, List.length_append, List.length_singleton]
  have hwhole : (init ++ [c] ++ ':' :: value).drop (init.length + 1) = ':' :: value := by
    have hlength : (init ++ [c]).length = init.length + 1 := by
      rw [List.length_append, List.length_singleton]
    rw [← hlength, List.drop_left]
  have hlast : (init ++ [c] ++ ':' :: value).drop init.length = [c] ++ ':' :: value := by
    rw [List.append_assoc, List.drop_left]
  have hc : ':' ∉ [c] := by
    intro h
    have hcolon := hall ':' (List.mem_append_right init h)
    simp [isBlank] at hcolon
  refine captures_give_back hrun (Nat.zero_le _) ?_ ?_
  · rw [hwhole]
    exact captures_keyText_none
  · have htake : [c].take (max 1 (trimEnd [c]).length) = [c] :=
      List.take_of_length_le (Nat.le_max_left _ _)
    rw [hlast, captures_keyText hc (List.cons_ne_nil c []) hvalue, htake]

theorem captures_text_entry (hbefore : ':' ∉ before) (htext : ¬ isBlankText before = true)
    (hvalue : '\n' ∉ value) :
    captures [blanks, keyText, blanks, one ':', blanks, content, blanks] (before ++ ':' :: value) =
      some [trim before, trim value] := by
  have hne : trimStart before ≠ [] := fun h =>
    htext (List.all_eq_true.mpr (List.dropWhile_eq_nil_iff.mp h))
  have habsent : ':' ∉ trimStart before := not_mem_of_suffix hbefore (trimStart_suffix before)
  have hkey := captures_keyText habsent hne hvalue
  have hlength : 1 ≤ (trimEnd (trimStart before)).length := by
    obtain ⟨c, tail, htail⟩ := List.exists_cons_of_ne_nil hne
    rw [htail]
    exact List.length_pos_iff.mpr (trimEnd_ne_nil (isBlank_of_trimStart htail))
  rw [Nat.max_eq_right hlength, take_length_trimEnd] at hkey
  refine captures_run_some (Nat.zero_le _) ?_
  have hdrop : (before ++ ':' :: value).dropWhile isBlank = trimStart before ++ ':' :: value := by
    have hsome : ¬ (before.dropWhile isBlank).isEmpty = true := by
      rw [List.isEmpty_iff]
      exact hne
    rw [List.dropWhile_append, if_neg hsome]
    rfl
  rw [hdrop]
  exact hkey

/-- What the key before a colon and the value after it capture. -/
theorem captures_entry (hbefore : ':' ∉ before) (hvalue : '\n' ∉ value) :
    captures [blanks, keyText, blanks, one ':', blanks, content, blanks] (before ++ ':' :: value) =
      (parameterKey? before).map fun key => [key, trim value] := by
  unfold parameterKey?
  by_cases hblank : isBlankText before = true
  · rw [if_pos hblank]
    rcases List.eq_nil_or_concat' before with rfl | ⟨init, c, rfl⟩
    · refine captures_eq_none fun n _ hn => ?_
      obtain rfl : n = 0 := Nat.le_zero.mp hn
      exact captures_keyText_none
    · rw [captures_blank_entry hblank hvalue, List.getLast?_concat]
      rfl
  · rw [if_neg hblank, captures_text_entry hbefore hblank hvalue]
    rfl

end Parameters

/-- The key and the value of a parameter, as its pattern captures them; the value loses its
quotes. -/
def keyValue? : List (List Char) → Option (List Char × List Char)
  | [key, value] => some (key, unquote value)
  | _ => none

theorem captures_parameterPattern (hline : '\n' ∉ line) :
    (captures parameterPattern line).bind keyValue? = parameter? line := by
  have hpattern : captures parameterPattern line = (quoted? line).bind (captures (literal "-" ++
      [blanks, keyText, blanks, one ':', blanks, content, blanks])) :=
    captures_quoteMark (by decide) _
  rw [hpattern]
  unfold parameter?
  cases hquoted : quoted? line with
  | none => rfl
  | some rest =>
    have hrest : '\n' ∉ rest := not_mem_of_suffix hline (quoted?_suffix hquoted)
    rw [Option.bind_some, captures_literal]
    change _ = (stripPrefix? "-".toList rest).bind _
    cases hentry : stripPrefix? "-".toList rest with
    | none => rfl
    | some entry =>
      have hinline : '\n' ∉ entry := not_mem_of_suffix hrest (stripPrefix?_suffix hentry)
      rw [Option.bind_some, Option.bind_some]
      cases hcolon : entry.dropWhile (· ≠ ':') with
      | nil =>
        have habsent : ':' ∉ entry := by
          intro h
          simpa using List.dropWhile_eq_nil_iff.mp hcolon ':' h
        rw [captures_of_not_mem (c := ':') (by simp) habsent]
        rfl
      | cons d value =>
        have hd : d = ':' := by
          have hhead := List.head?_dropWhile_not (fun c => decide (c ≠ ':')) entry
          rw [hcolon, List.head?_cons] at hhead
          simpa using hhead
        subst hd
        have hbefore : ':' ∉ entry.takeWhile (· ≠ ':') := by
          intro h
          simpa using List.mem_takeWhile_imp h
        have hentry : entry = entry.takeWhile (· ≠ ':') ++ ':' :: value := by
          rw [← hcolon, List.takeWhile_append_dropWhile]
        have hvalue : '\n' ∉ value := by
          intro h
          refine hinline ?_
          rw [hentry]
          exact List.mem_append_right _ (List.mem_cons_of_mem _ h)
        have hcaptures := captures_entry hbefore hvalue
        rw [← hentry] at hcaptures
        rw [hcaptures]
        cases parameterKey? (entry.takeWhile (· ≠ ':')) <;> rfl

theorem isSome_parameterPattern (hline : '\n' ∉ line) :
    (captures parameterPattern line).isSome = (parameter? line).isSome := by
  rw [← captures_parameterPattern hline]
  cases hcaptures : captures parameterPattern line with
  | none => rfl
  | some found =>
    obtain ⟨key, value, rfl⟩ := List.length_eq_two.mp (length_captures hcaptures)
    rfl

end Quotes

/-! A heading. -/

section Headings

variable {line text : List Char}

/-- The text of a heading without hashes at its end and without the white space around them. -/
def headingCore (text : List Char) : List Char :=
  trimEnd ((trimEnd text).rdropWhile (· == '#'))

theorem prefix_headingCore (text : List Char) : headingCore text <+: text :=
  (List.rdropWhile_prefix isBlank _).trans
    ((List.rdropWhile_prefix (· == '#') _).trans (List.rdropWhile_prefix isBlank text))

theorem headingCore_drop (text : List Char) (n : Nat) :
    headingCore (text.drop n) = (headingCore text).drop n := by
  simp only [headingCore, trimEnd_eq, rdropWhile_drop]

theorem headingText_eq (text : List Char) :
    headingText text = text.take (max 1 (headingCore text).length) := by
  change (if (headingCore text).isEmpty then text.take 1 else headingCore text) = _
  by_cases hempty : headingCore text = []
  · rw [hempty]
    rfl
  · have hpos : 1 ≤ (headingCore text).length := List.length_pos_iff.mpr hempty
    rw [if_neg (by rwa [List.isEmpty_iff]), Nat.max_eq_right hpos]
    exact List.prefix_iff_eq_take.mp (prefix_headingCore text)

theorem rdropWhile_append_of_pos {q : Char → Bool} {s t : List Char} (ht : ∀ c ∈ t, q c = true) :
    (s ++ t).rdropWhile q = s.rdropWhile q := by
  have hreverse : ∀ c ∈ t.reverse, q c = true := fun c hc => ht c (List.mem_reverse.mp hc)
  rw [List.rdropWhile, List.reverse_append, List.dropWhile_append_of_pos hreverse, List.rdropWhile]

theorem isBlankText_after_hashes {s t : List Char} (hs : ∀ c ∈ s, (c == '#') = true)
    (ht : ∀ c ∈ t, isBlank c = true) :
    isBlankText ((trimStart (s ++ t)).dropWhile (· == '#')) = true := by
  cases s with
  | nil =>
    have hnil : trimStart t = [] := List.dropWhile_eq_nil_iff.mpr ht
    rw [List.nil_append, hnil]
    rfl
  | cons c s =>
    have hc : c = '#' := by simpa using hs c List.mem_cons_self
    have hstart : trimStart (c :: s ++ t) = c :: s ++ t := by
      subst hc
      exact List.dropWhile_cons_of_neg (by decide)
    rw [hstart, List.dropWhile_append_of_pos hs]
    exact List.all_eq_true.mpr fun d hd => ht d ((List.dropWhile_suffix (· == '#')).subset hd)

/-- The core of a heading is empty when there are just hashes, with white space around them. -/
theorem headingCore_eq_nil_iff :
    headingCore text = [] ↔ isBlankText ((trimStart text).dropWhile (· == '#')) = true := by
  constructor
  · intro hcore
    have hblank : ∀ c ∈ (trimEnd text).rdropWhile (· == '#'), isBlank c = true :=
      List.rdropWhile_eq_nil_iff.mp hcore
    have hsplit : (trimEnd text).rdropWhile (· == '#') ++
        ((trimEnd text).rtakeWhile (· == '#') ++ text.rtakeWhile isBlank) = text := by
      rw [← List.append_assoc, List.rdropWhile_append_rtakeWhile, trimEnd_eq,
        List.rdropWhile_append_rtakeWhile]
    have hhashes : ∀ c ∈ (trimEnd text).rtakeWhile (· == '#'), (c == '#') = true :=
      fun c hc => List.mem_rtakeWhile_imp (p := fun c => c == '#') hc
    have hend : ∀ c ∈ text.rtakeWhile isBlank, isBlank c = true :=
      fun c hc => List.mem_rtakeWhile_imp hc
    rw [← hsplit, trimStart, List.dropWhile_append_of_pos hblank]
    exact isBlankText_after_hashes hhashes hend
  · intro hblank
    have hend : ∀ c ∈ (trimStart text).dropWhile (· == '#'), isBlank c = true :=
      List.all_eq_true.mp hblank
    have hsplit : text.takeWhile isBlank ++ ((trimStart text).takeWhile (· == '#') ++
        (trimStart text).dropWhile (· == '#')) = text := by
      rw [List.takeWhile_append_dropWhile, trimStart, List.takeWhile_append_dropWhile]
    have htrim : trimEnd text =
        trimEnd (text.takeWhile isBlank ++ (trimStart text).takeWhile (· == '#')) := by
      have hdrop := rdropWhile_append_of_pos
        (s := text.takeWhile isBlank ++ (trimStart text).takeWhile (· == '#')) hend
      rwa [List.append_assoc, hsplit] at hdrop
    have hinitial : trimEnd text <+:
        text.takeWhile isBlank ++ (trimStart text).takeWhile (· == '#') :=
      htrim ▸ List.rdropWhile_prefix isBlank _
    refine List.rdropWhile_eq_nil_iff.mpr fun c hc => ?_
    rw [List.prefix_iff_eq_take.mp hinitial, List.take_append,
      rdropWhile_append_of_pos fun d hd =>
        List.mem_takeWhile_imp (p := fun c => c == '#') (List.mem_of_mem_take hd)] at hc
    have hmem := (List.rdropWhile_prefix (· == '#') _).subset hc
    exact List.mem_takeWhile_imp (List.mem_of_mem_take hmem)

/-- The end of a heading takes all of a text, or nothing at all. -/
theorem captures_closing :
    captures [blanks, hashes, blanks] text =
      if headingCore text = [] then some [] else none := by
  have hwhole : captures [hashes, blanks] (trimStart text) =
      if headingCore text = [] then some [] else none := by
    rw [captures_hashes_blanks]
    by_cases hcore : headingCore text = []
    · rw [if_pos hcore, if_pos (headingCore_eq_nil_iff.mp hcore)]
    · rw [if_neg hcore, if_neg (mt headingCore_eq_nil_iff.mpr hcore)]
  by_cases hcore : headingCore text = []
  · rw [if_pos hcore] at hwhole ⊢
    exact captures_run_some (Nat.zero_le _) hwhole
  · rw [← hwhole]
    refine captures_run fun n hn => ?_
    obtain ⟨c, tail, hdrop, hc⟩ := exists_cons_of_lt_run hn
    have hstop : (c :: tail).dropWhile (· == '#') = c :: tail := by
      refine List.dropWhile_cons_of_neg fun h => ?_
      obtain rfl : c = '#' := by simpa using h
      simp [isBlank] at hc
    rw [captures_hashes_blanks, hdrop, hstop, if_neg]
    intro hblank
    have hsuffix : trimStart text <:+ c :: tail := by
      rw [← hdrop, trimStart, ← drop_takeWhile_length]
      exact List.drop_suffix_drop_left text (Nat.le_of_lt hn)
    have hall : ∀ d ∈ trimStart text, isBlank d = true := fun d hd =>
      List.all_eq_true.mp hblank d (hsuffix.subset hd)
    refine hcore (headingCore_eq_nil_iff.mpr (List.all_eq_true.mpr fun d hd => hall d ?_))
    exact (List.dropWhile_suffix (· == '#')).subset hd

/-- The text of a heading goes up to its closing hashes, but it has at least one character. -/
theorem captures_headingText (htext : '\n' ∉ text) (hne : text ≠ []) :
    captures [⟨isInline, 1, none, true, true⟩, blanks, hashes, blanks] text =
      some [headingText text] := by
  have hpos : 1 ≤ text.length := List.length_pos_iff.mpr hne
  have hmax : max 1 (headingCore text).length ≤ text.length :=
    Nat.max_le.mpr ⟨hpos, (prefix_headingCore text).length_le⟩
  have hlongest : (text.takeWhile isInline).length = text.length :=
    congrArg List.length (takeWhile_isInline htext)
  have hclosing : ∀ n, headingCore (text.drop n) = [] ↔ (headingCore text).length ≤ n := by
    intro n
    rw [headingCore_drop, List.drop_eq_nil_iff]
  have hrest : captures [blanks, hashes, blanks] (text.drop (max 1 (headingCore text).length)) =
      some [] := by
    rw [captures_closing, if_pos ((hclosing _).mpr (Nat.le_max_right _ _))]
  rw [headingText_eq]
  refine captures_eq_some (p := ⟨isInline, 1, none, true, true⟩) (Nat.le_max_left _ _)
    (Nat.le_trans hmax (Nat.le_of_eq hlongest.symm)) hrest ?_
  intro n hleast _ hlt
  have hleast : 1 ≤ n := hleast
  have hlt : n < max 1 (headingCore text).length := hlt
  have hopen : ¬ (headingCore text).length ≤ n := by omega
  rw [captures_closing, if_neg (fun h => hopen ((hclosing n).mp h))]

theorem captures_text_nil :
    captures [⟨isInline, 1, none, true, true⟩, blanks, hashes, blanks] [] = none :=
  captures_of_short (by decide)

/-- Where nothing but white space follows the hashes, it gives its last character to the text. -/
theorem captures_spaced_blank {rest : List Char} (hrest : '\n' ∉ rest) (hne : rest ≠ [])
    (hblank : rest.takeWhile isBlank = rest) :
    captures (⟨isBlank, 1, none, false, false⟩ ::
        [⟨isInline, 1, none, true, true⟩, blanks, hashes, blanks]) rest =
      (if rest.length = 1 then none else some (rest.drop (rest.length - 1))).map
        fun text => [text] := by
  obtain ⟨k, hk⟩ : ∃ k, rest.length = k + 1 :=
    Nat.exists_eq_add_of_lt (List.length_pos_iff.mpr hne) |>.imp fun k hk => by omega
  by_cases hone : rest.length = 1
  · rw [if_pos hone]
    refine captures_eq_none fun n hleast hn => ?_
    have hleast : 1 ≤ n := hleast
    rw [List.drop_eq_nil_of_le (by omega)]
    exact captures_text_nil
  · rw [if_neg hone]
    have hlength : (rest.drop k).length = 1 := by rw [List.length_drop]; omega
    have hlast := captures_headingText (fun h => hrest (List.mem_of_mem_drop h))
      (List.length_pos_iff.mp (Nat.lt_of_lt_of_eq Nat.zero_lt_one hlength.symm))
    rw [headingText_eq, List.take_of_length_le (by omega)] at hlast
    have hafter : captures [⟨isInline, 1, none, true, true⟩, blanks, hashes, blanks]
        (rest.drop (k + 1)) = none := by
      rw [List.drop_eq_nil_of_le (by omega)]
      exact captures_text_nil
    rw [captures_give_back (by rw [hblank, hk]) (by omega) hafter hlast, hk, Nat.add_sub_cancel]
    rfl

/-- White space and the text after the hashes of a heading. -/
theorem captures_spaced {rest : List Char} (hrest : '\n' ∉ rest) :
    captures (⟨isBlank, 1, none, false, false⟩ ::
        [⟨isInline, 1, none, true, true⟩, blanks, hashes, blanks]) rest =
      (if (rest.takeWhile isBlank).isEmpty then none
      else if (rest.dropWhile isBlank).isEmpty then
        if (rest.takeWhile isBlank).length = 1 then none
        else some ((rest.takeWhile isBlank).drop ((rest.takeWhile isBlank).length - 1))
      else some (headingText (rest.dropWhile isBlank))).map fun text => [text] := by
  by_cases hspace : rest.takeWhile isBlank = []
  · rw [if_pos (List.isEmpty_iff.mpr hspace)]
    have hnone : (rest.takeWhile isBlank).length = 0 := by rw [hspace, List.length_nil]
    exact captures_of_short (Nat.lt_of_le_of_lt (Nat.le_of_eq hnone) Nat.zero_lt_one)
  · rw [if_neg (by rwa [List.isEmpty_iff])]
    by_cases htext : rest.dropWhile isBlank = []
    · rw [if_pos (List.isEmpty_iff.mpr htext)]
      have hwhole : rest.takeWhile isBlank = rest :=
        List.takeWhile_eq_self_iff.mpr (List.dropWhile_eq_nil_iff.mp htext)
      rw [hwhole] at hspace ⊢
      exact captures_spaced_blank hrest hspace hwhole
    · rw [if_neg (by rwa [List.isEmpty_iff])]
      have hinline : '\n' ∉ rest.dropWhile isBlank :=
        not_mem_of_suffix hrest (List.dropWhile_suffix isBlank)
      exact captures_run_some (List.length_pos_iff.mpr hspace)
        (captures_headingText hinline htext)

/-- Within a run of hashes no white space follows. -/
theorem captures_within_hashes {rest : List Piece} {n : Nat}
    (hn : n < (line.takeWhile (· == '#')).length) :
    captures (⟨isBlank, 1, none, false, false⟩ :: rest) (line.drop n) = none := by
  obtain ⟨c, tail, hdrop, hc⟩ := exists_cons_of_lt_run hn
  obtain rfl : c = '#' := by simpa using hc
  rw [hdrop]
  have hlongest : (⟨isBlank, 1, none, false, false⟩ : Piece).longest ('#' :: tail) = 0 := rfl
  exact captures_of_short (hlongest ▸ Nat.zero_lt_one)

/-- The hashes of a heading are taken as they stand, or the line is none. -/
theorem captures_marked {rest : List Piece} :
    captures (⟨(· == '#'), 1, some 6, false, true⟩ :: ⟨isBlank, 1, none, false, false⟩ :: rest)
        line =
      if (line.takeWhile (· == '#')).length = 0 || 6 < (line.takeWhile (· == '#')).length then none
      else (captures (⟨isBlank, 1, none, false, false⟩ :: rest)
        (line.drop (line.takeWhile (· == '#')).length)).map
          fun found => List.replicate (line.takeWhile (· == '#')).length '#' :: found := by
  have hwithin : ∀ n, n < (line.takeWhile (· == '#')).length →
      captures (⟨isBlank, 1, none, false, false⟩ :: rest) (line.drop n) = none :=
    fun n => captures_within_hashes
  have hlevel : line.take (line.takeWhile (· == '#')).length =
      List.replicate (line.takeWhile (· == '#')).length '#' := by
    rw [← List.prefix_iff_eq_take.mp (List.takeWhile_prefix (· == '#'))]
    refine List.eq_replicate_iff.mpr ⟨rfl, fun c hc => ?_⟩
    simpa using List.mem_takeWhile_imp hc
  generalize hlength : (line.takeWhile (· == '#')).length = level at hwithin hlevel ⊢
  have hlongest : (⟨(· == '#'), 1, some 6, false, true⟩ : Piece).longest line = min level 6 := by
    rw [← hlength]
    rfl
  by_cases hbounds : (level = 0 || 6 < level) = true
  · rw [if_pos hbounds]
    simp only [Bool.or_eq_true, decide_eq_true_eq] at hbounds
    refine captures_eq_none fun n hleast hn => ?_
    have hleast : 1 ≤ n := hleast
    rw [hlongest] at hn
    exact hwithin n (by omega)
  · rw [if_neg hbounds]
    simp only [Bool.or_eq_true, decide_eq_true_eq, not_or] at hbounds
    cases hrest : captures (⟨isBlank, 1, none, false, false⟩ :: rest) (line.drop level) with
    | none =>
      refine captures_eq_none fun n hleast hn => ?_
      rw [hlongest] at hn
      rcases Nat.lt_or_eq_of_le (show n ≤ level by omega) with hlt | rfl
      · exact hwithin n hlt
      · exact hrest
    | some found =>
      have hfit : level ≤ min level 6 := by omega
      rw [captures_eq_some (k := level) (show 1 ≤ level by omega) (hlongest ▸ hfit) hrest
        fun n _ hn hlt => ?_, hlevel]
      · rfl
      · have hlt : level < n := hlt
        rw [hlongest] at hn
        omega

theorem captures_headingPattern (hline : '\n' ∉ line) :
    captures headingPattern line =
      (heading? line).map fun h => [List.replicate h.1 '#', h.2] := by
  have hrest : '\n' ∉ line.drop (line.takeWhile (· == '#')).length :=
    fun h => hline (List.mem_of_mem_drop h)
  rw [headingPattern, captures_marked, captures_spaced hrest]
  unfold heading?
  simp only []
  generalize line.drop (line.takeWhile (· == '#')).length = rest
  generalize (line.takeWhile (· == '#')).length = level
  by_cases hbounds : (level = 0 || 6 < level) = true
  · simp [hbounds]
  · by_cases hspace : (rest.takeWhile isBlank).isEmpty = true
    · simp [hbounds, hspace]
    · by_cases htext : (rest.dropWhile isBlank).isEmpty = true
      · by_cases hone : (rest.takeWhile isBlank).length = 1
        · simp [hbounds, hspace, htext, hone]
        · simp [hbounds, hspace, htext, hone]
      · simp [hbounds, hspace, htext]

end Headings

end Runbook.Document
