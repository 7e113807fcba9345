import Runbook.Proofs.HeaderValues
import Runbook.Text.Blank

/-!
Texts of white space alone as YAML. Not all white space is white space there: some of it makes a
plain scalar. But none of it is an indicator, so that scalars are all that the scanner can find, and
whatever such a text is read as, it is no mapping.
-/

namespace Runbook.Yaml

/-- A scalar, or one of the two ends of the text. -/
def TokenKind.IsPlain : TokenKind → Prop
  | .streamStart | .streamEnd | .scalar _ _ => True
  | _ => False

theorem TokenKind.IsPlain.cases {kind : TokenKind} (h : kind.IsPlain) :
    kind = .streamStart ∨ kind = .streamEnd ∨ ∃ text style, kind = .scalar text style := by
  cases kind with
  | streamStart => exact .inl rfl
  | streamEnd => exact .inr (.inl rfl)
  | scalar text style => exact .inr (.inr ⟨text, style, rfl⟩)
  | _ => exact h.elim

namespace Scanner

/-- What the scanner leaves alone while it goes over text. -/
structure Passes (s t : Scanner) : Prop where
  rest : ∀ c ∈ t.rest, c ∈ s.rest
  flow : t.flow = s.flow
  outer : t.outer = s.outer
  tokens : t.tokens = s.tokens

theorem Passes.refl (s : Scanner) : Passes s s :=
  ⟨fun _ hc => hc, rfl, rfl, rfl⟩

theorem Passes.trans {s t u : Scanner} (h : Passes s t) (h' : Passes t u) : Passes s u :=
  ⟨fun c hc => h.rest c (h'.rest c hc), h'.flow.trans h.flow, h'.outer.trans h.outer,
    h'.tokens.trans h.tokens⟩

theorem passes_skip (s : Scanner) (n : Nat) : Passes s (s.skip n) :=
  ⟨fun _ hc => List.mem_of_mem_drop hc, rfl, rfl, rfl⟩

theorem passes_skipBreak (s : Scanner) : Passes s s.skipBreak := by
  unfold skipBreak
  split
  · next rest hrest =>
    refine ⟨?_, rfl, rfl, rfl⟩
    rw [hrest]
    exact fun c hc => List.mem_cons_of_mem _ (List.mem_cons_of_mem _ hc)
  · next c rest _ hrest =>
    split
    · refine ⟨?_, rfl, rfl, rfl⟩
      rw [hrest]
      exact fun c hc => List.mem_cons_of_mem _ hc
    · exact .refl _
  · exact .refl _

theorem passes_skipComment (s : Scanner) : Passes s s.skipComment := by
  unfold skipComment
  split
  · exact passes_skip s _
  · exact .refl _

theorem passes_skipToToken (s : Scanner) (fuel : Nat) : Passes s (s.skipToToken fuel) := by
  induction fuel generalizing s with
  | zero => exact .refl _
  | succ fuel ih =>
    rw [skipToToken]
    dsimp only
    have hmark : Passes s (if s.mark.index = 0 && s.has 0 '\ufeff' then s.skip 1 else s) := by
      split
      · exact passes_skip s 1
      · exact .refl _
    generalize (if s.mark.index = 0 && s.has 0 '\ufeff' then s.skip 1 else s) = t at hmark ⊢
    have hspace := (hmark.trans (passes_skip t _)).trans (passes_skipComment (t.skipWhile
      fun c => c == ' ' || (c == '\t' && (t.flow ≠ 0 || !t.keyAllowed))))
    generalize (t.skipWhile fun c => c == ' ' ||
      (c == '\t' && (t.flow ≠ 0 || !t.keyAllowed))).skipComment = u at hspace ⊢
    split
    · have hbreak := hspace.trans (passes_skipBreak u)
      have hallowed : Passes u.skipBreak
          (if u.skipBreak.flow = 0 then { u.skipBreak with keyAllowed := true }
            else u.skipBreak) := by
        split
        · exact ⟨fun _ hc => hc, rfl, rfl, rfl⟩
        · exact .refl _
      exact (hbreak.trans hallowed).trans (ih _)
    · exact hspace

theorem passes_takeGap {limit : Option Int} {g g' : Gap} {s t : Scanner} {fuel : Nat}
    (h : takeGap limit g s fuel = .ok (g', t)) : Passes s t := by
  induction fuel generalizing g s with
  | zero =>
    cases h
    exact .refl _
  | succ fuel ih =>
    rw [takeGap] at h
    split at h
    · cases h
      exact .refl _
    · split at h
      · split at h
        · split at h
          · cases h
          · exact (passes_skip s 1).trans (ih h)
        · exact (passes_skip s 1).trans (ih h)
      · split at h
        · split at h
          · exact (passes_skipBreak s).trans (ih h)
          · exact (passes_skipBreak s).trans (ih h)
        · cases h
          exact .refl _

theorem passes_plainText {gap gap' : Gap} {out out' : List Char} {stop stop' : Mark}
    {s t : Scanner} {fuel : Nat} (h : plainText gap out stop s fuel = .ok (out', stop', gap', t)) :
    Passes s t := by
  induction fuel generalizing gap out stop s with
  | zero =>
    cases h
    exact .refl _
  | succ fuel ih =>
    rw [plainText] at h
    split at h
    · cases h
      exact .refl _
    · have hrun := passes_skip s (plainRun (s.flow ≠ 0) s.rest).1.length
      generalize plainRun (s.flow ≠ 0) s.rest = run at h hrun
      obtain ⟨run, bad⟩ := run
      dsimp only at h hrun
      generalize s.skip run.length = u at h hrun
      split at h
      · cases h
      · split at h
        · obtain ⟨⟨gap, v⟩, hgap, h⟩ := bind_eq_ok.mp h
          have hpast := hrun.trans (passes_takeGap hgap)
          dsimp only at h
          split at h
          · cases h
            exact hpast
          · exact hpast.trans (ih h)
        · cases h
          exact hrun

/-- A scanner with nothing but white space ahead, which has found nothing but scalars. -/
structure Quiet (s : Scanner) : Prop where
  blank : ∀ c ∈ s.rest, Text.isBlank c = true
  flow : s.flow = 0
  outer : s.outer = []
  plain : ∀ t ∈ s.tokens, t.kind.IsPlain

theorem Quiet.passes {s t : Scanner} (h : s.Quiet) (hpast : Passes s t) : t.Quiet where
  blank c hc := h.blank c (hpast.rest c hc)
  flow := hpast.flow.trans h.flow
  outer := hpast.outer.trans h.outer
  plain := hpast.tokens ▸ h.plain

theorem Quiet.add {s : Scanner} (h : s.Quiet) (kind : TokenKind) (hkind : kind.IsPlain)
    (start stop : Mark) : (s.add kind start stop).Quiet where
  blank := h.blank
  flow := h.flow
  outer := h.outer
  plain t ht := by
    rcases Array.mem_push.mp ht with hold | rfl
    · exact h.plain t hold
    · exact hkind

theorem passes_dropStale {s t : Scanner} (h : s.dropStale = .ok t) : Passes s t := by
  unfold dropStale at h
  split at h
  · cases h
  · cases h
    exact ⟨fun _ hc => hc, rfl, rfl, rfl⟩

theorem passes_dropCandidate {s t : Scanner} (h : s.dropCandidate = .ok t) : Passes s t := by
  unfold dropCandidate at h
  dsimp only at h
  split at h
  · cases h
  · cases h
    exact ⟨fun _ hc => hc, rfl, rfl, rfl⟩

theorem passes_saveCandidate {s t : Scanner} (h : s.saveCandidate = .ok t) : Passes s t := by
  unfold saveCandidate at h
  split at h
  · obtain ⟨u, hu, h⟩ := bind_eq_ok.mp h
    cases h
    exact (passes_dropCandidate hu).trans ⟨fun _ hc => hc, rfl, rfl, rfl⟩
  · cases h
    exact .refl _

theorem Quiet.unroll {s : Scanner} (h : s.Quiet) (column : Int) : s.unroll column = s := by
  rw [Scanner.unroll, h.outer, closeBlocks]

theorem Quiet.scanPlain {s t : Scanner} (h : s.Quiet) (ht : s.scanPlain = .ok t) : t.Quiet := by
  obtain ⟨⟨out, stop, gap, u⟩, hu, ht⟩ := bind_eq_ok.mp ht
  have hadded := (h.passes (passes_plainText hu)).add (.scalar (.ofList out.reverse) .plain)
    trivial s.mark stop
  cases ht
  split
  · exact hadded.passes ⟨fun _ hc => hc, rfl, rfl, rfl⟩
  · exact hadded

theorem Quiet.fetchStreamEnd {s t : Scanner} (h : s.Quiet) (ht : s.fetchStreamEnd = .ok t) :
    t.Quiet := by
  unfold Scanner.fetchStreamEnd at ht
  dsimp only at ht
  have hmark : Quiet (if s.mark.column = 0 then s
      else { s with mark := ⟨s.mark.index, s.mark.line + 1, 0⟩ }) := by
    split
    · exact h
    · exact h.passes ⟨fun _ hc => hc, rfl, rfl, rfl⟩
  rw [hmark.unroll] at ht
  obtain ⟨u, hu, ht⟩ := bind_eq_ok.mp ht
  cases ht
  have hadded := (hmark.passes (passes_dropCandidate hu)).add .streamEnd trivial u.mark u.mark
  exact hadded.passes ⟨fun _ hc => hc, rfl, rfl, rfl⟩

/-- White space is no indicator. -/
theorem ne_of_isBlank {c d : Char} (hc : Text.isBlank c = true) (hd : Text.isBlank d = false) :
    c ≠ d := by
  rintro rfl
  rw [hc] at hd
  cases hd

theorem Quiet.fetch {s t : Scanner} (h : s.Quiet) (ht : s.fetch = .ok t) : t.Quiet := by
  obtain ⟨u, hu, ht⟩ := bind_eq_ok.mp ht
  have hquiet := (h.passes (passes_skipToToken s _)).passes (passes_dropStale hu)
  dsimp only at ht
  rw [hquiet.unroll] at ht
  split at ht
  · exact hquiet.fetchStreamEnd ht
  · next c rest hrest =>
    have hne : ∀ d, Text.isBlank d = false → c ≠ d := fun d =>
      ne_of_isBlank (hquiet.blank c (hrest ▸ List.mem_cons_self))
    have hmark : ∀ d, Text.isBlank d = false → u.atDocumentMark d = false := by
      intro d hd
      simp [atDocumentMark, has, test, hrest, hne d hd]
    simp only [hmark '-' (by decide), hmark '.' (by decide), hne '%' (by decide),
      hne '[' (by decide), hne '\x7b' (by decide), hne ']' (by decide), hne '\x7d' (by decide),
      hne ',' (by decide), hne '-' (by decide), hne '?' (by decide), hne ':' (by decide),
      hne '*' (by decide), hne '&' (by decide), hne '!' (by decide), hne '|' (by decide),
      hne '>' (by decide), hne '\x27' (by decide), hne '"' (by decide), decide_false,
      Bool.and_false, Bool.false_and, Bool.or_self, Bool.false_eq_true, if_false] at ht
    split at ht
    · obtain ⟨v, hv, ht⟩ := bind_eq_ok.mp ht
      have hsaved := (hquiet.passes (passes_saveCandidate hv)).passes
        (t := { v with keyAllowed := false }) ⟨fun _ hc => hc, rfl, rfl, rfl⟩
      exact hsaved.scanPlain ht
    · cases ht

end Scanner

/-- By induction on the steps, each of which leaves a quiet scanner. -/
theorem Tokens.plain_scan {s : Scanner} (h : s.Quiet) (fuel : Nat) :
    ∀ t ∈ (Tokens.scan s fuel).tokens, t.kind.IsPlain := by
  induction fuel generalizing s with
  | zero => exact h.plain
  | succ fuel ih =>
    rw [Tokens.scan]
    split
    · exact h.plain
    · split
      · next next hnext =>
        obtain ⟨u, hu, hnext⟩ := bind_eq_ok.mp hnext
        exact ih ((h.fetch hu).passes (Scanner.passes_dropStale hnext))
      · intro t ht
        rw [← Array.mem_toList_iff, Array.toList_extract] at ht
        have hmem := List.mem_of_mem_drop (List.mem_of_mem_take ht)
        exact h.plain t (Array.mem_toList_iff.mp hmem)

theorem Tokens.plain_ofText {text : List Char} (h : Text.isBlankText text = true) :
    ∀ t ∈ (Tokens.ofText text).tokens, t.kind.IsPlain := by
  have hstart : ∀ t ∈ #[(⟨.streamStart, ⟨0, 0, 0⟩, ⟨0, 0, 0⟩⟩ : Token)], t.kind.IsPlain := by
    intro t ht
    obtain rfl := Array.mem_singleton.mp ht
    trivial
  unfold Tokens.ofText
  split
  · have hblank : ∀ c ∈ (Scanner.start text).rest, Text.isBlank c = true := List.all_eq_true.mp h
    exact plain_scan ⟨hblank, rfl, rfl, hstart⟩ _
  · exact hstart

/-- An event that does not begin a mapping. -/
def Event.IsPlain (e : Event) : Prop := ∀ anchor tag, e.kind ≠ .mappingStart anchor tag

namespace Parser

/-- A parser on its way through tokens that are all plain. -/
structure Calm (p : Parser) : Prop where
  plain : ∀ t ∈ p.tokens, t.kind.IsPlain
  goal : (p.pending = [] ∧ (p.goal = .streamStart ∨ (∃ first, p.goal = .documentStart first) ∨
      p.goal = .documentEnd ∨ p.goal = .done)) ∨
    (p.pending = [.documentEnd] ∧ p.goal = .blockNode)

theorem plain_token {p : Parser} (h : ∀ t ∈ p.tokens, t.kind.IsPlain) {t : Token}
    (ht : p.token = .ok t) : t.kind.IsPlain := by
  unfold Parser.token at ht
  split at ht
  · next u hu =>
    cases ht
    exact h _ (Array.mem_of_getElem? hu)
  · cases ht

/-- There is no directive in front of a plain token. -/
theorem directives_of_plain {p : Parser} {t : Token} (ht : p.token = .ok t) (h : t.kind.IsPlain)
    (version : Bool) (seen : List (String × String)) (fuel : Nat) :
    ∃ tags, p.directives version seen (fuel + 1) = .ok { p with tags } := by
  refine ⟨seen ++ coreTags.filter fun tag => !seen.any (·.1 = tag.1), ?_⟩
  rw [directives, ht]
  rcases h.cases with hkind | hkind | ⟨text, style, hkind⟩
  · simp only [bind, Except.bind, hkind]
    rfl
  · simp only [bind, Except.bind, hkind]
    rfl
  · simp only [bind, Except.bind, hkind]
    rfl

theorem Calm.documentStart {p next : Parser} {first : Bool} {e : Event} (h : p.Calm)
    (hpending : p.pending = []) (hstep : p.documentStart first = .ok (e, next)) :
    e.IsPlain ∧ next.Calm := by
  unfold Parser.documentStart at hstep
  dsimp only at hstep
  generalize p.position + _ = position at hstep
  obtain ⟨t, ht, hstep⟩ := bind_eq_ok.mp hstep
  have hplain : t.kind.IsPlain := plain_token (p := { p with position }) h.plain ht
  by_cases hend : t.kind = .streamEnd
  · rw [if_pos hend] at hstep
    cases hstep
    exact ⟨nofun, h.plain, .inl ⟨hpending, .inr (.inr (.inr rfl))⟩⟩
  rw [if_neg hend] at hstep
  cases first with
  | true =>
    have hblock : Calm
        (({ p with position, tags := coreTags }.push .documentEnd).want .blockNode) :=
      ⟨h.plain, .inr ⟨congrArg _ hpending, rfl⟩⟩
    rcases hplain.cases with hkind | hkind | ⟨text, style, hkind⟩
    · rw [hkind] at hstep
      cases hstep
      exact ⟨nofun, hblock⟩
    · exact absurd hkind hend
    · rw [hkind] at hstep
      cases hstep
      exact ⟨nofun, hblock⟩
  | false =>
    rw [Bool.false_and, if_neg Bool.false_ne_true] at hstep
    obtain ⟨tags, htags⟩ := directives_of_plain ht hplain false [] p.tokens.size
    obtain ⟨q, hq, hstep⟩ := bind_eq_ok.mp hstep
    obtain rfl := Except.ok.inj (htags.symm.trans hq)
    obtain ⟨start, hstart, hstep⟩ := bind_eq_ok.mp hstep
    have hsame : start = t := Except.ok.inj (hstart.symm.trans ht)
    have hne : start.kind ≠ .documentStart := by
      rw [hsame]
      rcases hplain.cases with hkind | hkind | ⟨text, style, hkind⟩ <;> simp [hkind]
    rw [if_neg hne] at hstep
    cases hstep

theorem Calm.node {p next : Parser} {e : Event} (h : p.Calm) (hpending : p.pending = [.documentEnd])
    (hstep : p.node true false = .ok (e, next)) : e.IsPlain ∧ next.Calm := by
  obtain ⟨t, ht, hstep⟩ := bind_eq_ok.mp hstep
  have hplain := plain_token h.plain ht
  have hproperties : p.properties = .ok (⟨none, none, t.start⟩, p) := by
    unfold properties
    rw [ht]
    rcases hplain.cases with hkind | hkind | ⟨text, style, hkind⟩ <;>
      simp [bind, Except.bind, hkind, pure, Except.pure]
  rcases hplain.cases with hkind | hkind | ⟨text, style, hkind⟩
  · simp only [hkind, hproperties, resolveTag, bind, Except.bind, ht] at hstep
    cases hstep
  · simp only [hkind, hproperties, resolveTag, bind, Except.bind, ht] at hstep
    cases hstep
  · simp only [hkind, hproperties, resolveTag, bind, Except.bind, ht] at hstep
    cases hstep
    refine ⟨nofun, ?_⟩
    unfold Parser.pop Parser.advance
    rw [hpending]
    exact ⟨h.plain, .inl ⟨rfl, .inr (.inr (.inl rfl))⟩⟩

theorem Calm.documentEnd {p next : Parser} {e : Event} (h : p.Calm) (hpending : p.pending = [])
    (hstep : p.documentEnd = .ok (e, next)) : e.IsPlain ∧ next.Calm := by
  obtain ⟨t, ht, hstep⟩ := bind_eq_ok.mp hstep
  cases hstep
  refine ⟨nofun, ?_, .inl ⟨?_, .inr (.inl ⟨false, rfl⟩)⟩⟩
  · split
    · exact h.plain
    · exact h.plain
  · split
    · exact hpending
    · exact hpending

theorem Calm.step {p next : Parser} {e : Event} (h : p.Calm) (hstep : p.step = .ok (e, next)) :
    e.IsPlain ∧ next.Calm := by
  unfold Parser.step at hstep
  rcases h.goal with ⟨hpending, hgoal | ⟨first, hgoal⟩ | hgoal | hgoal⟩ | ⟨hpending, hgoal⟩
  · rw [hgoal] at hstep
    obtain ⟨t, ht, hstep⟩ := bind_eq_ok.mp hstep
    cases hstep
    exact ⟨nofun, h.plain, .inl ⟨hpending, .inr (.inl ⟨true, rfl⟩)⟩⟩
  · rw [hgoal] at hstep
    exact h.documentStart hpending hstep
  · rw [hgoal] at hstep
    exact h.documentEnd hpending hstep
  · rw [hgoal] at hstep
    cases hstep
  · rw [hgoal] at hstep
    exact h.node hpending hstep

end Parser

/-- By induction on the steps, each of which leaves a calm parser. -/
theorem Events.plain_ofParser {p : Parser} (h : p.Calm) (fuel : Nat) :
    ∀ e ∈ (Events.ofParser p fuel).events, e.IsPlain := by
  induction fuel generalizing p with
  | zero => simp [Events.ofParser]
  | succ fuel ih =>
    unfold Events.ofParser
    split
    · simp
    · split
      · simp
      · next event next hstep =>
        obtain ⟨hevent, hnext⟩ := h.step hstep
        exact List.forall_mem_cons.mpr ⟨hevent, ih hnext⟩

namespace Document

/-- A document without mappings. -/
def Flat (d : Document) : Prop := ∀ entry ∈ d.pieces, ∀ tag, entry.1 ≠ .mappingStart tag

theorem Flat.add {d : Document} (h : d.Flat) (piece : Piece)
    (hpiece : ∀ tag, piece ≠ .mappingStart tag) (mark : Mark) : (d.add piece mark).Flat := by
  intro entry hentry
  rcases Array.mem_push.mp hentry with hold | rfl
  · exact h entry hold
  · exact hpiece

theorem Flat.anchor {d : Document} (h : d.Flat) (names : Table Nat) (name : Option String) :
    (d.anchor names name).1.Flat := by
  cases name with
  | none => exact h
  | some name => exact h

theorem Flat.collect {d : Document} (h : d.Flat) {events : List Event}
    (hevents : ∀ e ∈ events, e.IsPlain) (names : Table Nat) (fault : Option Fault) :
    (d.collect names fault events).1.Flat := by
  induction events generalizing d names with
  | nil => exact h
  | cons event rest ih =>
    obtain ⟨kind, mark⟩ := event
    rw [List.forall_mem_cons] at hevents
    unfold Document.collect
    split
    · exact ih h hevents.2 names
    · exact ih h hevents.2 names
    · exact h.add .nothing nofun mark
    · split
      · exact h
      · exact h
    · split
      · next anchor _ => exact ih (h.add (.alias anchor) nofun mark) hevents.2 names
      · exact h
    · next name tag text style =>
      have hadded := (h.anchor names name).add (.scalar tag text style) nofun mark
      exact ih hadded hevents.2 _
    · next name tag =>
      have hadded := (h.anchor names name).add (.sequenceStart tag) nofun mark
      exact ih hadded hevents.2 _
    · next name tag => exact absurd rfl (hevents.1 name tag)
    · exact ih (h.add .collectionEnd nofun mark) hevents.2 names
    · exact ih (h.add .collectionEnd nofun mark) hevents.2 names

theorem scalar_ne_map {own : Bool} {tag : Option String} {content : String} {style : Style}
    {mark : Mark} (entries : List (Yaml × Yaml)) :
    scalar own tag content style mark ≠ .ok (.map entries) := by
  have hplain : plain? content ≠ some (.map entries) := by
    intro h
    unfold plain? at h
    repeat' split at h
    all_goals cases h
  have huntagged : (if style = .plain then plain? content else some (.text content)) ≠
      some (.map entries) := by
    split
    · exact hplain
    · exact nofun
  have hcore : ∀ tag, (core? tag content).getD (some (.text content)) ≠ some (.map entries) := by
    intro tag h
    unfold core? at h
    split at h
    · obtain ⟨b, -, hb⟩ := Option.map_eq_some_iff.mp h
      cases hb
    split at h
    · obtain ⟨n, -, hn⟩ := Option.bind_eq_some_iff.mp h
      split at hn <;> cases hn
    split at h
    · obtain ⟨x, -, hx⟩ := Option.map_eq_some_iff.mp h
      cases hx
    split at h
    · rw [Option.getD_some] at h
      split at h <;> cases h
    · cases h
  intro h
  unfold scalar at h
  dsimp only at h
  split at h
  · next v hvalue =>
    obtain rfl := Except.ok.inj h
    split at hvalue
    · exact huntagged hvalue
    · split at hvalue
      · exact huntagged hvalue
      · exact hcore _ hvalue
  · cases h

theorem Flat.value_ne_map {d : Document} (h : d.Flat) (fuel levels : Nat) (own : Bool) (c : Cursor)
    (entries : List (Yaml × Yaml)) (after : Cursor) :
    d.value fuel levels own c ≠ .ok (.map entries, after) := by
  induction fuel generalizing levels own c after with
  | zero => simp [value]
  | succ fuel ih =>
    intro hv
    rw [value] at hv
    obtain ⟨⟨piece, mark⟩, hpiece, hv⟩ := bind_eq_ok.mp hv
    dsimp only at hv
    split at hv
    · obtain ⟨⟨w, inner⟩, hw, hv⟩ := bind_eq_ok.mp hv
      cases hv
    · split at hv
      · cases hv
      · cases hv
      · obtain ⟨place, -, hv⟩ := bind_eq_ok.mp hv
        obtain ⟨⟨w, inner⟩, hw, hv⟩ := bind_eq_ok.mp hv
        cases hv
        exact ih _ _ _ _ hw
      · obtain ⟨w, hw, hv⟩ := bind_eq_ok.mp hv
        cases hv
        exact scalar_ne_map entries hw
      · split at hv
        · cases hv
        · obtain ⟨⟨vs, inner⟩, hvs, hv⟩ := bind_eq_ok.mp hv
          cases hv
      · unfold Document.piece at hpiece
        split at hpiece
        · next entry hentry =>
          obtain rfl := Except.ok.inj hpiece
          exact h _ (Array.mem_of_getElem? hentry) _ rfl
        · cases hpiece

end Document

/-- A text of white space is not read as a mapping. -/
theorem read_of_blank_ne_map {text : String} (h : Text.isBlankString text = true)
    (entries : List (Yaml × Yaml)) : read text ≠ .ok (.map entries) := by
  have hcalm : (Parser.ofTokens (Tokens.ofText text.toList)).Calm :=
    ⟨Tokens.plain_ofText h, .inl ⟨rfl, .inl rfl⟩⟩
  have hevents : ∀ e ∈ (Events.ofText text).events, e.IsPlain := Events.plain_ofParser hcalm _
  intro hread
  unfold read at hread
  generalize Events.ofText text = found at hread hevents
  obtain ⟨events, fault⟩ := found
  have hempty : Document.empty.Flat := by simp [Document.Flat, Document.empty]
  have hflat := hempty.collect hevents [] fault
  dsimp only at hread
  generalize Document.empty.collect [] fault events = collected at hread hflat
  obtain ⟨document, more⟩ := collected
  obtain ⟨⟨v, c⟩, hv, hread⟩ := bind_eq_ok.mp hread
  dsimp only at hread
  split at hread
  · cases hread
  · split at hread
    · cases hread
    · obtain rfl := Except.ok.inj hread
      exact hflat.value_ne_map _ _ _ _ entries c hv

end Runbook.Yaml
