import Runbook.Proofs.InstantText
import Runbook.Proofs.RecordEdits
import Runbook.Proofs.TextContents

/-!
Snapshots that a text was read as. Whoever wrote the text, such a snapshot can be stored again: its
format version has 32 bits, its instants are on the clock, and its variables are read back from the
text that is written of them, as the same variables or as others. All of this is still so when its
status is set or a step is added to it.
-/

namespace Runbook

namespace Json

/-- The reading has results that satisfy `P` only, from trees that a text can give. -/
def Gives {α : Type} (levels : Nat) (read : Reading α) (P : α → Prop) : Prop :=
  ∀ s a, s.Fits → read levels s = some a → P a

variable {α : Type} {P : α → Prop} {read : Reading α} {levels : Nat}

theorem gives_asOption (h : Gives levels read P) :
    Gives levels (asOption read) fun o => ∀ a ∈ o, P a := by
  intro s o hs ho a ha
  unfold asOption at ho
  split at ho
  · obtain rfl := Option.some.inj ho
    cases ha
  · obtain ⟨b, hb, rfl⟩ := Option.map_eq_some_iff.mp ho
    obtain rfl := Option.some.inj ha
    exact h s b hs hb

theorem gives_asNat32 (levels : Nat) :
    Gives levels (asNat isNat32) fun n => isNat32 n = true := by
  intro s n _ hn
  unfold asNat at hn
  split at hn
  · obtain ⟨hfits, heq⟩ := Option.ite_none_right_eq_some.mp hn
    obtain rfl := Option.some.inj heq
    simp only [isNat32, Bool.and_eq_true, decide_eq_true_eq] at hfits ⊢
    omega
  · cases hn

theorem forall_of_mapM {β : Type} {f : β → Option α} {bs : List β} {as : List α}
    (h : bs.mapM f = some as) (hP : ∀ b ∈ bs, ∀ a, f b = some a → P a) : ∀ a ∈ as, P a := by
  induction bs generalizing as with
  | nil =>
    obtain rfl := Option.some.inj h
    simp
  | cons b bs ih =>
    rw [List.mapM_cons] at h
    obtain ⟨first, hfirst, h⟩ := Option.bind_eq_some_iff.mp h
    obtain ⟨others, hothers, h⟩ := Option.bind_eq_some_iff.mp h
    obtain rfl := Option.some.inj h
    rw [List.forall_mem_cons]
    exact ⟨hP b List.mem_cons_self first hfirst,
      ih hothers fun c hc => hP c (List.mem_cons_of_mem _ hc)⟩

theorem gives_asList (h : ∀ inner, Gives inner read P) :
    Gives levels (asList read) fun as => ∀ a ∈ as, P a := by
  intro s as hs has
  unfold asList at has
  split at has
  · next items =>
    cases levels with
    | zero => cases has
    | succ inner =>
      have hitems := Source.fitsItems_iff.mp hs
      exact forall_of_mapM has fun item hitem a ha => h inner item a (hitems item hitem) ha
  · cases has

namespace Members

variable {m : Members} {name : String}

/-- The parts of a record fit. -/
def Fits (m : Members) : Prop := ∀ field ∈ m.fields, field.2.Fits

theorem fits_of_read {names : List String} {s : Source} (hs : s.Fits)
    (h : Members.read names levels s = some m) : m.Fits ∧ levels = m.levels + 1 := by
  cases s with
  | object members =>
    obtain ⟨-, inner, rfl, rfl⟩ := read_object_iff.mp h
    refine ⟨?_, rfl⟩
    intro field hfield
    have hmember := (mem_fieldsOf.mp (List.mem_reverse.mp hfield)).2
    exact Source.fitsMembers_iff.mp hs _ hmember
  | array items =>
    cases levels with
    | zero => cases h
    | succ inner =>
      obtain ⟨-, heq⟩ := Option.ite_none_right_eq_some.mp h
      obtain rfl := Option.some.inj heq
      refine ⟨?_, rfl⟩
      intro field hfield
      exact Source.fitsItems_iff.mp hs _ (List.of_mem_zip hfield).2
  | null => cases h
  | bool b => cases h
  | number value => cases h
  | text value => cases h

theorem fits_of_lookup (h : m.Fits) {s : Source} (hs : m.fields.lookup name = some s) :
    s.Fits := by
  obtain ⟨before, after, hsplit, -⟩ := List.lookup_eq_some_iff.mp hs
  exact h (name, s) (by simp [hsplit])

theorem of_required (hm : m.Fits) (h : Gives m.levels read P) {a : α}
    (ha : m.required name read = some a) : P a := by
  obtain ⟨s, hs, ha⟩ := Option.bind_eq_some_iff.mp ha
  exact h s a (fits_of_lookup hm hs) ha

theorem of_withDefault (hm : m.Fits) (h : Gives m.levels read P) {default a : α}
    (hdefault : P default) (ha : m.withDefault name default read = some a) : P a := by
  unfold withDefault at ha
  split at ha
  · exact Option.some.inj ha ▸ hdefault
  · next s hs => exact h s a (fits_of_lookup hm hs) ha

end Members

end Json

open Json (Gives)
open Json.Members (fits_of_read of_required of_withDefault)

theorem Instant.gives_fromJson (levels : Nat) : Gives levels Instant.fromJson Instant.OnClock := by
  intro s t _ h
  obtain ⟨text, -, hread⟩ := Option.bind_eq_some_iff.mp h
  exact onClock_of_read hread

/-- The instants of a step are on the clock. -/
def Step.OnClock (s : Step) : Prop := s.start.OnClock ∧ ∀ t ∈ s.stop, t.OnClock

theorem Step.gives_fromJson (levels : Nat) : Gives levels Step.fromJson Step.OnClock := by
  intro s step hs h
  obtain ⟨m, hm, h⟩ := Option.bind_eq_some_iff.mp h
  obtain ⟨hfits, -⟩ := fits_of_read hs hm
  obtain ⟨name, -, h⟩ := Option.bind_eq_some_iff.mp h
  obtain ⟨type, -, h⟩ := Option.bind_eq_some_iff.mp h
  obtain ⟨start, hstart, h⟩ := Option.bind_eq_some_iff.mp h
  obtain ⟨stop, hstop, h⟩ := Option.bind_eq_some_iff.mp h
  obtain ⟨success, -, h⟩ := Option.bind_eq_some_iff.mp h
  obtain ⟨error, -, h⟩ := Option.bind_eq_some_iff.mp h
  obtain rfl := Option.some.inj h
  refine ⟨of_required hfits (Instant.gives_fromJson _) hstart, ?_⟩
  exact of_withDefault hfits (Json.gives_asOption (Instant.gives_fromJson _)) (by simp) hstop

theorem StoredMessage.gives_fromJson (levels : Nat) :
    Gives levels StoredMessage.fromJson fun m => m.timestamp.OnClock := by
  intro s message hs h
  obtain ⟨m, hm, h⟩ := Option.bind_eq_some_iff.mp h
  obtain ⟨hfits, -⟩ := fits_of_read hs hm
  obtain ⟨role, -, h⟩ := Option.bind_eq_some_iff.mp h
  obtain ⟨content, -, h⟩ := Option.bind_eq_some_iff.mp h
  obtain ⟨timestamp, htimestamp, h⟩ := Option.bind_eq_some_iff.mp h
  obtain rfl := Option.some.inj h
  exact of_required hfits (Instant.gives_fromJson _) htimestamp

namespace Snapshot

theorem gives_runPart (levels : Nat) :
    Gives levels runPart fun run => run.startedAt.OnClock ∧ run.lastCheckpoint.OnClock := by
  intro s run hs h
  obtain ⟨m, hm, h⟩ := Option.bind_eq_some_iff.mp h
  obtain ⟨hfits, -⟩ := fits_of_read hs hm
  obtain ⟨id, -, h⟩ := Option.bind_eq_some_iff.mp h
  obtain ⟨filePath, -, h⟩ := Option.bind_eq_some_iff.mp h
  obtain ⟨contentHash, -, h⟩ := Option.bind_eq_some_iff.mp h
  obtain ⟨startedAt, hstarted, h⟩ := Option.bind_eq_some_iff.mp h
  obtain ⟨lastCheckpoint, hlast, h⟩ := Option.bind_eq_some_iff.mp h
  obtain ⟨status, -, h⟩ := Option.bind_eq_some_iff.mp h
  obtain rfl := Option.some.inj h
  exact ⟨of_required hfits (Instant.gives_fromJson _) hstarted,
    of_required hfits (Instant.gives_fromJson _) hlast⟩

/-- Variables are written as a text that is read as variables again. -/
theorem gives_asTable : Gives 125 Json.asTable fun vars => ∃ read, rereadVars vars = some read := by
  intro s vars hs h
  unfold Json.asTable at h
  split at h
  · have hvalues := Source.FitsMembers.rereads hs (fun _ hmem => absurd hmem List.not_mem_nil) h
    exact Json.toMembers?_isSome hvalues []
  · cases h

theorem gives_contextPart : Gives 126 contextPart fun context =>
    (∃ read, rereadVars context.vars = some read) ∧ ∀ step ∈ context.history, step.OnClock := by
  intro s context hs h
  obtain ⟨m, hm, h⟩ := Option.bind_eq_some_iff.mp h
  obtain ⟨hfits, hlevels⟩ := fits_of_read hs hm
  obtain ⟨currentStep, -, h⟩ := Option.bind_eq_some_iff.mp h
  obtain ⟨vars, hvars, h⟩ := Option.bind_eq_some_iff.mp h
  obtain ⟨history, hhistory, h⟩ := Option.bind_eq_some_iff.mp h
  obtain rfl := Option.some.inj h
  have htable : Gives m.levels Json.asTable fun vars => ∃ read, rereadVars vars = some read := by
    rw [Nat.succ.inj hlevels.symm]
    exact gives_asTable
  refine ⟨?_, ?_⟩
  · exact of_withDefault hfits htable ⟨[], rfl⟩ hvars
  · exact of_withDefault hfits (Json.gives_asList Step.gives_fromJson) (by simp) hhistory

/-- A snapshot whose text is read as a snapshot again. -/
structure Legible (s : Snapshot) : Prop where
  format : isNat32 s.formatVersion
  start : s.startedAt.OnClock
  checkpoint : s.lastCheckpoint.OnClock
  messages : ∀ m ∈ s.messages, m.timestamp.OnClock
  steps : ∀ step ∈ s.history, step.OnClock
  vars : ∃ read, rereadVars s.vars = some read

theorem legible_of_read {text : String} {s : Snapshot} (h : Snapshot.read text = some s) :
    s.Legible := by
  obtain ⟨source, hsource, h⟩ := Option.bind_eq_some_iff.mp h
  have hs := Source.fits_of_read hsource
  obtain ⟨m, hm, h⟩ := Option.bind_eq_some_iff.mp h
  obtain ⟨hfits, hlevels⟩ := fits_of_read hs hm
  obtain ⟨version, hversion, h⟩ := Option.bind_eq_some_iff.mp h
  obtain ⟨run, hrun, h⟩ := Option.bind_eq_some_iff.mp h
  obtain ⟨messages, hmessages, h⟩ := Option.bind_eq_some_iff.mp h
  obtain ⟨context, hcontext, h⟩ := Option.bind_eq_some_iff.mp h
  obtain rfl := Option.some.inj h
  have hpart : Gives m.levels contextPart fun context =>
      (∃ read, rereadVars context.vars = some read) ∧
        ∀ step ∈ context.history, step.OnClock := by
    rw [Nat.succ.inj hlevels.symm]
    exact gives_contextPart
  have hinstants := of_required hfits (gives_runPart _) hrun
  obtain ⟨hvars, hsteps⟩ := of_withDefault hfits hpart ⟨⟨[], rfl⟩, by simp⟩ hcontext
  refine ⟨?_, hinstants.1, hinstants.2, ?_, hsteps, hvars⟩
  · exact of_withDefault hfits (Json.gives_asNat32 _) (by decide) hversion
  · exact of_withDefault hfits (Json.gives_asList StoredMessage.gives_fromJson) (by simp) hmessages

namespace Legible

variable {s : Snapshot}

theorem timed (h : s.Legible) : s.Timed where
  start := Instant.readsBack_of_onClock h.start
  checkpoint := Instant.readsBack_of_onClock h.checkpoint
  messages m hm := Instant.readsBack_of_onClock (h.messages m hm)
  steps step hstep :=
    ⟨Instant.readsBack_of_onClock (h.steps step hstep).1,
      fun t ht => Instant.readsBack_of_onClock ((h.steps step hstep).2 t ht)⟩

/-- It is read back with the variables that its own are read as. -/
theorem read_render (h : s.Legible) : ∃ vars, rereadVars s.vars = some vars ∧
    Snapshot.read s.render = some { s with vars } := by
  obtain ⟨vars, hvars⟩ := h.vars
  refine ⟨vars, hvars, ?_⟩
  rw [read_render_of_timed h.timed h.format, hvars, Option.map_some]

theorem setStatus (h : s.Legible) (status : RunStatus) {now : Instant} (hnow : now.OnClock) :
    (s.setStatus status now).Legible :=
  { h with checkpoint := hnow }

theorem addStep (h : s.Legible) {step : Step} (hstep : step.OnClock) (line : String) {now : Instant}
    (hnow : now.OnClock) : (s.addStep step line now).Legible where
  format := h.format
  start := h.start
  checkpoint := hnow
  messages m hm := by
    rcases List.mem_append.mp hm with hold | hnew
    · exact h.messages m hold
    · obtain rfl := List.mem_singleton.mp hnew
      exact hnow
  steps other hother := by
    rcases List.mem_append.mp hother with hold | hnew
    · exact h.steps other hold
    · obtain rfl := List.mem_singleton.mp hnew
      exact hstep
  vars := h.vars

end Legible

end Snapshot

end Runbook
