import Runbook.Proofs.FileContract
import Runbook.Proofs.HeaderValues
import Runbook.Proofs.Repinning
import Runbook.Proofs.SnapshotRoundTrip

/-!
Fresh runs in files. The first checkpoint of a run can always be written; it gives the run back
exactly where its snapshot nests less deep than the reader goes, its floating-point numbers are read
as they were written, and so are its instants.
-/

namespace Runbook

open Json (reread)

namespace Snapshot

variable {s : Snapshot}

theorem eq_of_rereadVars (h : Json.Canonical (.object s.vars)) {vars : Table Json}
    (hread : rereadVars s.vars = some vars)
    (hsame : vars.mapValues Variable.ofJson = s.vars.mapValues Variable.ofJson) :
    vars = s.vars := by
  have hmembers : rereadVars s.vars = (s.vars.mapM (Json.rereadMember 124)).map ([] ++ ·) :=
    Json.toMembers?_eq_mapM 124 h.1 [] (by simp)
  rw [hmembers] at hread
  obtain ⟨members, hmapped, rfl⟩ := Option.map_eq_some_iff.mp hread
  exact Json.eq_of_rereadMembers h.2 hmapped hsame

/-- Messages that are read and say the same as before have timestamps that give themselves back. -/
theorem timestamps_of_rereadMessages {messages read : List StoredMessage}
    (hread : rereadMessages messages = some read)
    (hsame : read.map Message.ofStored = messages.map Message.ofStored) :
    ∀ m ∈ messages, m.timestamp.ReadsBack := by
  rw [rereadMessages, reread, Json.asList, Json.inside, Json.rereadItems_eq, List.map_map,
    List.mapM_map] at hread
  induction messages generalizing read with
  | nil => simp
  | cons m rest ih =>
    rw [List.mapM_cons] at hread
    obtain ⟨first, hfirst, hread⟩ := Option.bind_eq_some_iff.mp hread
    obtain ⟨others, hothers, hread⟩ := Option.bind_eq_some_iff.mp hread
    obtain rfl := Option.some.inj hread
    obtain ⟨t, ht, rfl⟩ :=
      Option.map_eq_some_iff.mp ((StoredMessage.fromJson_reread_eq m 124).symm.trans hfirst)
    obtain ⟨hhead, htail⟩ := List.cons.inj hsame
    obtain rfl : t = m.timestamp := congrArg Message.timestamp hhead
    exact List.forall_mem_cons.mpr ⟨ht, ih hothers htail⟩

/-- What it takes for the run of a snapshot without steps to be had back from its text. -/
structure Reloadable (s : Snapshot) : Prop where
  start : s.startedAt.ReadsBack
  checkpoint : ∃ t, Instant.read s.lastCheckpoint.render = some t
  messages : ∀ m ∈ s.messages, m.timestamp.ReadsBack
  depth : s.toJson.depth < 128
  floats : ∀ x ∈ Json.floatsMembers s.vars, x.ReadsBack

theorem reloadable_of_restored (hs : s.WellFormed) {t : Snapshot}
    (hread : Snapshot.read s.render = some t) (hrestore : t.restore = s.restore) :
    s.Reloadable := by
  rw [read_render] at hread
  simp only [Option.bind_eq_some_iff, Option.map_eq_some_iff] at hread
  obtain ⟨version, -, run, hrun, messages, hmessages, context, hcontext, rfl⟩ := hread
  rw [runPart_reread] at hrun
  obtain ⟨started, hstarted, hrun⟩ := Option.bind_eq_some_iff.mp hrun
  obtain ⟨checkpoint, hcheckpoint, rfl⟩ := Option.map_eq_some_iff.mp hrun
  rw [contextPart_reread] at hcontext
  obtain ⟨vars, hvars, hcontext⟩ := Option.bind_eq_some_iff.mp hcontext
  obtain ⟨history, -, rfl⟩ := Option.map_eq_some_iff.mp hcontext
  obtain ⟨hcontext, hconversation⟩ := Prod.mk.inj hrestore
  obtain rfl : started = s.startedAt := congrArg RunContext.startedAt hcontext
  obtain rfl := eq_of_rereadVars hs.vars hvars (congrArg RunContext.vars hcontext)
  obtain ⟨hdepth, hfloats⟩ := (rereadVars_eq_self_iff hs.vars).mp hvars
  exact ⟨hstarted, ⟨checkpoint, hcheckpoint⟩,
    timestamps_of_rereadMessages hmessages hconversation, s.depth_toJson_lt_iff.mpr hdepth, hfloats⟩

theorem restored_of_reloadable (hs : s.WellFormed) (hhistory : s.history = [])
    (h : s.Reloadable) : ∃ t, Snapshot.read s.render = some t ∧ t.restore = s.restore := by
  obtain ⟨checkpoint, hcheckpoint⟩ := h.checkpoint
  have hstart : Instant.read s.startedAt.render = some s.startedAt := h.start
  have hvars : rereadVars s.vars = some s.vars :=
    (rereadVars_eq_self_iff hs.vars).mpr ⟨s.depth_toJson_lt_iff.mp h.depth, h.floats⟩
  have hsteps : rereadHistory s.history = some s.history := by
    rw [hhistory]
    rfl
  refine ⟨{ s with lastCheckpoint := checkpoint }, ?_, rfl⟩
  rw [read_render, format_reread hs.format, runPart_reread, contextPart_reread, hstart,
    hcheckpoint, rereadMessages_of_readBack h.messages, hvars, hsteps]
  rfl

end Snapshot

namespace Engine

open SnapshotStore (read save load)

variable {store : FileStore} {s : Snapshot}

theorem read_of_keeps (h : LawfulStore.Keeps store s) (t : Snapshot) :
    read store s.runId = .ok (some t) ↔ Snapshot.read s.render = some t :=
  FileStore.Keeps.read_eq_some_iff h

/-- The run is had back from the snapshot in a file exactly where the snapshot is reloadable. -/
theorem load_restored_iff (h : LawfulStore.Keeps store s) (hs : s.WellFormed)
    (hhistory : s.history = []) :
    load store s.runId = .ok (some s.restore) ↔ s.Reloadable := by
  rw [load_eq_some_iff]
  simp only [read_of_keeps h]
  constructor
  · rintro ⟨t, ht, hrestore⟩
    exact Snapshot.reloadable_of_restored hs ht hrestore
  · exact Snapshot.restored_of_reloadable hs hhistory

/-- A snapshot that nests too deep is left in its file and answered with an error. -/
theorem load_of_deep (h : LawfulStore.Keeps store s) (hdeep : 128 ≤ s.toJson.depth) :
    ∃ reason, load store s.runId = .error (.corruptSnapshot (store.path s.runId) reason) := by
  have hnone : Snapshot.read s.render = none := by
    refine Snapshot.read_render_of_deep ?_
    have hlevels := s.depth_toJson_lt_iff
    omega
  obtain ⟨modified, hread⟩ := FileStore.Keeps.read_eq h
  refine ⟨"the text is no snapshot", ?_⟩
  have hfound : read store s.runId =
      .error (.corruptSnapshot (store.path s.runId) "the text is no snapshot") := by
    refine hread.trans ?_
    rw [FileStore.readNode]
    simp only [hnone]
  rw [load_eq, hfound]
  rfl

/-- Where the instants of a snapshot are read back, only variables of its run can be others. -/
theorem restored_of_timed (h : LawfulStore.Keeps store s) (hs : s.WellFormed) (htimed : s.Timed)
    {restored : RunContext × Conversation} (hload : load store s.runId = .ok (some restored)) :
    ∃ vars, restored = ({ s.context with vars }, s.conversation) := by
  obtain ⟨t, hread, rfl⟩ := load_eq_some_iff.mp hload
  have htext := (read_of_keeps h t).mp hread
  rw [Snapshot.read_render_of_timed htimed hs.format] at htext
  obtain ⟨vars, -, rfl⟩ := Option.map_eq_some_iff.mp htext
  exact ⟨vars.mapValues Variable.ofJson, rfl⟩

/-- The first snapshot of a run of a workflow is well formed, whatever its header says. -/
theorem wellFormed_fresh {text : String} {path : Option String} {w : Workflow}
    (hw : Workflow.read text path = .ok w) (runId : String) (conversation : Conversation)
    (start now : Instant) :
    (Snapshot.capture (.ofWorkflow runId w start) conversation none now).WellFormed ∧
      (RunContext.ofWorkflow runId w start).Native := by
  obtain ⟨hsorted, hvars⟩ := RunContext.fresh_initialVariables (Workflow.fits_input hw)
  have hnative : (RunContext.ofWorkflow runId w start).Native := hvars
  refine ⟨⟨(by decide : isNat32 Snapshot.currentFormat = true), ?_, ?_⟩, hnative⟩
  · exact List.pairwise_map.mpr hsorted
  · exact Snapshot.canonical_capture hnative conversation none now

theorem exists_first_save (ctx : RunContext) (hid : RunId.check ctx.runId = .ok ()) (dir : String)
    {site : Site} (hempty : site = .absent ∨ site = .folder []) (conversation : Conversation)
    (now : Instant) : ∃ store : FileStore,
      save (⟨dir, site, false⟩ : FileStore) ctx conversation now = (.ok (), store) ∧
      LawfulStore.Keeps store (.capture ctx conversation none now) := by
  have hsound := FileStore.sound_of_empty dir hempty
  have hown : RunId.check (Snapshot.capture ctx conversation none now).runId = .ok () := hid
  obtain ⟨store, hwrite, hkeeps⟩ := LawfulStore.write_of_live hsound hown rfl now
  refine ⟨store, ?_, hkeeps⟩
  rw [save, LawfulStore.previous_of_read (FileStore.read_of_empty hempty hid)]
  exact hwrite

/-- The first checkpoint of a run in an empty folder is always written. The run is had back from it
exactly where the snapshot is reloadable; one that nests too deep is found corrupt. -/
theorem fresh_run_reload {text : String} {path : Option String} {w : Workflow}
    (hw : Workflow.read text path = .ok w) {runId : String} (hid : RunId.check runId = .ok ())
    (dir : String) {site : Site} (hempty : site = .absent ∨ site = .folder [])
    (conversation : Conversation) (start now : Instant) :
    let ctx := RunContext.ofWorkflow runId w start
    let s := Snapshot.capture ctx conversation none now
    ∃ store : FileStore,
      save (⟨dir, site, false⟩ : FileStore) ctx conversation now = (.ok (), store) ∧
      (load store runId = .ok (some (ctx, conversation)) ↔ s.Reloadable) ∧
      (128 ≤ s.toJson.depth →
        ∃ reason, load store runId = .error (.corruptSnapshot (store.path runId) reason)) ∧
      (s.Timed → ∀ restored, load store runId = .ok (some restored) →
        ∃ vars, restored = ({ ctx with vars }, conversation)) := by
  intro ctx s
  obtain ⟨hs, hnative⟩ := wellFormed_fresh hw runId conversation start now
  have hrestore : s.restore = (ctx, conversation) :=
    Snapshot.restore_capture hnative conversation none now
  obtain ⟨hcontext, hconversation⟩ := Prod.mk.inj hrestore
  obtain ⟨store, hsave, hkeeps⟩ := exists_first_save ctx hid dir hempty conversation now
  refine ⟨store, hsave, ?_, load_of_deep hkeeps, ?_⟩
  · rw [← hrestore]
    exact load_restored_iff hkeeps hs rfl
  · intro htimed restored hload
    obtain ⟨vars, hvars⟩ := restored_of_timed hkeeps hs htimed hload
    rw [hcontext, hconversation] at hvars
    exact ⟨vars, hvars⟩

/-- A document with a list for a default value. -/
def listed : String := "---\ninput:\n  default:\n    x: [1]\n---\n"

/-- The document is read, and its variables nest so deep at most and hold no floating-point
numbers. -/
def isPlain (levels : Nat) (text : String) : Bool :=
  match Workflow.read text none with
  | .ok w =>
      let vars := (RunContext.initialVariables w.header.input).mapValues Variable.toJson
      decide (Json.depthMembers vars ≤ levels) && (Json.floatsMembers vars).isEmpty
  | .error _ => false

theorem fresh_run_reload_of_listed :
    let conversation : Conversation := [⟨.user, "hi", ⟨0, 0⟩⟩]
    ∃ (w : Workflow) (store : FileStore), Workflow.read listed none = .ok w ∧
      save (⟨"state", .absent, false⟩ : FileStore) (.ofWorkflow "r" w ⟨0, 0⟩) conversation ⟨0, 0⟩ =
        (.ok (), store) ∧
      load store "r" = .ok (some (.ofWorkflow "r" w ⟨0, 0⟩, conversation)) := by
  intro conversation
  have hplain : isPlain 124 listed = true := by decide +kernel
  unfold isPlain at hplain
  split at hplain
  · next w hw =>
    simp only [Bool.and_eq_true, decide_eq_true_eq, List.isEmpty_iff] at hplain
    obtain ⟨store, hsave, hload, -⟩ := fresh_run_reload hw (by decide : RunId.check "r" = .ok ())
      "state" (.inl rfl) conversation ⟨0, 0⟩ ⟨0, 0⟩
    refine ⟨w, store, hw, hsave, hload.mpr ⟨?_, ⟨_, Instant.readsBack_zero⟩, ?_, ?_, ?_⟩⟩
    · exact Instant.readsBack_zero
    · intro m hm
      obtain rfl := List.mem_singleton.mp hm
      exact Instant.readsBack_zero
    · exact (Snapshot.depth_toJson_lt_iff _).mpr hplain.1
    · intro x hx
      have hnone : x ∈ ([] : List Binary64) := hplain.2 ▸ hx
      cases hnone
  · cases hplain

/-- A fresh run that begins with `1e-30` is had back with the number below it. -/
theorem fresh_run_drifts :
    ∃ (w : Workflow) (store : FileStore), Workflow.read tinyDocument none = .ok w ∧
      (RunContext.ofWorkflow "r" w ⟨0, 0⟩).vars = [("x", .float .upper)] ∧
      save (⟨"state", .absent, false⟩ : FileStore) (.ofWorkflow "r" w ⟨0, 0⟩) [] ⟨0, 0⟩ =
        (.ok (), store) ∧
      load store "r" = .ok (some
        ({ RunContext.ofWorkflow "r" w ⟨0, 0⟩ with vars := [("x", .float .lower)] }, [])) := by
  have htiny : beginsWith .upper tinyDocument = true := by decide +kernel
  obtain ⟨w, hw, -, -, hvars⟩ := exists_of_beginsWith htiny
  obtain ⟨store, hsave, hkeeps⟩ := exists_first_save (.ofWorkflow "r" w ⟨0, 0⟩)
    (by decide : RunId.check "r" = .ok ()) "state" (Or.inl rfl) [] ⟨0, 0⟩
  have hread := FileStore.Keeps.read_of_number hkeeps (timed_of_fresh w "r" Instant.readsBack_zero)
    (by decide : isNat32 Snapshot.currentFormat = true) (vars_of_number (by decide) hvars ⟨0, 0⟩)
    Json.rewritten_upper
  exact ⟨w, store, hw, hvars, hsave, load_eq_some_iff.mpr ⟨_, hread, rfl⟩⟩

end Engine

end Runbook
