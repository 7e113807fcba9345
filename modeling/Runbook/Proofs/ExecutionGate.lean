import Runbook.Engine
import Runbook.Proofs.StoreContract

/-!
The way of a run to its execution. An attempt either is executed, on a store that is named here,
or is refused at the first stage that it does not pass; then the orchestrator is never called and
no snapshot has changed. Nothing is assumed of what the store holds.
-/

namespace Runbook

open SnapshotStore (read find previous save)
open LawfulStore (Keeps)

namespace LawfulStore

variable {σ : Type} [SnapshotStore σ] [Cancellable σ] [LawfulStore σ] {store store' : σ}
  {ctx : RunContext} {conversation : Conversation} {now : Instant}

theorem keeps_of_save (h : save store ctx conversation now = (.ok (), store')) :
    ∃ found, Keeps store' (.capture ctx conversation found now) := by
  cases hprevious : previous store ctx.runId with
  | error e => simp [save, hprevious] at h
  | ok found =>
    rw [save, hprevious] at h
    exact ⟨found, keeps_of_write h⟩

/-- A checkpoint that fails leaves all snapshots as they were. -/
theorem read_of_save_error {e : Error} (h : save store ctx conversation now = (.error e, store'))
    (runId : String) : read store' runId = read store runId := by
  cases hprevious : previous store ctx.runId with
  | error other =>
    rw [save, hprevious] at h
    rw [(Prod.mk.inj h).2]
  | ok found =>
    rw [save, hprevious] at h
    exact read_of_write_error h runId

end LawfulStore

namespace Engine

variable {σ : Type} [SnapshotStore σ]

/-- The error for a report that does not let a workflow pass. -/
def refusal (r : Report) : Error := .validationFailed r.errors.length r.errorSummary

theorem accept_eq (r : Report) :
    r.accept = if r.errors = [] then .ok () else .error (refusal r) := by
  unfold Report.accept Report.isValid refusal
  by_cases h : r.errors = []
  · simp [h]
  · simp [h]

/-- The ways in which a workflow passes the engine's own check or does not. -/
theorem check_cases (e : Engine) (w : Workflow) :
    e.cancelled = true ∧ e.check w = .error .cancelled ∨
    e.cancelled = false ∧ (e.validator.validate w).errors ≠ [] ∧
      e.check w = .error (refusal (e.validator.validate w)) ∨
    e.cancelled = false ∧ (e.validator.validate w).errors = [] ∧
      e.check w = .ok (e.validator.validate w) := by
  cases hc : e.cancelled with
  | true =>
    refine Or.inl ⟨rfl, ?_⟩
    simp [check, ensureNotCancelled, hc, bind, Except.bind]
  | false =>
    refine Or.inr ?_
    by_cases hvalid : (e.validator.validate w).errors = []
    · refine Or.inr ⟨rfl, hvalid, ?_⟩
      simp [check, ensureNotCancelled, hc, accept_eq, hvalid, bind, Except.bind, pure, Except.pure]
    · refine Or.inl ⟨rfl, hvalid, ?_⟩
      simp [check, ensureNotCancelled, hc, accept_eq, hvalid, bind, Except.bind]

/-- What a fresh run has to pass before it is executed. -/
structure RunAdmitted (e : Engine) (validate : Workflow → RunContext → Report) (w : Workflow)
    (runId : String) (start : Instant) (store : σ) : Prop where
  live : e.cancelled = false
  valid : (e.validator.validate w).errors = []
  accepted : (validate w (.ofWorkflow runId w start)).errors = []
  saved : (save store (.ofWorkflow runId w start) [] start).1 = .ok ()

/-- The error of the first stage that a fresh run does not pass. -/
inductive RunRefused (e : Engine) (validate : Workflow → RunContext → Report) (w : Workflow)
    (runId : String) (start : Instant) (store : σ) : Error → Prop
  | cancelled (hdead : e.cancelled = true) : RunRefused e validate w runId start store .cancelled
  | invalid (hlive : e.cancelled = false) (hinvalid : (e.validator.validate w).errors ≠ []) :
      RunRefused e validate w runId start store (refusal (e.validator.validate w))
  | rejected (hlive : e.cancelled = false) (hvalid : (e.validator.validate w).errors = [])
      (hrejected : (validate w (.ofWorkflow runId w start)).errors ≠ []) :
      RunRefused e validate w runId start store (refusal (validate w (.ofWorkflow runId w start)))
  | unsaved (hlive : e.cancelled = false) (hvalid : (e.validator.validate w).errors = [])
      (haccepted : (validate w (.ofWorkflow runId w start)).errors = []) (err : Error)
      (hunsaved : (save store (.ofWorkflow runId w start) [] start).1 = .error err) :
      RunRefused e validate w runId start store err

theorem RunRefused.not_admitted {e : Engine} {validate : Workflow → RunContext → Report}
    {w : Workflow} {runId : String} {start : Instant} {store : σ} {err : Error}
    (h : RunRefused e validate w runId start store err) :
    ¬ RunAdmitted e validate w runId start store := by
  intro hadmitted
  cases h with
  | cancelled hdead => simp [hadmitted.live] at hdead
  | invalid hlive hinvalid => exact hinvalid hadmitted.valid
  | rejected hlive hvalid hrejected => exact hrejected hadmitted.accepted
  | unsaved hlive hvalid haccepted err hunsaved => simp [hadmitted.saved] at hunsaved

/-- All that can become of a fresh run before its execution. -/
theorem prepareRun_cases (e : Engine) (validate : Workflow → RunContext → Report) (w : Workflow)
    (runId : String) (start : Instant) (store : σ) :
    (∃ store', RunAdmitted e validate w runId start store ∧
      save store (.ofWorkflow runId w start) [] start = (.ok (), store') ∧
      e.prepareRun validate w runId start store =
        (.ok (.ofWorkflow runId w start, e.validator.validate w), store')) ∨
    ∃ err store', RunRefused e validate w runId start store err ∧
      (store' = store ∨ save store (.ofWorkflow runId w start) [] start = (.error err, store')) ∧
      e.prepareRun validate w runId start store = (.error err, store') := by
  rcases check_cases e w with ⟨hdead, hcheck⟩ | ⟨hlive, hinvalid, hcheck⟩ | ⟨hlive, hvalid, hcheck⟩
  · refine Or.inr ⟨_, store, .cancelled hdead, Or.inl rfl, ?_⟩
    simp [prepareRun, pass, hcheck, bind, Except.bind]
  · refine Or.inr ⟨_, store, .invalid hlive hinvalid, Or.inl rfl, ?_⟩
    simp [prepareRun, pass, hcheck, bind, Except.bind]
  by_cases haccepted : (validate w (.ofWorkflow runId w start)).errors = []
  · have hpass : e.pass validate w runId start =
        .ok (.ofWorkflow runId w start, e.validator.validate w) := by
      simp [pass, hcheck, accept_eq, haccepted, bind, Except.bind, pure, Except.pure]
    cases hsave : save store (.ofWorkflow runId w start) [] start with
    | mk answer store' =>
      cases answer with
      | ok u =>
        refine Or.inl ⟨store', ⟨hlive, hvalid, haccepted, by rw [hsave]⟩, rfl, ?_⟩
        simp [prepareRun, hpass, hsave]
      | error err =>
        refine Or.inr ⟨err, store', .unsaved hlive hvalid haccepted err (by rw [hsave]),
          Or.inr rfl, ?_⟩
        simp [prepareRun, hpass, hsave]
  · refine Or.inr ⟨_, store, .rejected hlive hvalid haccepted, Or.inl rfl, ?_⟩
    simp [prepareRun, pass, hcheck, accept_eq, haccepted, bind, Except.bind]

/-- A document that a run may go on with. -/
def Fits (s : Snapshot) (text : String) (force : Bool) : Prop :=
  force = true ∨ s.contentHash = none ∨ s.contentHash = some (contentHash text)

theorem prepareResume_of_fits {store : σ} {runId text : String} {force : Bool} {s : Snapshot}
    (hfind : find store runId = .ok (some s)) (hfits : Fits s text force) :
    SnapshotStore.prepareResume store runId text force = .ok s.restore := by
  unfold SnapshotStore.prepareResume
  rw [hfind]
  rcases hfits with rfl | hnone | hsame
  · simp only [bind, Except.bind]
    split
    · rfl
    · rfl
  · simp [Compatibility.check, hnone, bind, Except.bind, pure, Except.pure]
  · simp [Compatibility.check, hsame, bind, Except.bind, pure, Except.pure]

theorem prepareResume_of_unfit {store : σ} {runId text : String} {force : Bool} {s : Snapshot}
    (hfind : find store runId = .ok (some s)) (hunfit : ¬ Fits s text force) :
    ∃ stored, s.contentHash = some stored ∧ SnapshotStore.prepareResume store runId text force =
      .error (.incompatibleSnapshot runId stored (contentHash text)) := by
  have hforce : force = false := by
    by_contra h
    exact hunfit (Or.inl (by simpa using h))
  cases hhash : s.contentHash with
  | none => exact absurd (Or.inr (Or.inl hhash)) hunfit
  | some stored =>
    have hne : stored ≠ contentHash text := by
      rintro rfl
      exact hunfit (Or.inr (Or.inr hhash))
    refine ⟨stored, rfl, ?_⟩
    simp [SnapshotStore.prepareResume, hfind, Compatibility.check, hhash, hne, hforce, bind,
      Except.bind, throw, throwThe, MonadExceptOf.throw]

/-- Storing a run again, with the hash of the workflow that it goes on with. -/
def recheckpoint (w : Workflow) (start : Instant) (store : σ) (s : Snapshot) :
    Except Error Unit × σ :=
  save store { s.context with workflowHash := some w.contentHash } s.conversation start

/-- What a run that is to go on has to pass before it is executed. -/
structure ResumeAdmitted (e : Engine) (runId : String) (w : Workflow) (text : String)
    (force : Bool) (start : Instant) (store : σ) : Prop where
  live : e.cancelled = false
  valid : (e.validator.validate w).errors = []
  wellFormed : RunId.check runId = .ok ()
  stored : ∃ s, read store runId = .ok (some s) ∧ Fits s text force ∧
    (s.contentHash ≠ some w.contentHash → (recheckpoint w start store s).1 = .ok ())

/-- The error of the first stage that a run that is to go on does not pass. -/
inductive ResumeRefused (e : Engine) (runId : String) (w : Workflow) (text : String)
    (force : Bool) (start : Instant) (store : σ) : Error → Prop
  | cancelled (hdead : e.cancelled = true) :
      ResumeRefused e runId w text force start store .cancelled
  | invalid (hlive : e.cancelled = false) (hinvalid : (e.validator.validate w).errors ≠ []) :
      ResumeRefused e runId w text force start store (refusal (e.validator.validate w))
  | malformed (hlive : e.cancelled = false) (hvalid : (e.validator.validate w).errors = [])
      (err : Error) (hmalformed : RunId.check runId = .error err) :
      ResumeRefused e runId w text force start store err
  | unreadable (hlive : e.cancelled = false) (hvalid : (e.validator.validate w).errors = [])
      (hid : RunId.check runId = .ok ()) (err : Error)
      (hunreadable : read store runId = .error err) :
      ResumeRefused e runId w text force start store err
  | missing (hlive : e.cancelled = false) (hvalid : (e.validator.validate w).errors = [])
      (hmissing : read store runId = .ok none) :
      ResumeRefused e runId w text force start store (.snapshotNotFound runId)
  | unfit (hlive : e.cancelled = false) (hvalid : (e.validator.validate w).errors = [])
      (s : Snapshot) (hread : read store runId = .ok (some s)) (hunfit : ¬ Fits s text force)
      (stored : String) (hstored : s.contentHash = some stored) :
      ResumeRefused e runId w text force start store
        (.incompatibleSnapshot runId stored (contentHash text))
  | unsaved (hlive : e.cancelled = false) (hvalid : (e.validator.validate w).errors = [])
      (s : Snapshot) (hread : read store runId = .ok (some s)) (hfits : Fits s text force)
      (hother : s.contentHash ≠ some w.contentHash) (err : Error)
      (hunsaved : (recheckpoint w start store s).1 = .error err) :
      ResumeRefused e runId w text force start store err

theorem ResumeRefused.not_admitted {e : Engine} {runId : String} {w : Workflow} {text : String}
    {force : Bool} {start : Instant} {store : σ} {err : Error}
    (h : ResumeRefused e runId w text force start store err) :
    ¬ ResumeAdmitted e runId w text force start store := by
  intro hadmitted
  obtain ⟨found, hfound, hfits, hsaved⟩ := hadmitted.stored
  have hsame : ∀ s, read store runId = .ok (some s) → s = found := by
    intro s hs
    exact Option.some.inj (Except.ok.inj (hs.symm.trans hfound))
  cases h with
  | cancelled hdead => simp [hadmitted.live] at hdead
  | invalid hlive hinvalid => exact hinvalid hadmitted.valid
  | malformed hlive hvalid err hmalformed => simp [hadmitted.wellFormed] at hmalformed
  | unreadable hlive hvalid hid err hunreadable => simp [hfound] at hunreadable
  | missing hlive hvalid hmissing => simp [hfound] at hmissing
  | unfit hlive hvalid s hread hunfit stored hstored => exact hunfit (hsame s hread ▸ hfits)
  | unsaved hlive hvalid s hread hfits hother err hunsaved =>
    obtain rfl := hsame s hread
    simp [hsaved hother] at hunsaved

/-- An attempt calls the orchestrator on the store `handed` and then ends as its reply has it. -/
def Executes (attempt : Orchestrator σ → Except Error Outcome × σ)
    (act : Orchestrator σ → σ → Reply × σ) (runId : String) (w : Workflow) (report : Report)
    (stop : Instant) (handed : σ) : Prop :=
  ∀ o, attempt o = finish runId w (act o handed).1 report stop (act o handed).2

/-- An attempt ends with an error, whatever the orchestrator would have done. -/
def Refuses (attempt : Orchestrator σ → Except Error Outcome × σ) (err : Error) (left : σ) : Prop :=
  ∀ o, attempt o = (.error err, left)

theorem finish_of_failure (runId : String) (w : Workflow) (report : Report) (stop : Instant)
    (store : σ) (text : String) (milliseconds : Nat) :
    (finish runId w (.answered (.ok (.failed text milliseconds))) report stop store).1 =
      .ok ⟨runId, .failed text milliseconds, report⟩ := by
  simp [finish, Reply.status, Reply.result, ExecutionResult.failed, Except.map]

/-- An orchestrator that only fails tells an attempt that calls it from one that does not. -/
theorem Executes.not_refuses {attempt : Orchestrator σ → Except Error Outcome × σ}
    {act : Orchestrator σ → σ → Reply × σ} {runId : String} {w : Workflow} {report : Report}
    {stop : Instant} {handed left : σ} {err : Error}
    (h : Executes attempt act runId w report stop handed)
    (hact : act (.mock (some "") 0) handed = (.answered (.ok (.failed "" 0)), handed)) :
    ¬ Refuses attempt err left := by
  intro hrefuses
  have hends := h (.mock (some "") 0)
  rw [hrefuses, hact] at hends
  have hanswer := congrArg Prod.fst hends
  rw [finish_of_failure] at hanswer
  simp at hanswer

/-- An attempt that is executed just where it is admitted, and is refused without a trace
elsewhere. -/
structure Gate (attempt : Orchestrator σ → Except Error Outcome × σ)
    (act : Orchestrator σ → σ → Reply × σ) (runId : String) (w : Workflow) (report : Report)
    (stop : Instant) (store : σ) (admitted : Prop) (refused : Error → Prop) : Prop where
  executes_iff : (∃ handed, Executes attempt act runId w report stop handed) ↔ admitted
  refuses : ¬ admitted → ∃ err left, refused err ∧ Refuses attempt err left ∧
    ∀ id, read left id = read store id

theorem gate_of_cases {attempt : Orchestrator σ → Except Error Outcome × σ}
    {act : Orchestrator σ → σ → Reply × σ} {runId : String} {w : Workflow} {report : Report}
    {stop : Instant} {store : σ} {admitted : Prop} {refused : Error → Prop}
    (hact : ∀ s, act (.mock (some "") 0) s = (.answered (.ok (.failed "" 0)), s))
    (hnot : ∀ err, refused err → ¬ admitted)
    (h : (∃ handed, admitted ∧ Executes attempt act runId w report stop handed) ∨
      ∃ err left, refused err ∧ Refuses attempt err left ∧ ∀ id, read left id = read store id) :
    Gate attempt act runId w report stop store admitted refused := by
  rcases h with ⟨handed, hadmitted, hexecutes⟩ | ⟨err, left, hrefused, hrefuses, hreads⟩
  · exact ⟨⟨fun _ => hadmitted, fun _ => ⟨handed, hexecutes⟩⟩, fun hno => absurd hadmitted hno⟩
  · refine ⟨⟨?_, fun hadmitted => absurd hadmitted (hnot err hrefused)⟩,
      fun _ => ⟨err, left, hrefused, hrefuses, hreads⟩⟩
    rintro ⟨handed, hexecutes⟩
    exact absurd hrefuses (hexecutes.not_refuses (hact handed))

section Lawful

variable [Cancellable σ] [LawfulStore σ]

/-- The last stage of a resume: where the hash differs, the snapshot is stored once more. -/
theorem prepareResume_of_passAgain {e : Engine} {runId : String} {w : Workflow} {text : String}
    {force : Bool} {start : Instant} {store : σ} {s : Snapshot} (hlive : e.cancelled = false)
    (hvalid : (e.validator.validate w).errors = []) (hid : RunId.check runId = .ok ())
    (hread : read store runId = .ok (some s)) (hfits : Fits s text force)
    (hpass : e.passAgain runId w text force store =
      .ok (s.restore, e.validator.validate w)) :
    (∃ store', ResumeAdmitted e runId w text force start store ∧
      e.prepareResume runId w text force start store = (.ok (e.validator.validate w), store')) ∨
    ∃ err store', ResumeRefused e runId w text force start store err ∧
      (∀ id, read store' id = read store id) ∧
      e.prepareResume runId w text force start store = (.error err, store') := by
  by_cases hhash : s.contentHash = some w.contentHash
  · refine Or.inl ⟨store, ⟨hlive, hvalid, hid, s, hread, hfits, absurd hhash⟩, ?_⟩
    simp [prepareResume, hpass, Snapshot.restore, Snapshot.context, hhash]
  · cases hsave : recheckpoint w start store s with
    | mk answer store' =>
      have hrun : e.prepareResume runId w text force start store =
          (answer.map fun _ => e.validator.validate w, store') := by
        have hother : ¬ s.context.workflowHash = some w.contentHash := hhash
        simp only [recheckpoint] at hsave
        simp only [prepareResume, hpass, Snapshot.restore]
        rw [if_neg hother, hsave]
        cases answer <;> rfl
      cases answer with
      | ok u =>
        exact Or.inl ⟨store', ⟨hlive, hvalid, hid, s, hread, hfits, fun _ => by rw [hsave]⟩, hrun⟩
      | error err =>
        exact Or.inr ⟨err, store', .unsaved hlive hvalid s hread hfits hhash err (by rw [hsave]),
          LawfulStore.read_of_save_error hsave, hrun⟩

/-- All that can become of a run that is to go on before its execution. -/
theorem prepareResume_cases (e : Engine) (runId : String) (w : Workflow) (text : String)
    (force : Bool) (start : Instant) (store : σ) :
    (∃ store', ResumeAdmitted e runId w text force start store ∧
      e.prepareResume runId w text force start store = (.ok (e.validator.validate w), store')) ∨
    ∃ err store', ResumeRefused e runId w text force start store err ∧
      (∀ id, read store' id = read store id) ∧
      e.prepareResume runId w text force start store = (.error err, store') := by
  rcases check_cases e w with ⟨hdead, hcheck⟩ | ⟨hlive, hinvalid, hcheck⟩ | ⟨hlive, hvalid, hcheck⟩
  · refine Or.inr ⟨_, store, .cancelled hdead, fun id => rfl, ?_⟩
    simp [prepareResume, passAgain, hcheck, bind, Except.bind]
  · refine Or.inr ⟨_, store, .invalid hlive hinvalid, fun id => rfl, ?_⟩
    simp [prepareResume, passAgain, hcheck, bind, Except.bind]
  rcases RunId.check_ok_or_error runId with hid | ⟨reason, hid⟩
  · have hfind := LawfulStore.find_eq store runId
    cases hread : read store runId with
    | error err =>
      refine Or.inr ⟨err, store, .unreadable hlive hvalid hid err hread, fun id => rfl, ?_⟩
      simp [prepareResume, passAgain, hcheck, SnapshotStore.prepareResume, hfind, hread, bind,
        Except.bind]
    | ok found =>
      cases found with
      | none =>
        refine Or.inr ⟨_, store, .missing hlive hvalid hread, fun id => rfl, ?_⟩
        simp [prepareResume, passAgain, hcheck, SnapshotStore.prepareResume, hfind, hread, bind,
          Except.bind, throw, throwThe, MonadExceptOf.throw]
      | some s =>
        by_cases hfits : Fits s text force
        · have hpass : e.passAgain runId w text force store =
              .ok (s.restore, e.validator.validate w) := by
            simp [passAgain, hcheck, prepareResume_of_fits (hfind.trans hread) hfits, bind,
              Except.bind, pure, Except.pure]
          exact prepareResume_of_passAgain hlive hvalid hid hread hfits hpass
        · obtain ⟨stored, hstored, hprepare⟩ := prepareResume_of_unfit (hfind.trans hread) hfits
          refine Or.inr ⟨_, store, .unfit hlive hvalid s hread hfits stored hstored,
            fun id => rfl, ?_⟩
          simp [prepareResume, passAgain, hcheck, hprepare, bind, Except.bind]
  · refine Or.inr ⟨_, store, .malformed hlive hvalid _ hid, fun id => rfl, ?_⟩
    simp [prepareResume, passAgain, hcheck, SnapshotStore.prepareResume, find, hid, bind,
      Except.bind]

theorem run_gate (e : Engine) (validate : Workflow → RunContext → Report) (w : Workflow)
    (runId : String) (start stop : Instant) (store : σ) :
    Gate (fun o => e.run { o with validate } w runId start stop store)
      (fun o => o.execute w (.ofWorkflow runId w start)) runId w (e.validator.validate w) stop store
      (RunAdmitted e validate w runId start store)
      (RunRefused e validate w runId start store) := by
  apply gate_of_cases (fun s => rfl) (fun err h => h.not_admitted)
  rcases prepareRun_cases e validate w runId start store with
    ⟨handed, hadmitted, -, hprepare⟩ | ⟨err, left, hrefused, hleft, hprepare⟩
  · refine Or.inl ⟨handed, hadmitted, ?_⟩
    intro o
    simp only [run, hprepare]
  · refine Or.inr ⟨err, left, hrefused, ?_, ?_⟩
    · intro o
      simp only [run, hprepare]
    · rcases hleft with rfl | hsave
      · exact fun id => rfl
      · exact LawfulStore.read_of_save_error hsave

theorem resume_gate (e : Engine) (runId : String) (w : Workflow) (text : String) (force : Bool)
    (start stop : Instant) (store : σ) :
    Gate (fun o => e.resume o runId w text force start stop store)
      (fun o => o.resume runId w) runId w (e.validator.validate w) stop store
      (ResumeAdmitted e runId w text force start store)
      (ResumeRefused e runId w text force start store) := by
  apply gate_of_cases (fun s => rfl) (fun err h => h.not_admitted)
  rcases prepareResume_cases e runId w text force start store with
    ⟨handed, hadmitted, hprepare⟩ | ⟨err, left, hrefused, hreads, hprepare⟩
  · refine Or.inl ⟨handed, hadmitted, ?_⟩
    intro o
    simp only [resume, hprepare]
  · refine Or.inr ⟨err, left, hrefused, ?_, hreads⟩
    intro o
    simp only [resume, hprepare]

/-- A run that is admitted is executed on a store that holds its first snapshot. -/
theorem keeps_of_runAdmitted {e : Engine} {validate : Workflow → RunContext → Report}
    {w : Workflow} {runId : String} {start : Instant} {store : σ}
    (h : RunAdmitted e validate w runId start store) (stop : Instant) : ∃ handed s,
      Executes (fun o => e.run { o with validate } w runId start stop store)
        (fun o => o.execute w (.ofWorkflow runId w start)) runId w (e.validator.validate w) stop
        handed ∧
      Keeps handed s ∧ s.runId = runId ∧ s.status = .inProgress ∧
      s.contentHash = some w.contentHash := by
  rcases prepareRun_cases e validate w runId start store with
    ⟨handed, -, hsave, hprepare⟩ | ⟨err, left, hrefused, -, -⟩
  · obtain ⟨found, hkeeps⟩ := LawfulStore.keeps_of_save hsave
    refine ⟨handed, _, ?_, hkeeps, rfl, rfl, rfl⟩
    intro o
    simp only [run, hprepare]
  · exact absurd h hrefused.not_admitted

/-- Nothing is executed that has not passed every stage, and what has passed them all is
executed; on the way to a refusal no snapshot changes. -/
theorem execution_gate (e : Engine) (validate : Workflow → RunContext → Report) (w : Workflow)
    (runId text : String) (force : Bool) (start stop : Instant) (store : σ) :
    Gate (fun o => e.run { o with validate } w runId start stop store)
      (fun o => o.execute w (.ofWorkflow runId w start)) runId w (e.validator.validate w) stop store
      (RunAdmitted e validate w runId start store)
      (RunRefused e validate w runId start store) ∧
    (RunAdmitted e validate w runId start store → ∃ handed s,
      Executes (fun o => e.run { o with validate } w runId start stop store)
        (fun o => o.execute w (.ofWorkflow runId w start)) runId w (e.validator.validate w) stop
        handed ∧
      Keeps handed s ∧ s.runId = runId ∧ s.status = .inProgress ∧
      s.contentHash = some w.contentHash) ∧
    Gate (fun o => e.resume o runId w text force start stop store)
      (fun o => o.resume runId w) runId w (e.validator.validate w) stop store
      (ResumeAdmitted e runId w text force start store)
      (ResumeRefused e runId w text force start store) :=
  ⟨run_gate e validate w runId start stop store, fun h => keeps_of_runAdmitted h stop,
    resume_gate e runId w text force start stop store⟩

end Lawful

end Engine

end Runbook
