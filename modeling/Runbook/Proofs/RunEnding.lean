import Runbook.Proofs.CaptureRestore
import Runbook.Proofs.ExecutionGate
import Runbook.Proofs.FileContract
import Runbook.Proofs.MemoryContract
import Runbook.Proofs.RunEffects

/-!
The end of a run that has been executed. The orchestrator may have done anything to the store that
a store allows; the engine then brings the run's snapshot into the state that the reply calls for,
or removes it, and touches nothing else. The one exception is a snapshot that is not read back as it
was written, and it is never offered for resuming either.
-/

namespace Runbook

open SnapshotStore (read find write save update markStatus delete available Change)
open LawfulStore (Sound Keeps)

section Evolution

variable {σ : Type} [SnapshotStore σ]

/-- The second store has come out of the first by changes that a store itself makes. -/
inductive Evolves (store : σ) : σ → Prop
  | refl : Evolves store store
  | step {later : σ} (h : Evolves store later) (now : Instant) (change : Change) :
      Evolves store (change.apply now later)

namespace Evolves

variable {a b c : σ}

theorem trans (hab : Evolves a b) (hbc : Evolves b c) : Evolves a c := by
  induction hbc with
  | refl => exact hab
  | step h now change ih => exact .step ih now change

theorem perform (store : σ) (now : Instant) (operation : Operation) :
    Evolves store (operation.perform store now).2 := by
  rw [Operation.perform_snd]
  cases operation.change? store now with
  | none => exact .refl
  | some change => exact .step .refl now change

theorem save (store : σ) (ctx : RunContext) (conversation : Conversation) (now : Instant) :
    Evolves store (SnapshotStore.save store ctx conversation now).2 :=
  perform store now (.save ctx conversation)

theorem markStatus (store : σ) (runId : String) (status : RunStatus) (now : Instant) :
    Evolves store (SnapshotStore.markStatus store runId status now).2 :=
  perform store now (.mark runId status)

theorem delete (store : σ) (runId : String) : Evolves store (SnapshotStore.delete store runId).2 :=
  .step .refl ⟨0, 0⟩ (.delete runId)

variable [Cancellable σ] [LawfulStore σ]

theorem sound (h : Evolves a b) (ha : Sound a) : Sound b := by
  induction h with
  | refl => exact ha
  | step h now change ih => exact LawfulStore.sound_apply ih now change

theorem isCancelled_eq (h : Evolves a b) : isCancelled b = isCancelled a := by
  induction h with
  | refl => rfl
  | step h now change ih => rw [LawfulStore.isCancelled_apply, ih]

end Evolves

/-- An orchestrator that works on the store by the store's own changes only. -/
structure Orchestrator.Operates (o : Orchestrator σ) : Prop where
  execute (w : Workflow) (ctx : RunContext) (store : σ) : Evolves store (o.execute w ctx store).2
  resume (runId : String) (w : Workflow) (store : σ) : Evolves store (o.resume runId w store).2

end Evolution

/-- The status in which a run has to end after a reply. -/
inductive EndsAs : Reply → RunStatus → Prop
  | completed {result : ExecutionResult} (h : result.success = true) :
      EndsAs (.answered (.ok result)) .completed
  | failed {result : ExecutionResult} (h : result.success = false) :
      EndsAs (.answered (.ok result)) .failed
  | cancelled : EndsAs (.answered (.error .cancelled)) .cancelled
  | broken {e : Error} (h : e ≠ .cancelled) : EndsAs (.answered (.error e)) .failed
  | interrupted : EndsAs .interrupted .cancelled

namespace Reply

theorem endsAs (r : Reply) : EndsAs r r.status := by
  cases r with
  | interrupted => exact .interrupted
  | answered result =>
    cases result with
    | ok result =>
      cases hsuccess : result.success with
      | true =>
        have hstatus : (answered (.ok result)).status = .completed := by
          simp [status, Reply.result, hsuccess]
        rw [hstatus]
        exact .completed hsuccess
      | false =>
        have hstatus : (answered (.ok result)).status = .failed := by
          simp [status, Reply.result, hsuccess]
        rw [hstatus]
        exact .failed hsuccess
    | error e =>
      by_cases he : e = .cancelled
      · subst he
        exact .cancelled
      · have hstatus : (answered (.error e)).status = .failed := by
          simp only [status, Reply.result]
        rw [hstatus]
        exact .broken he

theorem status_ne_inProgress (r : Reply) : r.status ≠ .inProgress := by
  intro h
  have hends := r.endsAs
  rw [h] at hends
  cases hends

end Reply

namespace LawfulStore

variable {σ : Type} [SnapshotStore σ] [Cancellable σ] [LawfulStore σ] {store : σ} {runId : String}
  {s : Snapshot}

theorem read_of_keeps_of_runId (h : Keeps store s) (hown : s.runId = runId) :
    read store runId = .ok (some s) ↔ Retains σ s := by
  rw [← hown]
  exact read_of_keeps_iff h

theorem status_of_keeps_of_runId (h : Keeps store s) (hown : s.runId = runId)
    {found : Option Snapshot} (hread : read store runId = .ok found) :
    ∃ other, found = some other ∧ other.status = s.status := by
  rw [← hown] at hread
  exact status_of_keeps h hread

theorem check_of_save {ctx : RunContext} {conversation : Conversation} {now : Instant}
    (h : (save store ctx conversation now).1 = .ok ()) : RunId.check ctx.runId = .ok () := by
  rcases RunId.check_ok_or_error ctx.runId with hid | ⟨reason, hid⟩
  · exact hid
  · have hfind : find store ctx.runId = .error (.invalidRunId ctx.runId reason) := by
      rw [find_eq, read_of_invalid hid]
    simp [save, SnapshotStore.previous, hfind] at h

/-- A sound store takes a checkpoint of any run that can be read, as long as its token is not
cancelled. -/
theorem save_of_live (h : Sound store) (hlive : isCancelled store = false) {ctx : RunContext}
    {found : Option Snapshot} (hread : read store ctx.runId = .ok found)
    (conversation : Conversation) (now : Instant) :
    (save store ctx conversation now).1 = .ok () := by
  rw [save, previous_of_read hread]
  exact (write_answer h _ now).trans
    (SnapshotStore.permission_eq_ok_iff.mpr ⟨check_of_read hread, hlive⟩)

end LawfulStore

namespace Engine

variable {σ : Type} [SnapshotStore σ]

/-- Whether the snapshot of a run is removed when the run has ended. -/
def Removes (w : Workflow) (reply : Reply) : Prop :=
  reply.status = .completed ∧ w.header.extensions.resumePolicy.enabled = false

instance (w : Workflow) (reply : Reply) : Decidable (Removes w reply) :=
  inferInstanceAs (Decidable (_ ∧ _))

/-- The store after the end of a run has been noted, before its snapshot is removed. -/
def marked (runId : String) (reply : Reply) (stop : Instant) (left : σ) : σ :=
  (markStatus left runId reply.status stop).2

theorem finish_of_kept {runId : String} {w : Workflow} {reply : Reply} {report : Report}
    {stop : Instant} {left : σ} (h : ¬ Removes w reply) :
    finish runId w reply report stop left =
      (reply.result.map (⟨runId, ·, report⟩), marked runId reply stop left) := by
  have hguard :
      (reply.status = .completed && !w.header.extensions.resumePolicy.enabled) = false := by
    by_contra hremoves
    apply h
    simpa [Removes] using hremoves
  simp [finish, hguard, marked]

theorem finish_of_removed {runId : String} {w : Workflow} {reply : Reply} {report : Report}
    {stop : Instant} {left gone : σ} {found : Bool} (h : Removes w reply)
    (hdelete : delete (marked runId reply stop left) runId = (.ok found, gone)) :
    finish runId w reply report stop left = (reply.result.map (⟨runId, ·, report⟩), gone) := by
  have hguard :
      (reply.status = .completed && !w.header.extensions.resumePolicy.enabled) = true := by
    simp [h.1, h.2]
  rw [marked] at hdelete
  simp only [finish, hguard, if_true, hdelete]

/-- The store on which a fresh run is executed. -/
def runStore (e : Engine) (validate : Workflow → RunContext → Report) (w : Workflow)
    (runId : String) (start : Instant) (store : σ) : σ :=
  (e.prepareRun validate w runId start store).2

/-- The store on which a run goes on. -/
def resumeStore (e : Engine) (runId : String) (w : Workflow) (text : String) (force : Bool)
    (start : Instant) (store : σ) : σ :=
  (e.prepareResume runId w text force start store).2

theorem evolves_runStore (e : Engine) (validate : Workflow → RunContext → Report) (w : Workflow)
    (runId : String) (start : Instant) (store : σ) :
    Evolves store (e.runStore validate w runId start store) := by
  unfold runStore prepareRun
  cases e.pass validate w runId start with
  | error err => exact .refl
  | ok admitted =>
    obtain ⟨ctx, report⟩ := admitted
    have hsave := Evolves.save store ctx [] start
    cases hs : save store ctx [] start with
    | mk answer store' =>
      rw [hs] at hsave
      cases answer <;> simpa only [hs] using hsave

theorem evolves_resumeStore (e : Engine) (runId : String) (w : Workflow) (text : String)
    (force : Bool) (start : Instant) (store : σ) :
    Evolves store (e.resumeStore runId w text force start store) := by
  unfold resumeStore prepareResume
  cases e.passAgain runId w text force store with
  | error err => exact .refl
  | ok admitted =>
    obtain ⟨⟨ctx, conversation⟩, report⟩ := admitted
    by_cases hhash : ctx.workflowHash = some w.contentHash
    · simpa only [if_pos hhash] using Evolves.refl
    · have hsave := Evolves.save store { ctx with workflowHash := some w.contentHash }
        conversation start
      cases hs : save store { ctx with workflowHash := some w.contentHash } conversation start with
      | mk answer store' =>
        rw [hs] at hsave
        cases answer <;> simpa only [if_neg hhash, hs] using hsave

/-- The ending that a run ought to have: its snapshot is missing, or it is the one that the
orchestrator has left, in the state that the reply calls for. -/
def Settled (runId : String) (stop : Instant) (execution : Reply × σ) (final : σ) : Prop :=
  read final runId = .ok none ∨ ∃ s, read execution.2 runId = .ok (some s) ∧
    read final runId = .ok (some (s.setStatus execution.1.status stop))

variable [Cancellable σ] [LawfulStore σ]

/-- What the engine makes of the store that the orchestrator of a run has left. The run's snapshot
is removed, or stands there in the state that the reply calls for, and nothing else is different. -/
structure Ending (runId : String) (w : Workflow) (report : Report) (stop : Instant)
    (execution : Reply × σ) (attempt : Except Error Outcome × σ) : Prop where
  answer : attempt.1 = execution.1.result.map (⟨runId, ·, report⟩)
  status : EndsAs execution.1 execution.1.status
  others : ∀ id, id ≠ runId → read attempt.2 id = read execution.2 id
  unlisted : ∃ names, available attempt.2 = .ok names ∧ runId ∉ names
  missing_iff : read attempt.2 runId = .ok none ↔
    Removes w execution.1 ∨ read execution.2 runId = .ok none
  keeps : ¬ Removes w execution.1 → ∀ s, read execution.2 runId = .ok (some s) →
    Keeps attempt.2 (s.setStatus execution.1.status stop)
  unreadable : ¬ Removes w execution.1 → ∀ e, read execution.2 runId = .error e →
    attempt.2 = execution.2
  state : ∀ s, read attempt.2 runId = .ok (some s) → s.status = execution.1.status
  settled_iff : Settled runId stop execution attempt.2 ↔
    Removes w execution.1 ∨ read execution.2 runId = .ok none ∨
      ∃ s, read execution.2 runId = .ok (some s) ∧
        LawfulStore.Retains σ (s.setStatus execution.1.status stop)

section Marking

variable {left : σ} {runId : String} {reply : Reply} {stop : Instant}

theorem marked_of_missing (hread : read left runId = .ok none) :
    marked runId reply stop left = left := by
  have hfind := (LawfulStore.find_eq left runId).trans hread
  rw [marked, markStatus, SnapshotStore.update_of_none hfind]

theorem marked_of_unreadable {e : Error} (hread : read left runId = .error e) :
    marked runId reply stop left = left := by
  have hfind := (LawfulStore.find_eq left runId).trans hread
  rw [marked, markStatus, SnapshotStore.update_of_error hfind]

theorem setStatus_runId (h : Sound left) {s : Snapshot} (hread : read left runId = .ok (some s))
    (status : RunStatus) (now : Instant) : (s.setStatus status now).runId = runId := by
  change s.runId = runId
  exact LawfulStore.runId_of_read h hread

variable (h : Sound left) (hlive : isCancelled left = false)

include h hlive

theorem marked_of_found {s : Snapshot} (hread : read left runId = .ok (some s)) :
    Keeps (marked runId reply stop left) (s.setStatus reply.status stop) ∧
      ∀ id, id ≠ runId → read (marked runId reply stop left) id = read left id := by
  have hfind := (LawfulStore.find_eq left runId).trans hread
  have hown := setStatus_runId h hread reply.status stop
  have hid : RunId.check (s.setStatus reply.status stop).runId = .ok () :=
    hown ▸ LawfulStore.check_of_read hread
  obtain ⟨store', hwrite, hkeeps⟩ := LawfulStore.write_of_live h hid hlive stop
  have hmarked : marked runId reply stop left = store' := by
    rw [marked, markStatus, SnapshotStore.update_of_some hfind, hwrite]
    rfl
  rw [hmarked]
  refine ⟨hkeeps, ?_⟩
  intro id hne
  exact LawfulStore.read_of_write_ok hwrite (hown.symm ▸ hne)

theorem read_marked_of_ne {id : String} (hne : id ≠ runId) :
    read (marked runId reply stop left) id = read left id := by
  cases hread : read left runId with
  | error e => rw [marked_of_unreadable hread]
  | ok found =>
    cases found with
    | none => rw [marked_of_missing hread]
    | some s => exact (marked_of_found h hlive hread).2 id hne

theorem found_of_marked {s : Snapshot} (hread : read left runId = .ok (some s))
    {found : Option Snapshot} (hfound : read (marked runId reply stop left) runId = .ok found) :
    ∃ other, found = some other ∧ other.status = reply.status := by
  have hkeeps : Keeps (marked runId reply stop left) (s.setStatus reply.status stop) :=
    (marked_of_found h hlive hread).1
  exact LawfulStore.status_of_keeps_of_runId hkeeps (setStatus_runId h hread _ _) hfound

/-- A run that has ended is left with a snapshot in the state that the reply calls for, if with
one at all. -/
theorem status_of_marked {s : Snapshot}
    (hread : read (marked runId reply stop left) runId = .ok (some s)) :
    s.status = reply.status := by
  cases hleft : read left runId with
  | error e =>
    rw [marked_of_unreadable hleft, hleft] at hread
    simp at hread
  | ok found =>
    cases found with
    | none =>
      rw [marked_of_missing hleft, hleft] at hread
      simp at hread
    | some earlier =>
      obtain ⟨other, heq, hstatus⟩ := found_of_marked h hlive hleft hread
      obtain rfl := Option.some.inj heq
      exact hstatus

theorem missing_marked_iff :
    read (marked runId reply stop left) runId = .ok none ↔ read left runId = .ok none := by
  constructor
  · intro hgone
    cases hleft : read left runId with
    | error e =>
      rw [marked_of_unreadable hleft, hleft] at hgone
      simp at hgone
    | ok found =>
      cases found with
      | none => rfl
      | some s =>
        obtain ⟨other, heq, -⟩ := found_of_marked h hlive hleft hgone
        simp at heq
  · intro hleft
    rw [marked_of_missing hleft, hleft]

end Marking

section Ending

variable {left : σ} {runId : String}

/-- A run is not offered for resuming where no snapshot says that it is in progress. -/
theorem unlisted_of_status (h : Sound left)
    (hstatus : ∀ s, read left runId = .ok (some s) → s.status ≠ .inProgress) :
    ∃ names, available left = .ok names ∧ runId ∉ names := by
  obtain ⟨names, havailable, hnames⟩ := LawfulStore.available_ok h
  refine ⟨names, havailable, ?_⟩
  intro hmem
  obtain ⟨s, hread, hprogress⟩ := hnames runId hmem
  exact hstatus s hread hprogress

variable (h : Sound left) (hlive : isCancelled left = false) (hid : RunId.check runId = .ok ())

include h hlive

theorem settled_marked_iff (reply : Reply) (stop : Instant) :
    Settled runId stop (reply, left) (marked runId reply stop left) ↔
      read left runId = .ok none ∨
        ∃ s, read left runId = .ok (some s) ∧
          LawfulStore.Retains σ (s.setStatus reply.status stop) := by
  rw [Settled, missing_marked_iff h hlive]
  constructor
  · rintro (hgone | ⟨s, hread, hsettled⟩)
    · exact Or.inl hgone
    · have hkeeps : Keeps (marked runId reply stop left) (s.setStatus reply.status stop) :=
        (marked_of_found h hlive hread).1
      exact Or.inr ⟨s, hread, (LawfulStore.read_of_keeps_of_runId hkeeps
        (setStatus_runId h hread _ _)).mp hsettled⟩
  · rintro (hgone | ⟨s, hread, hretains⟩)
    · exact Or.inl hgone
    · have hkeeps : Keeps (marked runId reply stop left) (s.setStatus reply.status stop) :=
        (marked_of_found h hlive hread).1
      exact Or.inr ⟨s, hread, (LawfulStore.read_of_keeps_of_runId hkeeps
        (setStatus_runId h hread _ _)).mpr hretains⟩

theorem finish_ending_of_kept {w : Workflow} {reply : Reply} (hkept : ¬ Removes w reply)
    (report : Report) (stop : Instant) :
    Ending runId w report stop (reply, left) (finish runId w reply report stop left) := by
  rw [finish_of_kept hkept]
  have hstate : ∀ s, read (marked runId reply stop left) runId = .ok (some s) →
      s.status = reply.status := fun s hread => status_of_marked h hlive hread
  have hsound : Sound (marked runId reply stop left) :=
    (Evolves.markStatus left runId reply.status stop).sound h
  refine ⟨rfl, reply.endsAs, ?_, ?_, ?_, ?_, ?_, hstate, ?_⟩
  · intro id hne
    exact read_marked_of_ne h hlive hne
  · apply unlisted_of_status hsound
    intro s hread
    rw [hstate s hread]
    exact reply.status_ne_inProgress
  · rw [missing_marked_iff h hlive, or_iff_right hkept]
  · intro _ s hread
    exact (marked_of_found h hlive hread).1
  · intro _ e hread
    exact marked_of_unreadable hread
  · rw [settled_marked_iff h hlive, or_iff_right hkept]

include hid

theorem finish_ending_of_removed {w : Workflow} {reply : Reply} (hremoves : Removes w reply)
    (report : Report) (stop : Instant) :
    Ending runId w report stop (reply, left) (finish runId w reply report stop left) := by
  have hsound : Sound (marked runId reply stop left) :=
    (Evolves.markStatus left runId reply.status stop).sound h
  obtain ⟨found, gone, hdelete, -, hgone, hothers⟩ := LawfulStore.delete_ok hsound hid
  have hnone : ∀ s, read gone runId ≠ .ok (some s) := by
    intro s hread
    rw [hgone] at hread
    simp at hread
  have hsound' : Sound gone := by
    have hevolves := (Evolves.delete (marked runId reply stop left) runId).sound hsound
    rwa [hdelete] at hevolves
  rw [finish_of_removed hremoves hdelete]
  refine ⟨rfl, reply.endsAs, ?_, ?_, ?_, ?_, ?_, ?_, ?_⟩
  · intro id hne
    exact (hothers id hne).trans (read_marked_of_ne h hlive hne)
  · exact unlisted_of_status hsound' fun s hread => absurd hread (hnone s)
  · exact ⟨fun _ => Or.inl hremoves, fun _ => hgone⟩
  · exact fun hkept => absurd hremoves hkept
  · exact fun hkept => absurd hremoves hkept
  · exact fun s hread => absurd hread (hnone s)
  · exact ⟨fun _ => Or.inl hremoves, fun _ => Or.inl hgone⟩

theorem finish_ending (w : Workflow) (reply : Reply) (report : Report) (stop : Instant) :
    Ending runId w report stop (reply, left) (finish runId w reply report stop left) := by
  by_cases hremoves : Removes w reply
  · exact finish_ending_of_removed h hlive hid hremoves report stop
  · exact finish_ending_of_kept h hlive hremoves report stop

end Ending

section Attempts

variable {e : Engine} {o : Orchestrator σ} {w : Workflow} {runId text : String} {force : Bool}
  {start : Instant} {store : σ}

theorem run_ending (h : Sound store) (hlive : isCancelled store = false) (ho : o.Operates)
    (hadmitted : RunAdmitted e o.validate w runId start store) (stop : Instant) :
    Ending runId w (e.validator.validate w) stop
      (o.execute w (.ofWorkflow runId w start) (e.runStore o.validate w runId start store))
      (e.run o w runId start stop store) := by
  have hid : RunId.check runId = .ok () := LawfulStore.check_of_save hadmitted.saved
  rcases prepareRun_cases e o.validate w runId start store with
    ⟨handed, -, -, hprepare⟩ | ⟨err, left, hrefused, -, -⟩
  · have hhanded : e.runStore o.validate w runId start store = handed := by
      rw [runStore, hprepare]
    have hevolves := (evolves_runStore e o.validate w runId start store).trans
      (ho.execute w (.ofWorkflow runId w start) _)
    have hrun : e.run o w runId start stop store =
        finish runId w (o.execute w (.ofWorkflow runId w start) handed).1
          (e.validator.validate w) stop (o.execute w (.ofWorkflow runId w start) handed).2 := by
      simp only [run, hprepare]
    rw [hhanded] at hevolves ⊢
    rw [hrun]
    exact finish_ending (hevolves.sound h) (hevolves.isCancelled_eq.trans hlive) hid _ _ _ _
  · exact absurd hadmitted hrefused.not_admitted

theorem resume_ending (h : Sound store) (hlive : isCancelled store = false) (ho : o.Operates)
    (hadmitted : ResumeAdmitted e runId w text force start store) (stop : Instant) :
    Ending runId w (e.validator.validate w) stop
      (o.resume runId w (e.resumeStore runId w text force start store))
      (e.resume o runId w text force start stop store) := by
  rcases prepareResume_cases e runId w text force start store with
    ⟨handed, -, hprepare⟩ | ⟨err, left, hrefused, -, -⟩
  · have hhanded : e.resumeStore runId w text force start store = handed := by
      rw [resumeStore, hprepare]
    have hevolves := (evolves_resumeStore e runId w text force start store).trans
      (ho.resume runId w _)
    have hrun : e.resume o runId w text force start stop store =
        finish runId w (o.resume runId w handed).1 (e.validator.validate w) stop
          (o.resume runId w handed).2 := by
      simp only [resume, hprepare]
    rw [hhanded] at hevolves ⊢
    rw [hrun]
    exact finish_ending (hevolves.sound h) (hevolves.isCancelled_eq.trans hlive)
      hadmitted.wellFormed _ _ _ _
  · exact absurd hadmitted hrefused.not_admitted

end Attempts

/-- In memory every run ends settled. -/
theorem Ending.settled_in_memory {runId : String} {w : Workflow} {report : Report} {stop : Instant}
    {execution : Reply × MemoryStore} {attempt : Except Error Outcome × MemoryStore}
    (h : Ending runId w report stop execution attempt) (hid : RunId.check runId = .ok ()) :
    Settled runId stop execution attempt.2 := by
  refine h.settled_iff.mpr (Or.inr ?_)
  have hread := @MemoryStore.read_of_valid execution.2 runId hid
  cases hfound : execution.2.snapshots.find? runId with
  | none => exact Or.inl (hread.trans (congrArg Except.ok hfound))
  | some s => exact Or.inr ⟨s, hread.trans (congrArg Except.ok hfound), trivial⟩

section Drifting

variable {w : Workflow} {runId name : String}

theorem vars_of_number {x : Binary64} (hx : x.isFinite)
    (hvars : RunContext.initialVariables w.header.input = [(name, .float x)]) (start : Instant) :
    (Snapshot.capture (.ofWorkflow runId w start) [] none start).vars =
      [(name, .number (.float x))] := by
  change (RunContext.initialVariables w.header.input).mapValues Variable.toJson = _
  rw [hvars]
  exact congrArg (fun j => [(name, j)]) (Variable.toJson_float hx)

theorem timed_of_fresh (w : Workflow) (runId : String) {start : Instant} (h : start.ReadsBack) :
    (Snapshot.capture (.ofWorkflow runId w start) [] none start).Timed :=
  ⟨h, h, by simp [Snapshot.capture], by simp [Snapshot.capture, RunContext.ofWorkflow]⟩

theorem keeps_runStore {e : Engine} {validate : Workflow → RunContext → Report} {start : Instant}
    {store : FileStore} (hadmitted : RunAdmitted e validate w runId start store)
    (habsent : read store runId = .ok none) :
    Keeps (e.runStore validate w runId start store)
      (.capture (.ofWorkflow runId w start) [] none start) := by
  rcases prepareRun_cases e validate w runId start store with
    ⟨handed, -, hsave, hprepare⟩ | ⟨err, left, hrefused, -, -⟩
  · have hprevious : SnapshotStore.previous store (RunContext.ofWorkflow runId w start).runId =
        .ok none := LawfulStore.previous_of_read habsent
    rw [save, hprevious] at hsave
    rw [runStore, hprepare]
    exact LawfulStore.keeps_of_write hsave
  · exact absurd hadmitted hrefused.not_admitted

/-- In files a number that is read as another one is left as the other one when its run ends. -/
theorem Ending.drifts {report : Report} {stop : Instant} {execution : Reply × FileStore}
    {attempt : Except Error Outcome × FileStore} (h : Ending runId w report stop execution attempt)
    (hkept : ¬ Removes w execution.1) {s : Snapshot} (hown : s.runId = runId)
    (hleft : read execution.2 runId = .ok (some s)) (htimed : s.Timed) (hstop : stop.ReadsBack)
    (hversion : isNat32 s.formatVersion) {n m : Number} (hvars : s.vars = [(name, .number n)])
    (hread : Json.rewritten? n = some m) (hne : m ≠ n) :
    (∃ t, read attempt.2 runId = .ok (some t) ∧ t.vars = [(name, .number m)]) ∧
      ¬ Settled runId stop execution attempt.2 := by
  subst hown
  have hfinal : read attempt.2 s.runId = .ok (some
      { s.setStatus execution.1.status stop with vars := [(name, .number m)] }) :=
    FileStore.Keeps.read_of_number (h.keeps hkept s hleft) (htimed.setStatus _ hstop) hversion
      hvars hread
  refine ⟨⟨_, hfinal, rfl⟩, ?_⟩
  rintro (hgone | ⟨other, hother, hsettled⟩)
  · simp [hfinal] at hgone
  · obtain rfl := Option.some.inj (Except.ok.inj (hleft.symm.trans hother))
    have hsame := Option.some.inj (Except.ok.inj (hfinal.symm.trans hsettled))
    have hnumbers : [(name, Json.number m)] = [(name, .number n)] :=
      (congrArg Snapshot.vars hsame).trans hvars
    exact hne (by simpa using hnumbers)

end Drifting

/-- However a run is carried out that was admitted, by whatever work on a store that has come out
of a fresh one, it ends settled just where its snapshot can be had back, and is not offered for
resuming in any case. -/
theorem ended_runs_settle {fresh store : σ} (hfresh : Sound fresh)
    (hlive : isCancelled fresh = false) (hstore : Evolves fresh store) (e : Engine)
    (o : Orchestrator σ) (ho : o.Operates) (w : Workflow) (runId text : String) (force : Bool)
    (start stop : Instant) :
    (RunAdmitted e o.validate w runId start store →
      Ending runId w (e.validator.validate w) stop
        (o.execute w (.ofWorkflow runId w start) (e.runStore o.validate w runId start store))
        (e.run o w runId start stop store)) ∧
    (ResumeAdmitted e runId w text force start store →
      Ending runId w (e.validator.validate w) stop
        (o.resume runId w (e.resumeStore runId w text force start store))
        (e.resume o runId w text force start stop store)) := by
  have hsound : Sound store := hstore.sound hfresh
  have hlive' : isCancelled store = false := hstore.isCancelled_eq.trans hlive
  constructor
  · intro hadmitted
    exact run_ending hsound hlive' ho hadmitted stop
  · intro hadmitted
    exact resume_ending hsound hlive' ho hadmitted stop

/-- A workflow of one line. -/
def greeting : Workflow := ⟨.empty, none, none, ⟨"Hello", 1, [], 0, [], [], []⟩, ""⟩

theorem readsBack_of_greeting (runId : String) :
    (Snapshot.capture (.ofWorkflow runId greeting ⟨0, 0⟩) [] none ⟨0, 0⟩).ReadsBack :=
  Snapshot.readsBack_of_blank rfl rfl rfl rfl Instant.readsBack_zero Instant.readsBack_zero

theorem ended_runs_settle_of_greeting :
    let e : Engine := ⟨.standard, false⟩
    let o : Orchestrator FileStore := .mock none 7
    let w : Workflow := greeting
    let store : FileStore := (save ⟨"state", .absent, false⟩ (.ofWorkflow "r" w ⟨0, 0⟩) [] ⟨0, 0⟩).2
    Ending "r" w (e.validator.validate w) ⟨0, 0⟩
      (o.execute w (.ofWorkflow "r" w ⟨0, 0⟩) (e.runStore o.validate w "r" ⟨0, 0⟩ store))
      (e.run o w "r" ⟨0, 0⟩ ⟨0, 0⟩ store) ∧
    Ending "r" w (e.validator.validate w) ⟨0, 0⟩
      (o.resume "r" w (e.resumeStore "r" w "Bye" true ⟨0, 0⟩ store))
      (e.resume o "r" w "Bye" true ⟨0, 0⟩ ⟨0, 0⟩ store) := by
  intro e o w store
  let fresh : FileStore := ⟨"state", .absent, false⟩
  have hfresh : Sound fresh := FileStore.sound_of_empty "state" (Or.inl rfl)
  have hstore : Evolves fresh store := Evolves.save fresh _ _ _
  have ho : o.Operates := ⟨fun _ _ _ => .refl, fun _ _ _ => .refl⟩
  have hvalid : (Validator.standard.validate w).errors = [] := by decide +kernel
  have habsent : read fresh "r" = .ok none := FileStore.read_of_empty (Or.inl rfl) rfl
  have hread : read store "r" =
      .ok (some (.capture (.ofWorkflow "r" w ⟨0, 0⟩) [] none ⟨0, 0⟩)) := by
    apply Operation.read_save hfresh rfl habsent
    intro s hs
    rw [Operation.written?_save habsent] at hs
    obtain rfl := Option.some.inj hs
    exact readsBack_of_greeting "r"
  have hsaved : (save store (.ofWorkflow "r" w ⟨0, 0⟩) [] ⟨0, 0⟩).1 = .ok () :=
    LawfulStore.save_of_live (hstore.sound hfresh) hstore.isCancelled_eq hread [] ⟨0, 0⟩
  obtain ⟨hrun, hresume⟩ :=
    ended_runs_settle hfresh rfl hstore e o ho w "r" "Bye" true ⟨0, 0⟩ ⟨0, 0⟩
  exact ⟨hrun ⟨rfl, hvalid, hvalid, hsaved⟩,
    hresume ⟨rfl, hvalid, rfl, _, hread, Or.inl rfl, fun hother => absurd rfl hother⟩⟩

/-- A document whose runs begin with a small number. -/
def tinyDocument : String := "---\nname: a\ninput:\n  default:\n    x: 1e-30\n---\nbody\n"

/-- The document is valid and keeps its snapshots, and its runs begin with just the number. -/
def beginsWith (x : Binary64) (text : String) : Bool :=
  match Workflow.read text none with
  | .ok w =>
      (Validator.standard.validate w).errors.isEmpty && w.header.extensions.resumePolicy.enabled &&
        match RunContext.initialVariables w.header.input with
        | [("x", .float y)] => decide (y = x)
        | _ => false
  | .error _ => false

theorem exists_of_beginsWith {x : Binary64} {text : String} (h : beginsWith x text = true) :
    ∃ w, Workflow.read text none = .ok w ∧
      (Validator.standard.validate w).errors = [] ∧
      w.header.extensions.resumePolicy.enabled = true ∧
      RunContext.initialVariables w.header.input = [("x", .float x)] := by
  unfold beginsWith at h
  split at h
  · next w hread =>
    simp only [Bool.and_eq_true, List.isEmpty_iff] at h
    obtain ⟨⟨hvalid, henabled⟩, hvars⟩ := h
    split at hvars
    · next y hy =>
      obtain rfl := of_decide_eq_true hvars
      exact ⟨w, hread, hvalid, henabled, hy⟩
    · cases hvars
  · cases h

/-- In files the ending of a run may change a variable that the orchestrator has left alone. -/
theorem ending_drifts :
    let e : Engine := ⟨.standard, false⟩
    let o : Orchestrator FileStore := .mock none 7
    let fresh : FileStore := ⟨"state", .absent, false⟩
    ∃ w, Workflow.read tinyDocument none = .ok w ∧
      RunAdmitted e o.validate w "r" ⟨0, 0⟩ fresh ∧
      let execution := o.execute w (.ofWorkflow "r" w ⟨0, 0⟩)
        (e.runStore o.validate w "r" ⟨0, 0⟩ fresh)
      let final := (e.run o w "r" ⟨0, 0⟩ ⟨0, 0⟩ fresh).2
      (∃ s, read execution.2 "r" = .ok (some s) ∧ s.vars = [("x", .number (.float .lower))]) ∧
      (∃ s, read final "r" = .ok (some s) ∧ s.vars = [("x", .number (.float .upper))]) ∧
      ¬ Settled "r" ⟨0, 0⟩ execution final := by
  intro e o fresh
  have htiny : beginsWith .upper tinyDocument = true := by decide +kernel
  obtain ⟨w, hw, hvalid, henabled, hvars⟩ := exists_of_beginsWith htiny
  have hfresh : Sound fresh := FileStore.sound_of_empty "state" (Or.inl rfl)
  have ho : o.Operates := ⟨fun _ _ _ => .refl, fun _ _ _ => .refl⟩
  have habsent : read fresh "r" = .ok none := FileStore.read_of_empty (Or.inl rfl) rfl
  have hsaved : (save fresh (.ofWorkflow "r" w ⟨0, 0⟩) [] ⟨0, 0⟩).1 = .ok () :=
    LawfulStore.save_of_live hfresh rfl habsent [] ⟨0, 0⟩
  have hadmitted : RunAdmitted e o.validate w "r" ⟨0, 0⟩ fresh := ⟨rfl, hvalid, hvalid, hsaved⟩
  have hversion : isNat32 Snapshot.currentFormat = true := by decide
  have htimed := timed_of_fresh w "r" Instant.readsBack_zero
  have hleft := FileStore.Keeps.read_of_number (keeps_runStore hadmitted habsent) htimed hversion
    (vars_of_number (by decide) hvars ⟨0, 0⟩) Json.rewritten_upper
  have hkept : ¬ Removes w (o.execute w (.ofWorkflow "r" w ⟨0, 0⟩)
      (e.runStore o.validate w "r" ⟨0, 0⟩ fresh)).1 :=
    fun hremoves => Bool.noConfusion (henabled.symm.trans hremoves.2)
  obtain ⟨hfinal, hsettled⟩ := (run_ending hfresh rfl ho hadmitted ⟨0, 0⟩).drifts hkept rfl hleft
    (htimed.withVars _) Instant.readsBack_zero hversion rfl Json.rewritten_lower (by decide)
  exact ⟨w, hw, hadmitted, ⟨_, hleft, rfl⟩, hfinal, hsettled⟩

end Engine

end Runbook
