import Mathlib.Data.List.Induction
import Runbook.Proofs.FileContract
import Runbook.Proofs.MemoryContract
import Runbook.Proofs.RunEffects

/-!
What a store holds of a run at the end of any number of calls. The snapshot goes back to the last
checkpoint, from which it has the path, the hash and the variables; the time of its start is that
of the first checkpoint since the run was last absent. The steps that were tracked after the last
checkpoint stand behind its messages and its history, in the order of the calls.
-/

namespace Runbook

open SnapshotStore (read)
open LawfulStore (Sound Retains)

/-- A call that stores the state of a run. -/
structure Checkpoint where
  ctx : RunContext
  conversation : Conversation
  now : Instant

def Checkpoint.call (c : Checkpoint) : Call := ⟨.save c.ctx c.conversation, c.now, false⟩

namespace Call

/-- The step that a call adds to a run, with the message about it. -/
def tracked? (runId : String) (call : Call) : Option (Step × StoredMessage) :=
  match call.operation with
  | .complete id step =>
      if id = runId then
        some (step,
          ⟨"system", "Step '" ++ step.name ++ "' (" ++ step.type ++ ") completed", call.now⟩)
      else none
  | .fail id name error =>
      if id = runId then
        some (⟨name, "step", call.now, some call.now, false, some error⟩,
          ⟨"system", "Step '" ++ name ++ "' failed: " ++ error, call.now⟩)
      else none
  | _ => none

/-- The status that a call gives to a run. -/
def marked? (runId : String) (call : Call) : Option RunStatus :=
  match call.operation with
  | .mark id status => if id = runId then some status else none
  | _ => none

/-- The instant at which a call tracks a step of a run or marks it. -/
def touched? (runId : String) (call : Call) : Option Instant :=
  if (call.tracked? runId).isSome || (call.marked? runId).isSome then some call.now else none

def saves (runId : String) (call : Call) : Prop :=
  ∃ ctx conversation, call.operation = .save ctx conversation ∧ ctx.runId = runId

theorem eq_checkpoint {runId : String} {call : Call} (h : call.saves runId)
    (hlive : call.cancelled = false) : ∃ c : Checkpoint, c.ctx.runId = runId ∧ call = c.call := by
  obtain ⟨operation, now, cancelled⟩ := call
  obtain ⟨ctx, conversation, rfl, hid⟩ := h
  obtain rfl : cancelled = false := hlive
  exact ⟨⟨ctx, conversation, now⟩, hid, rfl⟩

theorem effect_checkpoint (c : Checkpoint) (found : Option Snapshot) :
    c.call.operation.effect c.ctx.runId c.now found =
      some (.capture c.ctx c.conversation found c.now) := if_pos rfl

theorem not_saves_effect_none {runId : String} {call : Call} (h : ¬ call.saves runId) :
    call.operation.effect runId call.now none = none := by
  obtain ⟨operation, now, cancelled⟩ := call
  cases operation with
  | save ctx conversation =>
    have hid : ctx.runId ≠ runId := fun heq => h ⟨ctx, conversation, rfl, heq⟩
    rw [Operation.effect, if_neg hid]
  | complete id step => simp [Operation.effect]
  | fail id name error => simp [Operation.effect]
  | mark id status => simp [Operation.effect]
  | delete id => simp [Operation.effect]
  | load id => rfl
  | compatible id text => rfl
  | prepare id text force => rfl
  | list => rfl
  | removeBefore cutoff => rfl

end Call

/-- The snapshot of a run, whose first and last checkpoints are given together with the calls
since the last one. -/
structure History (runId : String) (first last : Checkpoint) (since : List Call) (s : Snapshot) :
    Prop where
  run : s.runId = runId
  format : s.formatVersion = 1
  start : s.startedAt = first.ctx.startedAt
  path : s.filePath = last.ctx.workflowPath
  hash : s.contentHash = last.ctx.workflowHash
  vars : s.vars = last.ctx.vars.mapValues Variable.toJson
  messages : s.messages = last.conversation.map Message.toStored ++
    (since.filterMap (Call.tracked? runId)).map Prod.snd
  steps : s.history = last.ctx.history ++ (since.filterMap (Call.tracked? runId)).map Prod.fst
  current : s.currentStep =
    ((since.filterMap (Call.tracked? runId)).getLast?.map (·.1.name)).or last.ctx.currentStep
  status : s.status = (since.filterMap (Call.marked? runId)).getLast?.getD .inProgress
  checkpoint : s.lastCheckpoint = (since.filterMap (Call.touched? runId)).getLast?.getD last.now

namespace History

variable {runId : String} {first last : Checkpoint} {since : List Call} {s : Snapshot}

theorem capture_none (c : Checkpoint) :
    History c.ctx.runId c c [] (.capture c.ctx c.conversation none c.now) :=
  ⟨rfl, rfl, rfl, rfl, rfl, rfl, (List.append_nil _).symm, (List.append_nil _).symm, rfl, rfl, rfl⟩

/-- A new checkpoint starts over, but for the time of the start. -/
theorem capture_some {c : Checkpoint} (h : History c.ctx.runId first last since s) :
    History c.ctx.runId first c [] (.capture c.ctx c.conversation (some s) c.now) :=
  ⟨rfl, rfl, h.start, rfl, rfl, rfl, (List.append_nil _).symm, (List.append_nil _).symm, rfl, rfl,
    rfl⟩

theorem tracked (h : History runId first last since s) {call : Call} {step : Step} {line : String}
    (htracked : call.tracked? runId = some (step, ⟨"system", line, call.now⟩))
    (hmarked : call.marked? runId = none) :
    History runId first last (since ++ [call]) (s.addStep step line call.now) := by
  have htouched : call.touched? runId = some call.now := by simp [Call.touched?, htracked]
  refine ⟨h.run, h.format, h.start, h.path, h.hash, h.vars, ?_, ?_, ?_, ?_, ?_⟩
  · simp [Snapshot.addStep, h.messages, List.filterMap_append, htracked, Role.name]
  · simp [Snapshot.addStep, h.steps, List.filterMap_append, htracked]
  · simp [Snapshot.addStep, List.filterMap_append, htracked]
  · simp [Snapshot.addStep, h.status, List.filterMap_append, hmarked]
  · simp [Snapshot.addStep, List.filterMap_append, htouched]

theorem marked (h : History runId first last since s) {call : Call} {status : RunStatus}
    (htracked : call.tracked? runId = none) (hmarked : call.marked? runId = some status) :
    History runId first last (since ++ [call]) (s.setStatus status call.now) := by
  have htouched : call.touched? runId = some call.now := by simp [Call.touched?, hmarked]
  refine ⟨h.run, h.format, h.start, h.path, h.hash, h.vars, ?_, ?_, ?_, ?_, ?_⟩
  · simp [Snapshot.setStatus, h.messages, List.filterMap_append, htracked]
  · simp [Snapshot.setStatus, h.steps, List.filterMap_append, htracked]
  · simp [Snapshot.setStatus, h.current, List.filterMap_append, htracked]
  · simp [Snapshot.setStatus, List.filterMap_append, hmarked]
  · simp [Snapshot.setStatus, List.filterMap_append, htouched]

theorem untouched (h : History runId first last since s) {call : Call}
    (htracked : call.tracked? runId = none) (hmarked : call.marked? runId = none) :
    History runId first last (since ++ [call]) s := by
  have htouched : call.touched? runId = none := by simp [Call.touched?, htracked, hmarked]
  have happend : ∀ {β : Type} (f : Call → Option β), f call = none →
      (since ++ [call]).filterMap f = since.filterMap f := by
    intro β f hf
    simp [List.filterMap_append, hf]
  refine ⟨h.run, h.format, h.start, h.path, h.hash, h.vars, ?_, ?_, ?_, ?_, ?_⟩
  · rw [happend _ htracked, h.messages]
  · rw [happend _ htracked, h.steps]
  · rw [happend _ htracked, h.current]
  · rw [happend _ hmarked, h.status]
  · rw [happend _ htouched, h.checkpoint]

/-- The history goes on with any call that is no checkpoint of the run and leaves a snapshot. -/
theorem effect (h : History runId first last since s) {call : Call} {s' : Snapshot}
    (hsave : ¬ call.saves runId)
    (heffect : call.operation.effect runId call.now (some s) = some s') :
    History runId first last (since ++ [call]) s' := by
  obtain ⟨operation, now, cancelled⟩ := call
  cases operation with
  | save ctx conversation =>
    have hid : ctx.runId ≠ runId := fun heq => hsave ⟨ctx, conversation, rfl, heq⟩
    rw [Operation.effect, if_neg hid] at heffect
    obtain rfl := Option.some.inj heffect
    exact h.untouched rfl rfl
  | complete id step =>
    by_cases hid : id = runId
    · rw [Operation.effect, if_pos hid] at heffect
      obtain rfl := Option.some.inj heffect
      exact h.tracked (by simp [Call.tracked?, hid]) rfl
    · rw [Operation.effect, if_neg hid] at heffect
      obtain rfl := Option.some.inj heffect
      exact h.untouched (by simp [Call.tracked?, hid]) rfl
  | fail id name error =>
    by_cases hid : id = runId
    · rw [Operation.effect, if_pos hid] at heffect
      obtain rfl := Option.some.inj heffect
      exact h.tracked (by simp [Call.tracked?, hid, Step.failed]) rfl
    · rw [Operation.effect, if_neg hid] at heffect
      obtain rfl := Option.some.inj heffect
      exact h.untouched (by simp [Call.tracked?, hid]) rfl
  | mark id status =>
    by_cases hid : id = runId
    · rw [Operation.effect, if_pos hid] at heffect
      obtain rfl := Option.some.inj heffect
      exact h.marked rfl (by simp [Call.marked?, hid])
    · rw [Operation.effect, if_neg hid] at heffect
      obtain rfl := Option.some.inj heffect
      exact h.untouched rfl (by simp [Call.marked?, hid])
  | delete id =>
    by_cases hid : id = runId
    · rw [Operation.effect, if_pos hid] at heffect
      simp at heffect
    · rw [Operation.effect, if_neg hid] at heffect
      obtain rfl := Option.some.inj heffect
      exact h.untouched rfl rfl
  | load id => exact (Option.some.inj heffect) ▸ h.untouched rfl rfl
  | compatible id text => exact (Option.some.inj heffect) ▸ h.untouched rfl rfl
  | prepare id text force => exact (Option.some.inj heffect) ▸ h.untouched rfl rfl
  | list => exact (Option.some.inj heffect) ▸ h.untouched rfl rfl
  | removeBefore cutoff => exact (Option.some.inj heffect) ▸ h.untouched rfl rfl

end History

section

variable {σ : Type} [SnapshotStore σ] [Cancellable σ]

/-- The calls `before` leave no snapshot of a run; the first call after them is a checkpoint of
the run, which has a snapshot from then on, and the last checkpoint stands between `lead` and
`since`. -/
structure Life (start : σ) (runId : String) (before lead since : List Call)
    (first last : Checkpoint) : Prop where
  absent : read (Call.runAll start before) runId = .ok none
  begins : (lead ++ [last.call]).head? = some first.call
  first_run : first.ctx.runId = runId
  last_run : last.ctx.runId = runId
  no_later : ∀ call ∈ since, ¬ call.saves runId
  present : ∀ part, part ≠ [] → part <+: lead ++ last.call :: since →
    ∃ s, read (Call.runAll start (before ++ part)) runId = .ok (some s)

namespace Life

variable {start : σ} {runId : String} {before lead since : List Call} {first last : Checkpoint}

theorem of_absent {calls : List Call} {c : Checkpoint} {s : Snapshot}
    (habsent : read (Call.runAll start calls) c.ctx.runId = .ok none)
    (hpresent : read (Call.runAll start (calls ++ [c.call])) c.ctx.runId = .ok (some s)) :
    Life start c.ctx.runId calls [] [] c c := by
  refine ⟨habsent, rfl, rfl, rfl, fun call hcall => absurd hcall List.not_mem_nil, ?_⟩
  intro part hne hprefix
  obtain rfl : part = [c.call] := by
    rcases List.prefix_concat_iff.mp (show part <+: [] ++ [c.call] from hprefix) with heq | hnil
    · exact heq
    · exact absurd (List.prefix_nil.mp hnil) hne
  exact ⟨s, hpresent⟩

/-- The run's life goes on with a call that leaves a snapshot of it. -/
theorem present_concat (h : Life start runId before lead since first last) {call : Call}
    {s : Snapshot} (hpresent :
      read (Call.runAll start (before ++ (lead ++ last.call :: since) ++ [call])) runId =
        .ok (some s)) :
    ∀ part, part ≠ [] → part <+: lead ++ last.call :: since ++ [call] →
      ∃ s, read (Call.runAll start (before ++ part)) runId = .ok (some s) := by
  intro part hne hprefix
  rcases List.prefix_concat_iff.mp hprefix with rfl | hshorter
  · exact ⟨s, by rw [← List.append_assoc, hpresent]⟩
  · exact h.present part hne hshorter

theorem save (h : Life start runId before lead since first last) {c : Checkpoint} {s : Snapshot}
    (hrun : c.ctx.runId = runId) (hpresent :
      read (Call.runAll start (before ++ (lead ++ last.call :: since) ++ [c.call])) runId =
        .ok (some s)) :
    Life start runId before (lead ++ last.call :: since) [] first c := by
  refine ⟨h.absent, ?_, h.first_run, hrun, fun call hcall => absurd hcall List.not_mem_nil,
    h.present_concat hpresent⟩
  have hbegins := h.begins
  cases lead with
  | nil => simpa using hbegins
  | cons call rest => simpa using hbegins

theorem concat (h : Life start runId before lead since first last) {call : Call} {s : Snapshot}
    (hsave : ¬ call.saves runId) (hpresent :
      read (Call.runAll start (before ++ (lead ++ last.call :: since) ++ [call])) runId =
        .ok (some s)) :
    Life start runId before lead (since ++ [call]) first last := by
  refine ⟨h.absent, h.begins, h.first_run, h.last_run, ?_, ?_⟩
  · intro other hother
    rcases List.mem_append.mp hother with hearlier | hlast
    · exact h.no_later other hearlier
    · rw [List.mem_singleton.mp hlast]
      exact hsave
  · intro part hne hprefix
    apply h.present_concat hpresent part hne
    simpa only [List.append_assoc, List.cons_append] using hprefix

end Life

/-- The snapshot is what the calls since the run was last absent have made of it. -/
def Accounted (start : σ) (runId : String) (calls : List Call) (s : Snapshot) : Prop :=
  ∃ before lead since first last, calls = before ++ (lead ++ Checkpoint.call last :: since) ∧
    Life start runId before lead since first last ∧ History runId first last since s

/-- The run has no snapshot at the end of the calls, or one that they account for. -/
def Recorded (start : σ) (runId : String) (calls : List Call) : Prop :=
  read (Call.runAll start calls) runId = .ok none ∨
    ∃ s, read (Call.runAll start calls) runId = .ok (some s) ∧ Accounted start runId calls s

theorem Recorded.accounted {start : σ} {runId : String} {calls : List Call}
    (h : Recorded start runId calls) {s : Snapshot}
    (hread : read (Call.runAll start calls) runId = .ok (some s)) :
    Accounted start runId calls s := by
  rcases h with habsent | ⟨found, hfound, haccounted⟩
  · rw [habsent] at hread
    simp at hread
  · rw [hfound] at hread
    obtain rfl := Option.some.inj (Except.ok.inj hread)
    exact haccounted

variable [LawfulStore σ]

theorem recorded_concat {start : σ} (h : Sound start) {runId : String} {calls : List Call}
    (hrecorded : Recorded start runId calls) {call : Call} (hlive : call.cancelled = false)
    (hs : ∀ s, call.written? (Call.runAll start calls) = some s → Retains σ s) :
    Recorded start runId (calls ++ [call]) := by
  have hsound := Call.sound_runAll h calls
  rcases hrecorded with
    habsent | ⟨s, hread, before, lead, since, first, last, rfl, hlife, hhistory⟩
  · rcases Call.read_run hsound hlive habsent hs with hafter | ⟨-, hgone⟩
    · rw [← Call.runAll_concat] at hafter
      by_cases hsave : call.saves runId
      · obtain ⟨c, rfl, rfl⟩ := Call.eq_checkpoint hsave hlive
        have hpresent := hafter.trans (congrArg Except.ok (Call.effect_checkpoint c none))
        exact Or.inr ⟨_, hpresent, calls, [], [], c, c, rfl, Life.of_absent habsent hpresent,
          History.capture_none c⟩
      · refine Or.inl (hafter.trans ?_)
        rw [Call.not_saves_effect_none hsave]
    · exact Or.inl ((congrArg (read · runId) (Call.runAll_concat start calls call)).trans hgone)
  · rcases Call.read_run hsound hlive hread hs with hafter | ⟨-, hgone⟩
    · rw [← Call.runAll_concat] at hafter
      by_cases hsave : call.saves runId
      · obtain ⟨c, rfl, rfl⟩ := Call.eq_checkpoint hsave hlive
        have hpresent := hafter.trans (congrArg Except.ok (Call.effect_checkpoint c (some s)))
        exact Or.inr ⟨_, hpresent, before, lead ++ last.call :: since, [], first, c,
          List.append_assoc _ _ _, hlife.save rfl hpresent, History.capture_some hhistory⟩
      · cases heffect : call.operation.effect runId call.now (some s) with
        | none =>
          rw [heffect] at hafter
          exact Or.inl hafter
        | some s' =>
          rw [heffect] at hafter
          refine Or.inr ⟨s', hafter, before, lead, since ++ [call], first, last, ?_,
            hlife.concat hsave hafter, hhistory.effect hsave heffect⟩
          simp only [List.append_assoc, List.cons_append]
    · exact Or.inl ((congrArg (read · runId) (Call.runAll_concat start _ call)).trans hgone)

/-- The induction is on the calls, from the last one back to the first. -/
theorem recorded {start : σ} (h : Sound start) {runId : String}
    (hstart : read start runId = .ok none) (calls : List Call)
    (hlive : ∀ call ∈ calls, call.cancelled = false)
    (hs : ∀ s ∈ Call.writes start calls, Retains σ s) : Recorded start runId calls := by
  induction calls using List.reverseRecOn with
  | nil => exact Or.inl hstart
  | append_singleton calls call ih =>
    have hearlier : Recorded start runId calls := by
      apply ih
      · intro other hother
        exact hlive other (List.mem_append_left _ hother)
      · intro s hmem
        apply hs
        rw [Call.writes_append]
        exact List.mem_append_left _ hmem
    apply recorded_concat h hearlier (hlive call (List.mem_append_right _ List.mem_cons_self))
    intro s hwritten
    apply hs
    rw [Call.writes_append]
    simp [Call.writes, hwritten]

/-- What a first checkpoint and a mark write, and what is read after them. -/
theorem read_of_marked_checkpoint (start : σ) (c : Checkpoint) (status : RunStatus)
    (now : Instant) (h : Sound start) (habsent : read start c.ctx.runId = .ok none)
    (hfirst : Retains σ (.capture c.ctx c.conversation none c.now))
    (hlast : Retains σ (.setStatus (.capture c.ctx c.conversation none c.now) status now)) :
    Call.writes start [c.call, ⟨.mark c.ctx.runId status, now, false⟩] =
        [.capture c.ctx c.conversation none c.now,
          .setStatus (.capture c.ctx c.conversation none c.now) status now] ∧
      read (Call.runAll start [c.call, ⟨.mark c.ctx.runId status, now, false⟩]) c.ctx.runId =
        .ok (some (.setStatus (.capture c.ctx c.conversation none c.now) status now)) := by
  have hid := LawfulStore.check_of_read habsent
  have hlive : read (setCancelled false start) c.ctx.runId = .ok none :=
    (LawfulStore.read_set start false c.ctx.runId).trans habsent
  have hsaved : c.call.written? start = some (.capture c.ctx c.conversation none c.now) :=
    Operation.written?_save hlive c.conversation c.now
  have hread := Call.read_of_written h rfl hsaved hid hfirst
  have hmarked : Call.written? (c.call.run start).2 ⟨.mark c.ctx.runId status, now, false⟩ =
      some (.setStatus (.capture c.ctx c.conversation none c.now) status now) := by
    have hheld := Operation.held?_of_read ((LawfulStore.read_set _ false _).trans hread)
    exact congrArg (Option.map (Snapshot.setStatus · status now)) hheld
  refine ⟨?_, Call.read_of_written (Call.sound_run h c.call) rfl hmarked hid hlast⟩
  simp only [Call.writes, hsaved, hmarked, Option.toList_some, List.append_nil,
    List.singleton_append]

end

/-- Whatever a store that starts empty is asked to do, a snapshot that it holds in the end is the
one that the calls since its run was last absent account for. -/
theorem snapshot_history (calls : List Call) (hlive : ∀ call ∈ calls, call.cancelled = false)
    (runId : String) (s : Snapshot) :
    (read (Call.runAll MemoryStore.empty calls) runId = .ok (some s) →
      Accounted MemoryStore.empty runId calls s) ∧
    ∀ (dir : String) (site : Site), site = .absent ∨ site = .folder [] →
      (∀ s ∈ Call.writes (⟨dir, site, false⟩ : FileStore) calls, s.ReadsBack) →
      read (Call.runAll (⟨dir, site, false⟩ : FileStore) calls) runId = .ok (some s) →
      Accounted (⟨dir, site, false⟩ : FileStore) runId calls s := by
  constructor
  · intro hread
    have hid := LawfulStore.check_of_read hread
    exact (recorded MemoryStore.sound_empty (MemoryStore.read_of_valid hid) calls hlive
      fun _ _ => trivial).accounted hread
  · intro dir site hempty hback hread
    have hid := LawfulStore.check_of_read hread
    exact (recorded (FileStore.sound_of_empty dir hempty) (FileStore.read_of_empty hempty hid)
      calls hlive hback).accounted hread

theorem snapshot_history_of_failed_run :
    let calls := [Checkpoint.call ⟨.bare "r", [], ⟨0, 0⟩⟩, ⟨.mark "r" .failed, ⟨0, 0⟩, false⟩]
    let s : Snapshot := .setStatus (.capture (.bare "r") [] none ⟨0, 0⟩) .failed ⟨0, 0⟩
    Accounted MemoryStore.empty "r" calls s ∧
      Accounted (⟨"state", .absent, false⟩ : FileStore) "r" calls s := by
  intro calls s
  let c : Checkpoint := ⟨.bare "r", [], ⟨0, 0⟩⟩
  let start : FileStore := ⟨"state", .absent, false⟩
  have hlive : ∀ call ∈ calls, call.cancelled = false := by
    simp [calls, Checkpoint.call]
  have hid : RunId.check "r" = .ok () := rfl
  have hfirst := Snapshot.readsBack_of_bare "r" .inProgress
  have hlast : s.ReadsBack := Snapshot.readsBack_of_bare "r" .failed
  have hmemory := (read_of_marked_checkpoint MemoryStore.empty c .failed ⟨0, 0⟩
    MemoryStore.sound_empty (MemoryStore.read_of_valid hid) trivial trivial).2
  obtain ⟨hwrites, hfile⟩ : Call.writes start calls = [.capture (.bare "r") [] none ⟨0, 0⟩, s] ∧
      read (Call.runAll start calls) "r" = .ok (some s) :=
    read_of_marked_checkpoint start c .failed ⟨0, 0⟩ (FileStore.sound_of_empty "state" (Or.inl rfl))
      (FileStore.read_of_empty (Or.inl rfl) hid) hfirst hlast
  have hback : ∀ t ∈ Call.writes start calls, t.ReadsBack := by
    intro t ht
    rw [hwrites, List.mem_cons, List.mem_singleton] at ht
    rcases ht with rfl | rfl
    · exact hfirst
    · exact hlast
  exact ⟨(snapshot_history calls hlive "r" s).1 hmemory,
    (snapshot_history calls hlive "r" s).2 "state" .absent (Or.inl rfl) hback hfile⟩

end Runbook
