import Runbook.Proofs.SnapshotFolder

/-!
Writing a snapshot while things go wrong. Any step may report an error, or be where the machine
stops, and may have made anything of the temporary file by then. Whatever happens, the file of
the run has its old content or all of the new one, and no file of another name is touched.
-/

namespace Runbook

namespace Snapshot

/-- A change of a folder that concerns the temporary file of one run alone. -/
structure Scrap (runId : String) where
  apply : Folder → Folder
  find?_apply : ∀ entries name, name ≠ tempName runId →
    (apply entries).find? name = entries.find? name

def Scrap.none {runId : String} : Scrap runId := ⟨id, fun _ _ _ => rfl⟩

/-- What happens in place of a step, and what is left of it. -/
inductive Mishap (Left : Type)
  | fails (message : String) (left : Left)
  /-- The machine stops. -/
  | crashes (left : Left)

/-- All that goes wrong while the snapshot of a run is written. -/
structure Trouble (runId : String) where
  folder : Option (Mishap Unit)
  step : WriteStep → Option (Mishap (Scrap runId))
  /-- The machine stops after the last step. -/
  unheard : Bool

def Trouble.quiet {runId : String} : Trouble runId := ⟨none, fun _ => none, false⟩

/-- How a write ends: before its first step, at one of its steps, or after the last one. -/
inductive WriteEnd
  | refused (e : Error)
  | failed (step : WriteStep) (e : Error)
  | crashed
  | done

/-- What the writer is told. -/
def WriteEnd.answer? : WriteEnd → Option (Except Error Unit)
  | refused e => some (.error e)
  | failed _ e => some (.error e)
  | crashed => none
  | done => some (.ok ())

namespace WriteStep

/-- The check fails when the writing has been called off; the other steps touch the disk. -/
def errorOf (message : String) : WriteStep → Error
  | confirm => .cancelled
  | _ => .io message

/-- Goes through steps until a mishap or an error of its own ends one. -/
def runUnder {runId : String} (mishap : WriteStep → Option (Mishap (Scrap runId)))
    (text : String) (now : Instant) : List WriteStep → Folder → WriteEnd × Folder
  | [], entries => (.done, entries)
  | step :: rest, entries =>
      match mishap step with
      | some (.crashes left) => (.crashed, left.apply entries)
      | some (.fails message left) =>
          (.failed step (errorOf message step), undo runId (left.apply entries) step)
      | none =>
          match run runId text now entries step with
          | .error e => (.failed step e, undo runId entries step)
          | .ok entries => runUnder mishap text now rest entries

variable {runId text : String} {now : Instant}
  {mishap : WriteStep → Option (Mishap (Scrap runId))}

theorem run_error {entries : Folder} {step : WriteStep} {e : Error}
    (h : run runId text now entries step = .error e) : ∃ message, e = errorOf message step := by
  have hput : ∀ {entries : Folder} {name : String} {node : Node},
      putFile entries name node = .error e → ∃ message, e = .io message := by
    intro entries name node h
    unfold putFile at h
    split at h
    · exact ⟨_, (Except.error.inj h).symm⟩
    · simp at h
  cases step with
  | create => exact hput h
  | fill | sync | confirm => simp [run] at h
  | rename =>
    simp only [run] at h
    split at h
    · exact ⟨_, (Except.error.inj h).symm⟩
    · exact hput h

/-- How a write ends at a step that finds a folder so. -/
inductive EndsAt (runId : String) (step : WriteStep) (entries : Folder) : WriteEnd → Folder → Prop
  | crashed (left : Scrap runId) : EndsAt runId step entries .crashed (left.apply entries)
  | failed (message : String) (left : Scrap runId) :
      EndsAt runId step entries (.failed step (errorOf message step))
        (undo runId (left.apply entries) step)

/-- A write comes to its end, or all goes well up to some step and it ends there. -/
theorem runUnder_cases {steps : List WriteStep} {entries entries' : Folder} {outcome : WriteEnd}
    (h : runUnder mishap text now steps entries = (outcome, entries')) :
    outcome = .done ∧ runAll (fun _ => none) runId text now steps entries = (.ok (), entries') ∨
    ∃ before step after mid, steps = before ++ step :: after ∧
      runAll (fun _ => none) runId text now before entries = (.ok (), mid) ∧
      EndsAt runId step mid outcome entries' := by
  induction steps generalizing entries with
  | nil =>
    obtain ⟨rfl, rfl⟩ := Prod.mk.inj h
    exact .inl ⟨rfl, rfl⟩
  | cons step rest ih =>
    have hhere : ∀ {outcome entries'}, EndsAt runId step entries outcome entries' →
        ∃ before other after mid, step :: rest = before ++ other :: after ∧
          runAll (fun _ => none) runId text now before entries = (.ok (), mid) ∧
          EndsAt runId other mid outcome entries' :=
      fun hends => ⟨[], step, rest, entries, rfl, rfl, hends⟩
    simp only [runUnder] at h
    split at h
    · next left _ =>
      obtain ⟨rfl, rfl⟩ := Prod.mk.inj h
      exact .inr (hhere (.crashed left))
    · next message left _ =>
      obtain ⟨rfl, rfl⟩ := Prod.mk.inj h
      exact .inr (hhere (.failed message left))
    · split at h
      · next e hran =>
        obtain ⟨message, rfl⟩ := run_error hran
        obtain ⟨rfl, rfl⟩ := Prod.mk.inj h
        exact .inr (hhere (.failed message .none))
      · next mid hran =>
        rcases ih h with ⟨hdone, hrest⟩ | ⟨before, other, after, found, rfl, hbefore, hends⟩
        · exact .inl ⟨hdone, runAll_cons_eq_ok_iff.mpr ⟨rfl, mid, hran, hrest⟩⟩
        · exact .inr ⟨step :: before, other, after, found, rfl,
            runAll_cons_eq_ok_iff.mpr ⟨rfl, mid, hran, hbefore⟩, hends⟩

/-- Steps before the renaming touch nothing but the temporary file. -/
theorem find?_runAll_of_ok {steps : List WriteStep} (hsteps : ∀ step ∈ steps, step ≠ rename)
    {entries entries' : Folder}
    (h : runAll (fun _ => none) runId text now steps entries = (.ok (), entries'))
    {name : String} (hname : name ≠ tempName runId) :
    entries'.find? name = entries.find? name := by
  induction steps generalizing entries with
  | nil => rw [(Prod.mk.inj h).2]
  | cons step rest ih =>
    obtain ⟨-, mid, hran, hrest⟩ := runAll_cons_eq_ok_iff.mp h
    rw [ih (fun other hother => hsteps other (List.mem_cons_of_mem _ hother)) hrest,
      find?_run (hsteps step List.mem_cons_self) hran hname]

theorem find?_of_endsAt {step : WriteStep} {entries entries' : Folder} {outcome : WriteEnd}
    (h : EndsAt runId step entries outcome entries') {name : String}
    (hname : name ≠ tempName runId) : entries'.find? name = entries.find? name := by
  cases h with
  | crashed left => exact left.find?_apply entries name hname
  | failed message left => rw [find?_undo _ step hname, left.find?_apply entries name hname]

/-- Until the last step is done nothing but the temporary file has changed. -/
theorem find?_runUnder {steps : List WriteStep}
    (hlast : ∀ step ∈ steps.dropLast, step ≠ rename) {entries entries' : Folder}
    {outcome : WriteEnd} (h : runUnder mishap text now steps entries = (outcome, entries'))
    (hdone : outcome ≠ .done) {name : String} (hname : name ≠ tempName runId) :
    entries'.find? name = entries.find? name := by
  rcases runUnder_cases h with ⟨hend, -⟩ | ⟨before, step, after, mid, rfl, hbefore, hends⟩
  · exact absurd hend hdone
  · have hsteps : ∀ other ∈ before, other ≠ rename := by
      intro other hother
      apply hlast
      rw [List.dropLast_append_of_ne_nil (by simp)]
      exact List.mem_append_left _ hother
    rw [find?_of_endsAt hends hname, find?_runAll_of_ok hsteps hbefore hname]

theorem runAll_of_runUnder_done {steps : List WriteStep} {entries entries' : Folder}
    (h : runUnder mishap text now steps entries = (.done, entries')) :
    runAll (fun _ => none) runId text now steps entries = (.ok (), entries') := by
  rcases runUnder_cases h with ⟨-, hran⟩ | ⟨before, step, after, mid, -, -, hends⟩
  · exact hran
  · cases hends

/-- Only the check finds the writing called off; it and the renaming clean up when they fail. -/
theorem runUnder_failed {steps : List WriteStep} {entries entries' : Folder}
    {step : WriteStep} {e : Error}
    (h : runUnder mishap text now steps entries = (.failed step e, entries')) :
    (e = .cancelled → step = confirm) ∧
      (step = confirm ∨ step = rename → entries'.find? (tempName runId) = none) := by
  rcases runUnder_cases h with ⟨hend, -⟩ | ⟨before, other, after, mid, -, -, hends⟩
  · simp at hend
  · cases hends with
    | failed message left =>
      refine ⟨by cases step <;> simp [errorOf], ?_⟩
      rintro (rfl | rfl) <;> exact (Table.find?_erase _ _ _).trans (if_pos rfl)

theorem runUnder_ne_refused {steps : List WriteStep} {entries entries' : Folder} {e : Error} :
    runUnder mishap text now steps entries ≠ (.refused e, entries') := by
  intro h
  rcases runUnder_cases h with ⟨hend, -⟩ | ⟨before, step, after, mid, -, -, hends⟩
  · simp at hend
  · cases hends

/-- Without mishaps this is how the steps are gone through. -/
theorem runUnder_quiet (runId text : String) (now : Instant) (steps : List WriteStep)
    (entries : Folder) :
    ∃ outcome entries',
      runUnder (fun _ => (none : Option (Mishap (Scrap runId)))) text now steps entries =
        (outcome, entries') ∧
      ∃ answer, outcome.answer? = some answer ∧
        runAll (fun _ => none) runId text now steps entries = (answer, entries') := by
  induction steps generalizing entries with
  | nil => exact ⟨.done, entries, rfl, .ok (), rfl, rfl⟩
  | cons step rest ih =>
    cases hran : run runId text now entries step with
    | error e =>
      exact ⟨.failed step e, undo runId entries step, by simp only [runUnder, hran],
        .error e, rfl, by simp only [runAll, Option.elim, hran]⟩
    | ok mid => simpa only [runUnder, runAll, Option.elim, hran] using ih mid

end WriteStep

end Snapshot

namespace FileStore

open Snapshot

/-- What stands under a name in the folder of the store. -/
def nodeAt? (store : FileStore) (name : String) : Option Node :=
  match store.site with
  | .folder entries => entries.find? name
  | _ => none

theorem nodeAt?_of_entries {store : FileStore} {entries : Folder}
    (hsite : entriesToWrite store.site = .ok entries) (name : String) :
    store.nodeAt? name = entries.find? name := by
  cases hs : store.site with
  | absent =>
    rw [hs] at hsite
    obtain rfl := Except.ok.inj hsite
    simp [nodeAt?, hs]
  | blocked => simp [hs, entriesToWrite] at hsite
  | folder inner =>
    rw [hs] at hsite
    obtain rfl := Except.ok.inj hsite
    simp [nodeAt?, hs]

/-- Writes a snapshot while things go wrong. -/
def writeUnder (store : FileStore) (s : Snapshot) (trouble : Trouble s.runId) (now : Instant) :
    WriteEnd × FileStore :=
  match RunId.check s.runId with
  | .error e => (.refused e, store)
  | .ok () =>
      if store.cancelled then (.refused .cancelled, store)
      else match trouble.folder with
        | some (.crashes ()) => (.crashed, store)
        | some (.fails message ()) => (.refused (.io message), store)
        | none =>
            match entriesToWrite store.site with
            | .error e => (.refused e, store)
            | .ok entries =>
                let (outcome, entries) :=
                  WriteStep.runUnder trouble.step s.render now WriteStep.all entries
                (if trouble.unheard then .crashed else outcome,
                  { store with site := .folder entries })

variable {store : FileStore} {s : Snapshot} {trouble : Trouble s.runId} {now : Instant}

/-- A write leaves the store alone, or goes through the steps of writing. -/
theorem writeUnder_cases (store : FileStore) (s : Snapshot) (trouble : Trouble s.runId)
    (now : Instant) :
    (∃ e, store.writeUnder s trouble now = (.refused e, store) ∧
      (e = .cancelled → store.cancelled = true)) ∨
    (store.cancelled = false ∧ store.writeUnder s trouble now = (.crashed, store)) ∨
    ∃ entries outcome entries', store.cancelled = false ∧
      entriesToWrite store.site = .ok entries ∧
      WriteStep.runUnder trouble.step s.render now WriteStep.all entries = (outcome, entries') ∧
      store.writeUnder s trouble now =
        (if trouble.unheard then .crashed else outcome,
          { store with site := .folder entries' }) := by
  rcases RunId.check_ok_or_error s.runId with hid | ⟨reason, hid⟩
  case inr =>
    exact .inl ⟨.invalidRunId s.runId reason, by simp [writeUnder, hid], by simp⟩
  cases hc : store.cancelled with
  | true => exact .inl ⟨.cancelled, by simp [writeUnder, hid, hc], fun _ => rfl⟩
  | false =>
    cases hf : trouble.folder with
    | some mishap =>
      cases mishap with
      | crashes left => exact .inr (.inl ⟨rfl, by simp [writeUnder, hid, hc, hf]⟩)
      | fails message left =>
        exact .inl ⟨.io message, by simp [writeUnder, hid, hc, hf], by simp⟩
    | none =>
      cases hs : entriesToWrite store.site with
      | error e =>
        refine .inl ⟨e, by simp [writeUnder, hid, hc, hf, hs], ?_⟩
        rintro rfl
        cases hsite : store.site <;> simp [hsite, entriesToWrite, notAFolder] at hs
      | ok entries =>
        cases hrun : WriteStep.runUnder trouble.step s.render now WriteStep.all entries with
        | mk outcome entries' =>
          exact .inr (.inr ⟨entries, outcome, entries', rfl, rfl, hrun,
            by simp [writeUnder, hid, hc, hf, hs, hrun]⟩)

/-- What a write has done to the folder by the time it ends, and what its answer tells. -/
structure Atomic (store : FileStore) (s : Snapshot) (now : Instant) (outcome : WriteEnd)
    (store' : FileStore) : Prop where
  kept : store'.dir = store.dir ∧ store'.cancelled = store.cancelled
  others : ∀ name, name ≠ fileName s.runId → name ≠ tempName s.runId →
    store'.nodeAt? name = store.nodeAt? name
  whole : store'.nodeAt? (fileName s.runId) = store.nodeAt? (fileName s.runId) ∨
    store'.nodeAt? (fileName s.runId) = some (.file (some s.render) now)
  error : ∀ e, outcome.answer? = some (.error e) →
    store'.nodeAt? (fileName s.runId) = store.nodeAt? (fileName s.runId)
  done : outcome.answer? = some (.ok ()) →
    store'.nodeAt? (fileName s.runId) = some (.file (some s.render) now) ∧
      store'.nodeAt? (tempName s.runId) = none
  calledOff : store.cancelled = true → store' = store
  noticed : outcome.answer? = some (.error .cancelled) → store.cancelled = false →
    store'.nodeAt? (tempName s.runId) = none
  unnamed : ∀ e, outcome = .failed .rename e → store'.nodeAt? (tempName s.runId) = none

theorem Atomic.unchanged {outcome : WriteEnd}
    (h : outcome = .crashed ∨ ∃ e, outcome = .refused e ∧
      (e = .cancelled → store.cancelled = true)) : Atomic store s now outcome store where
  kept := ⟨rfl, rfl⟩
  others := fun _ _ _ => rfl
  whole := .inl rfl
  error := fun _ _ => rfl
  done := by
    rcases h with rfl | ⟨e, rfl, -⟩ <;> simp [WriteEnd.answer?]
  calledOff := fun _ => rfl
  noticed := by
    rcases h with rfl | ⟨e, rfl, he⟩
    · simp [WriteEnd.answer?]
    · intro htold hlive
      obtain rfl : e = .cancelled := by simpa [WriteEnd.answer?] using htold
      simp [he rfl] at hlive
  unnamed := by
    rcases h with rfl | ⟨e, rfl, -⟩ <;> simp

theorem atomic_of_runUnder {entries entries' : Folder} {outcome : WriteEnd}
    (hlive : store.cancelled = false) (hsite : entriesToWrite store.site = .ok entries)
    (hrun : WriteStep.runUnder trouble.step s.render now WriteStep.all entries =
      (outcome, entries')) :
    Atomic store s now outcome { store with site := .folder entries' } := by
  have hbefore : ∀ name, store.nodeAt? name = entries.find? name := nodeAt?_of_entries hsite
  have hne : fileName s.runId ≠ tempName s.runId := (tempName_ne_fileName s.runId s.runId).symm
  by_cases hdone : outcome = .done
  · subst hdone
    obtain ⟨-, -, -, rfl⟩ :=
      WriteStep.runAll_all_eq_ok_iff.mp (WriteStep.runAll_of_runUnder_done hrun)
    have hfile : Table.find? (fileName s.runId) (withSnapshot entries s now) =
        some (.file (some s.render) now) := find?_withSnapshot_self entries s now
    refine ⟨⟨rfl, rfl⟩, ?_, .inr hfile, by simp [WriteEnd.answer?], fun _ => ⟨hfile, ?_⟩,
      by simp [hlive], by simp [WriteEnd.answer?], by simp⟩
    · intro name hname htemp
      rw [hbefore]
      exact (Table.find?_insert ..).trans <|
        (if_neg hname).trans ((Table.find?_erase ..).trans (if_neg htemp))
    · exact (Table.find?_insert ..).trans <|
        (if_neg hne.symm).trans ((Table.find?_erase ..).trans (if_pos rfl))
  · have hframe : ∀ name, name ≠ tempName s.runId → entries'.find? name = store.nodeAt? name := by
      intro name hname
      rw [hbefore]
      exact WriteStep.find?_runUnder (by decide) hrun hdone hname
    refine ⟨⟨rfl, rfl⟩, fun name _ => hframe name, .inl (hframe _ hne), fun _ _ => hframe _ hne,
      ?_, by simp [hlive], ?_, ?_⟩
    · cases outcome with
      | done => exact absurd rfl hdone
      | refused e => simp [WriteEnd.answer?]
      | failed step e => simp [WriteEnd.answer?]
      | crashed => simp [WriteEnd.answer?]
    · intro htold _
      cases outcome with
      | done => exact absurd rfl hdone
      | refused e => exact absurd hrun WriteStep.runUnder_ne_refused
      | failed step e =>
        obtain rfl : e = .cancelled := by simpa [WriteEnd.answer?] using htold
        obtain ⟨hconfirm, hswept⟩ := WriteStep.runUnder_failed hrun
        exact hswept (.inl (hconfirm rfl))
      | crashed => simp [WriteEnd.answer?] at htold
    · rintro e rfl
      exact (WriteStep.runUnder_failed hrun).2 (.inr rfl)

/-- Nobody is told of a crash, so that less is promised of one. -/
theorem Atomic.of_crashed {outcome : WriteEnd} {store' : FileStore}
    (h : Atomic store s now outcome store') : Atomic store s now .crashed store' where
  kept := h.kept
  others := h.others
  whole := h.whole
  error := by simp [WriteEnd.answer?]
  done := by simp [WriteEnd.answer?]
  calledOff := h.calledOff
  noticed := by simp [WriteEnd.answer?]
  unnamed := by simp

theorem atomic_writeUnder (store : FileStore) (s : Snapshot) (trouble : Trouble s.runId)
    (now : Instant) :
    Atomic store s now (store.writeUnder s trouble now).1 (store.writeUnder s trouble now).2 := by
  rcases writeUnder_cases store s trouble now with
    ⟨e, hend, he⟩ | ⟨-, hend⟩ | ⟨entries, outcome, entries', hlive, hsite, hrun, hend⟩
  · rw [hend]
    exact .unchanged (.inr ⟨e, rfl, he⟩)
  · rw [hend]
    exact .unchanged (.inl rfl)
  · rw [hend]
    have hatomic := atomic_of_runUnder hlive hsite hrun
    cases trouble.unheard with
    | true => exact hatomic.of_crashed
    | false => exact hatomic

/-- A write that nothing happens to is the write of the store. -/
theorem writeUnder_quiet (store : FileStore) (s : Snapshot) (now : Instant) :
    ∃ outcome, store.writeUnder s .quiet now = (outcome, (store.write s now).2) ∧
      outcome.answer? = some (store.write s now).1 := by
  rcases RunId.check_ok_or_error s.runId with hid | ⟨reason, hid⟩
  case inr =>
    exact ⟨.refused (.invalidRunId s.runId reason), by simp [writeUnder, write, hid],
      by simp [write, hid, WriteEnd.answer?]⟩
  cases hc : store.cancelled with
  | true =>
    exact ⟨.refused .cancelled, by simp [writeUnder, write, hid, hc],
      by simp [write, hid, hc, WriteEnd.answer?]⟩
  | false =>
    cases hs : entriesToWrite store.site with
    | error e =>
      exact ⟨.refused e, by simp [writeUnder, write, hid, hc, hs, Trouble.quiet],
        by simp [write, hid, hc, hs, WriteEnd.answer?]⟩
    | ok entries =>
      have hstopping : store.stopping = fun _ => none := by
        funext step
        cases step <;> simp [stopping, hc]
      obtain ⟨outcome, entries', hrun, answer, htold, hall⟩ :=
        WriteStep.runUnder_quiet s.runId s.render now WriteStep.all entries
      rw [← hstopping] at hall
      have hwrite : store.write s now = (answer, { store with site := .folder entries' }) := by
        simp [write, hid, hc, hs, hall]
      refine ⟨outcome, ?_, by rw [hwrite, htold]⟩
      simp [writeUnder, hid, hc, hs, Trouble.quiet, hrun, hwrite]

/-- Writing is atomic, whatever goes wrong. -/
theorem write_atomic (store : FileStore) (s : Snapshot) (now : Instant) :
    (∃ outcome, store.writeUnder s .quiet now = (outcome, (store.write s now).2) ∧
      outcome.answer? = some (store.write s now).1) ∧
    ∀ trouble : Trouble s.runId,
      Atomic store s now (store.writeUnder s trouble now).1 (store.writeUnder s trouble now).2 :=
  ⟨writeUnder_quiet store s now, fun trouble => atomic_writeUnder store s trouble now⟩

/-- A store that has been called off, with what a crash once left of a write. -/
def littered : FileStore :=
  { dir := "state"
    site := .folder [(tempName "r", .file (some "") ⟨0, 0⟩)]
    cancelled := true }

/-- A write that is called off before it starts does not clean up after an earlier one. -/
theorem write_of_littered :
    RunId.check "r" = .ok () ∧
    (littered.write (.capture (.bare "r") [] none ⟨0, 0⟩) ⟨0, 0⟩).1 = .error .cancelled ∧
    (littered.write (.capture (.bare "r") [] none ⟨0, 0⟩) ⟨0, 0⟩).2.nodeAt? (tempName "r") =
      some (.file (some "") ⟨0, 0⟩) :=
  ⟨rfl, rfl, rfl⟩

end FileStore

end Runbook
