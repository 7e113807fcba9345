import Runbook.Proofs.Repinning

/-!
What an unforced resume asks of the document. It compares the hash of the text that it is given
with the hash in the snapshot, and goes on where they agree or the snapshot has none; it does not
look at the hash of the workflow, which is that of the text where one was read from the other.
-/

namespace Runbook.Engine

open SnapshotStore (read write)
open LawfulStore (Sound)

variable {σ : Type} [SnapshotStore σ] [Cancellable σ] [LawfulStore σ] {e : Engine} {w : Workflow}
  {runId text : String} {force : Bool} {start : Instant} {store : σ} {s : Snapshot}

theorem passAgain_of_unfit (hread : read store runId = .ok (some s))
    (hunfit : ¬ Fits s text force) :
    ∃ err, ResumeRefused e runId w text force start store err ∧
      e.passAgain runId w text force store = .error err := by
  obtain ⟨stored, hstored, hprepare⟩ :=
    prepareResume_of_unfit ((LawfulStore.find_eq store runId).trans hread) hunfit
  rcases check_cases e w with ⟨hdead, hcheck⟩ | ⟨hlive, hinvalid, hcheck⟩ | ⟨hlive, hvalid, hcheck⟩
  · exact ⟨_, .cancelled hdead, by simp [passAgain, hcheck, bind, Except.bind]⟩
  · exact ⟨_, .invalid hlive hinvalid, by simp [passAgain, hcheck, bind, Except.bind]⟩
  · exact ⟨_, .unfit hlive hvalid s hread hunfit stored hstored,
      by simp [passAgain, hcheck, hprepare, bind, Except.bind]⟩

/-- A run that does not fit the document is left exactly as it is. -/
theorem refuses_of_unfit (hread : read store runId = .ok (some s))
    (hunfit : ¬ Fits s text force) (stop : Instant) :
    ∃ err, ResumeRefused e runId w text force start store err ∧
      Refuses (fun o => e.resume o runId w text force start stop store) err store := by
  obtain ⟨err, hrefused, hpass⟩ := passAgain_of_unfit hread hunfit
  refine ⟨err, hrefused, ?_⟩
  intro o
  simp only [resume, prepareResume, hpass]

/-- A run that is of a text, or of one that is not known. -/
def ofText (hash : Option String) : Snapshot :=
  .capture { RunContext.bare "r" with workflowHash := hash } [] none ⟨0, 0⟩

theorem exists_holding (hash : Option String) : ∃ store : MemoryStore,
    Sound store ∧ isCancelled store = false ∧ read store "r" = .ok (some (ofText hash)) := by
  have hid : RunId.check (ofText hash).runId = .ok () := (by decide : RunId.check "r" = .ok ())
  have hfresh : Sound MemoryStore.empty := MemoryStore.sound_empty
  obtain ⟨store, hwrite, hkeeps⟩ := LawfulStore.write_of_live hfresh hid rfl ⟨0, 0⟩
  have hstore := Evolves.write MemoryStore.empty (ofText hash) ⟨0, 0⟩
  rw [hwrite] at hstore
  exact ⟨store, hstore.sound hfresh, hstore.isCancelled_eq, hkeeps⟩

/-- Where a text fits, the run goes on with whatever workflow comes with it, and is of that
workflow's text from then on. -/
theorem executes_in_memory {hash : Option String} {w : Workflow} (text : String)
    (hvalid : (Validator.standard.validate w).errors = [])
    (hfits : hash = none ∨ hash = some (contentHash text))
    (hother : hash ≠ some w.contentHash) :
    ∃ store handed : MemoryStore, read store "r" = .ok (some (ofText hash)) ∧
      Executes
        (fun o => resume ⟨.standard, false⟩ o "r" w text false ⟨0, 0⟩ ⟨0, 0⟩ store)
        (fun o => o.resume "r" w) "r" w (Validator.standard.validate w) ⟨0, 0⟩ handed ∧
      read handed "r" = .ok (some ((ofText hash).repinned w.contentHash ⟨0, 0⟩)) := by
  obtain ⟨store, hsound, hopen, hread⟩ := exists_holding hash
  have hadmitted : ResumeAdmitted ⟨.standard, false⟩ "r" w text false ⟨0, 0⟩ store :=
    admitted_of_read hsound hopen rfl hvalid hread (.inr hfits)
  rcases prepareResume_of_admitted hadmitted hread rfl with
    ⟨hsame, -⟩ | ⟨-, handed, hwrite, hprepare⟩
  · exact absurd hsame hother
  · exact ⟨store, handed, hread, executes_of_prepared hprepare ⟨0, 0⟩,
      LawfulStore.keeps_of_write hwrite⟩

/-- Without force a run only goes on with a text that its snapshot names, if it names one. -/
theorem unforced_resume (e : Engine) (w : Workflow) (runId text : String) (start stop : Instant)
    (store : σ) :
    (∀ handed, Executes (fun o => e.resume o runId w text false start stop store)
        (fun o => o.resume runId w) runId w (e.validator.validate w) stop handed →
      ∃ s, read store runId = .ok (some s) ∧
        (s.contentHash = none ∨ s.contentHash = some (contentHash text))) ∧
    (∀ s stored, read store runId = .ok (some s) → s.contentHash = some stored →
      stored ≠ contentHash text →
      ∃ err, ResumeRefused e runId w text false start store err ∧
        Refuses (fun o => e.resume o runId w text false start stop store) err store) ∧
    ∀ path, Workflow.read text path = .ok w → w.contentHash = contentHash text := by
  refine ⟨?_, ?_, fun path => Workflow.contentHash_of_read⟩
  · intro handed hexecutes
    have hgate := resume_gate e runId w text false start stop store
    obtain ⟨s, hread, hfits, -⟩ := (hgate.executes_iff.mp ⟨handed, hexecutes⟩).stored
    exact ⟨s, hread, hfits.resolve_left Bool.false_ne_true⟩
  · intro s stored hread hstored hne
    apply refuses_of_unfit hread
    rintro (hforce | hnone | hsame)
    · simp at hforce
    · simp [hstored] at hnone
    · exact hne (Option.some.inj (hstored.symm.trans hsame))

theorem unforced_resume_of_hello :
    ∃ (w : Workflow) (store handed other : MemoryStore), Workflow.read "Hello" none = .ok w ∧
      Executes
        (fun o => resume ⟨.standard, false⟩ o "r" w "Hello" false ⟨0, 0⟩ ⟨0, 0⟩ store)
        (fun o => o.resume "r" w) "r" w (Validator.standard.validate w) ⟨0, 0⟩ handed ∧
      (∃ s, read store "r" = .ok (some s) ∧
        (s.contentHash = none ∨ s.contentHash = some (contentHash "Hello"))) ∧
      read other "r" = .ok (some (ofText (some (contentHash "Bye")))) ∧
      (∃ err, ResumeRefused ⟨.standard, false⟩ "r" w "Hello" false ⟨0, 0⟩ other err ∧
        Refuses (fun o => resume ⟨.standard, false⟩ o "r" w "Hello" false ⟨0, 0⟩ ⟨0, 0⟩ other) err
          other) ∧
      w.contentHash = contentHash "Hello" := by
  obtain ⟨w, hw, hvalid⟩ := exists_of_accepted accepted_hello
  obtain ⟨store, handed, -, hexecutes, -⟩ :=
    executes_in_memory "Hello" hvalid (.inl rfl) (by simp)
  obtain ⟨other, -, -, hread⟩ := exists_holding (some (contentHash "Bye"))
  have hne : contentHash "Bye" ≠ contentHash "Hello" := by decide +kernel
  obtain ⟨hstored, -, hhash⟩ :=
    unforced_resume ⟨.standard, false⟩ w "r" "Hello" ⟨0, 0⟩ ⟨0, 0⟩ store
  obtain ⟨-, hrefuses, -⟩ :=
    unforced_resume ⟨.standard, false⟩ w "r" "Hello" ⟨0, 0⟩ ⟨0, 0⟩ other
  exact ⟨w, store, handed, other, hw, hexecutes, hstored handed hexecutes, hread,
    hrefuses _ _ hread rfl hne, hhash none hw⟩

/-- With a workflow of another text than the one that is compared the run goes on all the same,
and so it does without a hash to compare; its snapshot is of the workflow's text afterwards. -/
theorem other_workflow_goes_on :
    (∃ (w : Workflow) (store handed : MemoryStore), Workflow.read "Bye" none = .ok w ∧
      read store "r" = .ok (some (ofText (some (contentHash "Hello")))) ∧
      contentHash "Hello" ≠ w.contentHash ∧
      Executes
        (fun o => resume ⟨.standard, false⟩ o "r" w "Hello" false ⟨0, 0⟩ ⟨0, 0⟩ store)
        (fun o => o.resume "r" w) "r" w (Validator.standard.validate w) ⟨0, 0⟩ handed ∧
      ∃ s, read handed "r" = .ok (some s) ∧ s.contentHash = some w.contentHash) ∧
    ∃ (w : Workflow) (store handed : MemoryStore), Workflow.read "Hello" none = .ok w ∧
      read store "r" = .ok (some (ofText none)) ∧
      Executes
        (fun o => resume ⟨.standard, false⟩ o "r" w "Hello" false ⟨0, 0⟩ ⟨0, 0⟩ store)
        (fun o => o.resume "r" w) "r" w (Validator.standard.validate w) ⟨0, 0⟩ handed ∧
      ∃ s, read handed "r" = .ok (some s) ∧ s.contentHash = some w.contentHash := by
  constructor
  · obtain ⟨w, hw, hvalid⟩ := exists_of_accepted (by decide +kernel : accepted "Bye" = true)
    have hne : contentHash "Hello" ≠ w.contentHash := by
      rw [Workflow.contentHash_of_read hw]
      decide +kernel
    obtain ⟨store, handed, hread, hexecutes, hafter⟩ :=
      executes_in_memory "Hello" hvalid (.inr rfl) fun heq => hne (Option.some.inj heq)
    exact ⟨w, store, handed, hw, hread, hne, hexecutes, _, hafter, rfl⟩
  · obtain ⟨w, hw, hvalid⟩ := exists_of_accepted accepted_hello
    obtain ⟨store, handed, hread, hexecutes, hafter⟩ :=
      executes_in_memory "Hello" hvalid (.inl rfl) (by simp)
    exact ⟨w, store, handed, hw, hread, hexecutes, _, hafter, rfl⟩

end Runbook.Engine
