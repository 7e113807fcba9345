import Runbook.Proofs.CaptureRestore
import Runbook.Proofs.RunEnding

/-!
A run that goes on. Its snapshot is left alone where it names the text of the workflow already;
elsewhere it is stored again with that text's hash and is otherwise the same run, as far as the
store reads its variables back. A later resume with the same text is not held up in either case.
-/

namespace Runbook

open SnapshotStore (read find load save write)
open LawfulStore (Sound Keeps)

/-- Stores of which it is known what they give back for a snapshot that they keep. -/
class ReadingStore (σ : Type) [SnapshotStore σ] [Cancellable σ] extends LawfulStore σ where
  reread : Snapshot → Option Snapshot
  read_of_keeps {store : σ} {s t : Snapshot} (h : Keeps store s) :
    read store s.runId = .ok (some t) ↔ reread s = some t
  /-- What is read is the snapshot of the same run, made from the same text. -/
  same_of_reread {s t : Snapshot} (h : reread s = some t) : t.runId = s.runId ∧
    t.filePath = s.filePath ∧ t.contentHash = s.contentHash ∧ t.currentStep = s.currentStep
  /-- With instants that give themselves back only variables can be read differently. -/
  reread_of_timed {s t : Snapshot} (h : s.Timed)
    (hformat : s.formatVersion = Snapshot.currentFormat) (hread : reread s = some t) :
    t = { s with vars := t.vars }

instance : ReadingStore MemoryStore where
  reread := some
  read_of_keeps {store s t} h := by
    have hread : read store s.runId = .ok (some s) := h
    rw [hread, Except.ok.injEq]
  same_of_reread h := by
    obtain rfl := Option.some.inj h
    exact ⟨rfl, rfl, rfl, rfl⟩
  reread_of_timed _ _ h := by
    obtain rfl := Option.some.inj h
    rfl

instance : ReadingStore FileStore where
  reread s := Snapshot.read s.render
  read_of_keeps h := FileStore.Keeps.read_eq_some_iff h
  same_of_reread h := by
    obtain ⟨hid, -, hpath, hhash, hstep⟩ := Snapshot.same_run_of_read h
    exact ⟨hid, hpath, hhash, hstep⟩
  reread_of_timed {s t} h hformat hread := by
    have hversion : isNat32 s.formatVersion = true := by rw [hformat]; rfl
    rw [Snapshot.read_render_of_timed h hversion] at hread
    obtain ⟨vars, -, rfl⟩ := Option.map_eq_some_iff.mp hread
    rfl

open ReadingStore (reread)

theorem Evolves.write {σ : Type} [SnapshotStore σ] (store : σ) (s : Snapshot) (now : Instant) :
    Evolves store (SnapshotStore.write store s now).2 :=
  .step .refl now (.write s)

namespace Workflow

theorem contentHash_of_read {text : String} {path : Option String} {w : Workflow}
    (h : Workflow.read text path = .ok w) : w.contentHash = Runbook.contentHash text := by
  unfold Workflow.read at h
  by_cases hblank : Text.isBlankString text
  · simp [hblank, bind, Except.bind, throw, throwThe, MonadExceptOf.throw] at h
  · simp only [hblank, bind, Except.bind, pure, Except.pure, Bool.false_eq_true, if_false] at h
    split at h
    · split at h
      · simp at h
      · rw [← Except.ok.inj h]
    · rw [← Except.ok.inj h]

end Workflow

namespace Message

@[simp] theorem toStored_timestamp (m : Message) : m.toStored.timestamp = m.timestamp := rfl

@[simp] theorem ofStored_timestamp (m : StoredMessage) :
    (ofStored m).timestamp = m.timestamp := rfl

end Message

namespace Snapshot

variable {s : Snapshot}

/-- The snapshot of the restored run, now of another text. -/
def repinned (s : Snapshot) (hash : String) (now : Instant) : Snapshot :=
  { s.recapture now with contentHash := some hash }

/-- The restored run, now of another text. -/
def repinnedContext (s : Snapshot) (hash : String) : RunContext :=
  { s.context with workflowHash := some hash }

theorem restore_repinned (h : Json.CanonicalMembers s.vars) (hash : String) (now : Instant) :
    (s.repinned hash now).restore = (s.repinnedContext hash, s.conversation) :=
  @restore_capture (s.repinnedContext hash) (native_context h) s.conversation (some s) now

theorem repinnedContext_of_same {hash : String} (h : s.contentHash = some hash) :
    s.repinnedContext hash = s.context := by
  rw [repinnedContext, ← h]
  rfl

theorem timed_repinned (h : s.Timed) {now : Instant} (hnow : now.ReadsBack) (hash : String) :
    (s.repinned hash now).Timed := by
  refine ⟨h.start, hnow, ?_, h.steps⟩
  intro m hm
  obtain ⟨restored, hrestored, rfl⟩ := List.mem_map.mp hm
  obtain ⟨stored, hstored, rfl⟩ := List.mem_map.mp hrestored
  rw [Message.toStored_timestamp, Message.ofStored_timestamp]
  exact h.messages stored hstored

end Snapshot

namespace Engine

/-- The standard validator has nothing against a document. -/
def accepted (text : String) : Bool :=
  match Workflow.read text none with
  | .ok w => (Validator.standard.validate w).errors.isEmpty
  | .error _ => false

theorem exists_of_accepted {text : String} (h : accepted text = true) :
    ∃ w, Workflow.read text none = .ok w ∧ (Validator.standard.validate w).errors = [] := by
  unfold accepted at h
  split at h
  · next w hread => exact ⟨w, hread, by simpa using h⟩
  · simp at h

theorem accepted_hello : accepted "Hello" = true := by decide +kernel

section Lawful

variable {σ : Type} [SnapshotStore σ] {e : Engine} {w : Workflow} {runId text : String}
  {force : Bool} {start : Instant} {store : σ} {s : Snapshot}

theorem executes_of_prepared {report : Report} {handed : σ}
    (h : e.prepareResume runId w text force start store = (.ok report, handed)) (stop : Instant) :
    Executes (fun o => e.resume o runId w text force start stop store)
      (fun o => o.resume runId w) runId w report stop handed := by
  intro o
  simp only [resume, h]

variable [Cancellable σ] [LawfulStore σ]

/-- A live engine goes on with any run that a live store has a snapshot of, which the document
fits. -/
theorem admitted_of_read (hsound : Sound store) (hopen : isCancelled store = false)
    (hlive : e.cancelled = false) (hvalid : (e.validator.validate w).errors = [])
    (hread : read store runId = .ok (some s)) (hfits : Fits s text force) :
    ResumeAdmitted e runId w text force start store := by
  obtain rfl : s.runId = runId := LawfulStore.runId_of_read hsound hread
  refine ⟨hlive, hvalid, LawfulStore.check_of_read hread, s, hread, hfits, fun _ => ?_⟩
  exact LawfulStore.save_of_live hsound hopen hread s.conversation start

theorem passAgain_of_admitted (h : ResumeAdmitted e runId w text force start store)
    (hread : read store runId = .ok (some s)) :
    e.passAgain runId w text force store = .ok (s.restore, e.validator.validate w) := by
  obtain ⟨found, hfound, hfits, -⟩ := h.stored
  obtain rfl : found = s := Option.some.inj (Except.ok.inj (hfound.symm.trans hread))
  have hprepare := prepareResume_of_fits ((LawfulStore.find_eq store runId).trans hread) hfits
  rcases check_cases e w with ⟨hdead, -⟩ | ⟨-, hinvalid, -⟩ | ⟨-, -, hcheck⟩
  · simp [h.live] at hdead
  · exact absurd h.valid hinvalid
  · simp [passAgain, hcheck, hprepare, bind, Except.bind, pure, Except.pure]

theorem recheckpoint_eq (hread : read store s.runId = .ok (some s)) :
    recheckpoint w start store s = write store (s.repinned w.contentHash start) start := by
  have hprevious : SnapshotStore.previous store s.context.runId = .ok (some s) :=
    LawfulStore.previous_of_read hread
  rw [recheckpoint, save, hprevious]
  rfl

/-- A resume that is admitted leaves the store alone or stores the run with the new hash. -/
theorem prepareResume_of_admitted (h : ResumeAdmitted e runId w text force start store)
    (hread : read store runId = .ok (some s)) (hown : s.runId = runId) :
    s.contentHash = some w.contentHash ∧
      e.prepareResume runId w text force start store = (.ok (e.validator.validate w), store) ∨
    s.contentHash ≠ some w.contentHash ∧ ∃ handed,
      write store (s.repinned w.contentHash start) start = (.ok (), handed) ∧
      e.prepareResume runId w text force start store = (.ok (e.validator.validate w), handed) := by
  have hpass := passAgain_of_admitted h hread
  by_cases hsame : s.contentHash = some w.contentHash
  · refine .inl ⟨hsame, ?_⟩
    simp [prepareResume, hpass, Snapshot.restore, Snapshot.context, hsame]
  · refine .inr ⟨hsame, ?_⟩
    obtain ⟨found, hfound, -, hsaved⟩ := h.stored
    obtain rfl : found = s := Option.some.inj (Except.ok.inj (hfound.symm.trans hread))
    have hstored := hsaved hsame
    have hother : ¬ found.context.workflowHash = some w.contentHash := hsame
    subst hown
    rw [← recheckpoint_eq hread]
    cases hre : recheckpoint w start store found with
    | mk answer handed =>
      rw [hre] at hstored
      obtain rfl : answer = .ok () := hstored
      refine ⟨handed, rfl, ?_⟩
      simp only [recheckpoint] at hre
      simp only [prepareResume, hpass, Snapshot.restore]
      rw [if_neg hother, hre]

end Lawful

section Repinning

variable {σ : Type} [SnapshotStore σ] [Cancellable σ] [ReadingStore σ]

/-- What a resume has made of the store by the time its run goes on. Where the snapshot is stored
again, it is what the store reads back of it that decides over what is loaded. -/
structure Repinned (runId text : String) (w : Workflow) (start : Instant) (store : σ)
    (s : Snapshot) (handed : σ) : Prop where
  others : ∀ id, id ≠ runId → read handed id = read store id
  unchanged : s.contentHash = some w.contentHash → handed = store
  kept : s.contentHash ≠ some w.contentHash → Keeps handed (s.repinned w.contentHash start)
  same : ∀ t, read handed runId = .ok (some t) → t.runId = s.runId ∧ t.filePath = s.filePath ∧
    t.contentHash = some w.contentHash ∧ t.currentStep = s.currentStep
  again : ∀ t, read handed runId = .ok (some t) →
    SnapshotStore.prepareResume handed runId text false = .ok t.restore
  loaded_iff : load handed runId =
      .ok (some (s.repinnedContext w.contentHash, s.conversation)) ↔
    s.contentHash = some w.contentHash ∨ ∃ t, reread σ (s.repinned w.contentHash start) = some t ∧
      t.restore = (s.repinnedContext w.contentHash, s.conversation)
  /-- Nothing but variables can have become different. -/
  drifted : s.Timed → start.ReadsBack → ∀ t, read handed runId = .ok (some t) →
    t.restore = ({ s.repinnedContext w.contentHash with vars := t.context.vars }, s.conversation)

variable {runId text : String} {w : Workflow} {start : Instant} {store handed : σ} {s : Snapshot}

theorem load_eq (store : σ) (runId : String) :
    load store runId = (read store runId).map (Option.map Snapshot.restore) := by
  rw [load, LawfulStore.find_eq]
  cases read store runId <;> rfl

theorem load_eq_some_iff {restored : RunContext × Conversation} :
    load store runId = .ok (some restored) ↔
      ∃ t, read store runId = .ok (some t) ∧ t.restore = restored := by
  rw [load_eq]
  cases read store runId with
  | error e => simp [Except.map]
  | ok found => cases found <;> simp [Except.map]

/-- A run that was stored with the hash of a text goes on with that text. -/
theorem prepareResume_of_hash {t : Snapshot} (hread : read store runId = .ok (some t))
    (hhash : t.contentHash = some (contentHash text)) :
    SnapshotStore.prepareResume store runId text false = .ok t.restore :=
  prepareResume_of_fits ((LawfulStore.find_eq store runId).trans hread) (.inr (.inr hhash))

theorem repinned_of_same (hw : w.contentHash = contentHash text)
    (hread : read store runId = .ok (some s)) (hsame : s.contentHash = some w.contentHash) :
    Repinned runId text w start store s store := by
  have hfound : ∀ t, read store runId = .ok (some t) → t = s := fun t ht =>
    Option.some.inj (Except.ok.inj (ht.symm.trans hread))
  have hcontext := Snapshot.repinnedContext_of_same hsame
  refine ⟨fun _ _ => rfl, fun _ => rfl, fun hother => absurd hsame hother, ?_, ?_, ?_, ?_⟩
  · intro t ht
    obtain rfl := hfound t ht
    exact ⟨rfl, rfl, hsame, rfl⟩
  · intro t ht
    obtain rfl := hfound t ht
    exact prepareResume_of_hash ht (hw ▸ hsame)
  · refine ⟨fun _ => .inl hsame, fun _ => load_eq_some_iff.mpr ⟨s, hread, ?_⟩⟩
    rw [hcontext, Snapshot.restore]
  · intro _ _ t ht
    obtain rfl := hfound t ht
    rw [hcontext, Snapshot.restore]

theorem repinned_of_write (hw : w.contentHash = contentHash text) (hown : s.runId = runId)
    (hother : s.contentHash ≠ some w.contentHash)
    (hwrite : write store (s.repinned w.contentHash start) start = (.ok (), handed)) :
    Repinned runId text w start store s handed := by
  have hkeeps : Keeps handed (s.repinned w.contentHash start) := LawfulStore.keeps_of_write hwrite
  have hreads : ∀ t, read handed runId = .ok (some t) ↔
      reread σ (s.repinned w.contentHash start) = some t := by
    intro t
    rw [← hown]
    exact ReadingStore.read_of_keeps hkeeps
  refine ⟨?_, fun hsame => absurd hsame hother, fun _ => hkeeps, ?_, ?_, ?_, ?_⟩
  · intro id hne
    exact LawfulStore.read_of_write_ok hwrite (hown.symm ▸ hne)
  · intro t ht
    exact ReadingStore.same_of_reread ((hreads t).mp ht)
  · intro t ht
    obtain ⟨-, -, hhash, -⟩ := ReadingStore.same_of_reread ((hreads t).mp ht)
    exact prepareResume_of_hash ht (hw ▸ hhash)
  · rw [load_eq_some_iff, or_iff_right hother]
    simp only [hreads]
  · intro htimed hstart t ht
    have heq : t = { s.repinned w.contentHash start with vars := t.vars } :=
      ReadingStore.reread_of_timed (Snapshot.timed_repinned htimed hstart _) rfl
        ((hreads t).mp ht)
    have hcontext := congrArg Snapshot.context heq
    have hconversation : t.conversation = s.conversation :=
      (congrArg Snapshot.conversation heq).trans
        (Snapshot.conversation_capture s.context s.conversation (some s) start)
    rw [Snapshot.restore, hconversation]
    exact congrArg (·, s.conversation) hcontext

/-- A store that reads back what it was given loses nothing. -/
theorem Repinned.loaded (h : Repinned runId text w start store s handed)
    (hs : Json.CanonicalMembers s.vars)
    (hback : reread σ (s.repinned w.contentHash start) = some (s.repinned w.contentHash start)) :
    load handed runId = .ok (some (s.repinnedContext w.contentHash, s.conversation)) :=
  h.loaded_iff.mpr (.inr ⟨_, hback, Snapshot.restore_repinned hs _ _⟩)

/-- When a resumed run goes on, its snapshot has the hash of the workflow, no other snapshot has
changed, and nothing is lost but what the store reads differently. -/
theorem resume_repins {fresh : σ} (hfresh : Sound fresh) (hstore : Evolves fresh store)
    {e : Engine} {path : Option String} (hw : Workflow.read text path = .ok w) {force : Bool}
    {report : Report}
    (hreaches : e.prepareResume runId w text force start store = (.ok report, handed))
    (stop : Instant) :
    ∃ s, read store runId = .ok (some s) ∧
      Executes (fun o => e.resume o runId w text force start stop store)
        (fun o => o.resume runId w) runId w report stop handed ∧
      Repinned runId text w start store s handed := by
  have hexecutes := executes_of_prepared hreaches stop
  have hhash := Workflow.contentHash_of_read hw
  rcases prepareResume_cases e runId w text force start store with
    ⟨_, hadmitted, -⟩ | ⟨err, left, -, -, hrefuses⟩
  · obtain ⟨s, hread, -, -⟩ := hadmitted.stored
    have hown : s.runId = runId := LawfulStore.runId_of_read (hstore.sound hfresh) hread
    refine ⟨s, hread, hexecutes, ?_⟩
    rcases prepareResume_of_admitted hadmitted hread hown with
      ⟨hsame, hprepare⟩ | ⟨hother, stored, hwrite, hprepare⟩
    · obtain ⟨-, rfl⟩ := Prod.mk.inj (hprepare.symm.trans hreaches)
      exact repinned_of_same hhash hread hsame
    · obtain ⟨-, rfl⟩ := Prod.mk.inj (hprepare.symm.trans hreaches)
      exact repinned_of_write hhash hown hother hwrite
  · rw [hrefuses] at hreaches
    simp at hreaches

end Repinning

theorem resume_repins_of_hello :
    let e : Engine := ⟨.standard, false⟩
    let fresh : FileStore := ⟨"state", .absent, false⟩
    let store : FileStore := (save fresh (.bare "r") [] ⟨0, 0⟩).2
    ∃ w report handed, Workflow.read "Hello" none = .ok w ∧
      e.prepareResume "r" w "Hello" false ⟨0, 0⟩ store = (.ok report, handed) ∧
      ∃ s, read store "r" = .ok (some s) ∧
        Executes (fun o => e.resume o "r" w "Hello" false ⟨0, 0⟩ ⟨1, 0⟩ store)
          (fun o => o.resume "r" w) "r" w report ⟨1, 0⟩ handed ∧
        Repinned "r" "Hello" w ⟨0, 0⟩ store s handed := by
  intro e fresh store
  obtain ⟨w, hw, hvalid⟩ := exists_of_accepted accepted_hello
  have hfresh : Sound fresh := FileStore.sound_of_empty "state" (Or.inl rfl)
  have hstore : Evolves fresh store := Evolves.save fresh _ _ _
  have habsent : read fresh "r" = .ok none := FileStore.read_of_empty (Or.inl rfl) rfl
  have hread : read store "r" = .ok (some (.capture (.bare "r") [] none ⟨0, 0⟩)) := by
    apply Operation.read_save hfresh rfl habsent
    intro s hs
    rw [Operation.written?_save habsent] at hs
    obtain rfl := Option.some.inj hs
    exact Snapshot.readsBack_of_blank rfl rfl rfl rfl Instant.readsBack_zero
      Instant.readsBack_zero
  have hadmitted : ResumeAdmitted e "r" w "Hello" false ⟨0, 0⟩ store :=
    admitted_of_read (hstore.sound hfresh) hstore.isCancelled_eq rfl hvalid hread (.inr (.inl rfl))
  rcases prepareResume_cases e "r" w "Hello" false ⟨0, 0⟩ store with
    ⟨handed, -, hreaches⟩ | ⟨err, left, hrefused, -, -⟩
  · exact ⟨w, _, handed, hw, hreaches, resume_repins hfresh hstore hw hreaches ⟨1, 0⟩⟩
  · exact absurd hadmitted hrefused.not_admitted

/-- In memory nothing is lost at all. -/
theorem Repinned.loaded_in_memory {runId text : String} {w : Workflow} {start : Instant}
    {store handed : MemoryStore} {s : Snapshot} (h : Repinned runId text w start store s handed)
    (hs : Json.CanonicalMembers s.vars) :
    load handed runId = .ok (some (s.repinnedContext w.contentHash, s.conversation)) :=
  h.loaded hs rfl

/-- A run with nothing but one variable. -/
def singleContext (x : Binary64) : RunContext :=
  { RunContext.bare "r" with vars := [("x", .float x)] }

def single (x : Binary64) : Snapshot := .capture (singleContext x) [] none ⟨0, 0⟩

section Single

variable {x y : Binary64}

theorem vars_single (h : x.isFinite) : (single x).vars = [("x", .number (.float x))] :=
  congrArg (fun j => [("x", j)]) (Variable.toJson_float h)

theorem context_single (h : x.isFinite) : (single x).context = singleContext x := by
  have hnative : (singleContext x).Native := by
    simpa [singleContext, RunContext.Native, Variable.Native] using h
  exact congrArg Prod.fst (Snapshot.restore_capture hnative [] none ⟨0, 0⟩)

theorem timed_single (x : Binary64) (hash : Option String) :
    { single x with contentHash := hash }.Timed :=
  ⟨Instant.readsBack_zero, Instant.readsBack_zero, by simp [single, Snapshot.capture],
    by simp [single, singleContext, Snapshot.capture, RunContext.bare]⟩

/-- A number that is read as another one takes its place. -/
theorem read_render_single (hx : x.isFinite) (hy : y.isFinite)
    (h : Json.rewritten? (.float x) = some (.float y)) (hash : Option String) :
    Snapshot.read { single x with contentHash := hash }.render =
      some { single y with contentHash := hash } := by
  have hvars : (single y).vars = [("x", .number (.float y))] := vars_single hy
  have hread := Snapshot.read_render_of_number (timed_single x hash)
    (by decide : isNat32 Snapshot.currentFormat = true) (vars_single hx) h
  rw [← hvars] at hread
  exact hread

theorem repinned_single (hx : x.isFinite) (hash : String) :
    (single x).repinned hash ⟨0, 0⟩ = { single x with contentHash := some hash } := by
  rw [Snapshot.repinned, Snapshot.recapture, context_single hx]
  rfl

/-- In files a number that is not read as it was written is another one when the run goes on. -/
theorem drifts_in_files {z : Binary64} (hx : x.isFinite) (hy : y.isFinite) (hz : z.isFinite)
    (hxy : Json.rewritten? (.float x) = some (.float y))
    (hyz : Json.rewritten? (.float y) = some (.float z)) {w : Workflow}
    (hvalid : (Validator.standard.validate w).errors = []) (text : String) :
    ∃ store handed : FileStore, Evolves ⟨"state", .absent, false⟩ store ∧
      prepareResume ⟨.standard, false⟩ "r" w text false ⟨0, 0⟩ store =
        (.ok (Validator.standard.validate w), handed) ∧
      load store "r" = .ok (some (singleContext y, [])) ∧
      load handed "r" =
        .ok (some ({ singleContext z with workflowHash := some w.contentHash }, [])) := by
  have hfresh : Sound (⟨"state", .absent, false⟩ : FileStore) :=
    FileStore.sound_of_empty "state" (Or.inl rfl)
  have hid : RunId.check (single x).runId = .ok () := (by decide : RunId.check "r" = .ok ())
  obtain ⟨store, hwrite, hkeeps⟩ := LawfulStore.write_of_live hfresh hid rfl ⟨0, 0⟩
  have hstore := Evolves.write (⟨"state", .absent, false⟩ : FileStore) (single x) ⟨0, 0⟩
  rw [hwrite] at hstore
  have hread : read store "r" = .ok (some (single y)) :=
    (ReadingStore.read_of_keeps hkeeps).mpr (read_render_single hx hy hxy none)
  have hsound : Sound store := hstore.sound hfresh
  have hadmitted : ResumeAdmitted ⟨.standard, false⟩ "r" w text false ⟨0, 0⟩ store :=
    admitted_of_read hsound hstore.isCancelled_eq rfl hvalid hread (.inr (.inl rfl))
  rcases prepareResume_of_admitted hadmitted hread rfl with
    ⟨hsame, -⟩ | ⟨-, handed, hrewrite, hprepare⟩
  · simp [single, singleContext, Snapshot.capture, RunContext.bare] at hsame
  · refine ⟨store, handed, hstore, hprepare, ?_, ?_⟩
    · refine load_eq_some_iff.mpr ⟨single y, hread, ?_⟩
      rw [Snapshot.restore, context_single hy]
      rfl
    · have hkept := LawfulStore.keeps_of_write hrewrite
      rw [repinned_single hy] at hkept
      refine load_eq_some_iff.mpr ⟨{ single z with contentHash := some w.contentHash },
        (ReadingStore.read_of_keeps hkept).mpr (read_render_single hy hz hyz _), ?_⟩
      exact congrArg (fun ctx : RunContext =>
        ({ ctx with workflowHash := some w.contentHash }, ([] : Conversation))) (context_single hz)

end Single

/-- `1e-30` is read as the number below it, which is written as `9.999999999999999e-31` and read
as the number above. -/
theorem float_drifts :
    let down : Binary64 := .ofBits 0x39b4484bfeebc29f
    let up : Binary64 := .ofBits 0x39b4484bfeebc2a0
    ∃ (w : Workflow) (report : Report) (store handed : FileStore),
      Workflow.read "Hello" none = .ok w ∧ Evolves ⟨"state", .absent, false⟩ store ∧
      prepareResume ⟨.standard, false⟩ "r" w "Hello" false ⟨0, 0⟩ store = (.ok report, handed) ∧
      load store "r" = .ok (some (singleContext down, [])) ∧
      load handed "r" =
        .ok (some ({ singleContext up with workflowHash := some w.contentHash }, [])) ∧
      down ≠ up := by
  intro down up
  obtain ⟨w, hw, hvalid⟩ := exists_of_accepted accepted_hello
  obtain ⟨store, handed, hstore, hprepare, hbefore, hafter⟩ :=
    drifts_in_files (by decide) (by decide) (by decide) Json.rewritten_upper Json.rewritten_lower
      hvalid "Hello"
  exact ⟨w, _, store, handed, hw, hstore, hprepare, hbefore, hafter, by decide⟩

end Engine

end Runbook
