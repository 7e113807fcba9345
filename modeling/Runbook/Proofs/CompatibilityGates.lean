import Runbook.Command
import Runbook.Proofs.ExecutionGate
import Runbook.Proofs.HeaderValues
import Runbook.Proofs.SnapshotFolder
import Runbook.Proofs.StoreOperations

/-!
The places where it is decided whether a run may go on with a document: the comparison of hashes,
the question to a store, the resuming of the run and the command that checks it. They decide alike,
but for a run without a snapshot, which is compatible with every document and cannot be resumed.
-/

namespace Runbook

open SnapshotStore (read find load isCompatible prepareResume)
open Engine (Fits)

namespace Compatibility

variable {found : Option Snapshot} {s : Snapshot} {text : String} {force : Bool}

/-- What the comparison of a snapshot with a document comes to. -/
theorem check_cases (s : Snapshot) (text : String) :
    s.contentHash = none ∧ check (some s) text = .noStoredHash ∨
    s.contentHash = some (contentHash text) ∧ check (some s) text = .agrees ∨
    ∃ stored, s.contentHash = some stored ∧ stored ≠ contentHash text ∧
      check (some s) text = .differs stored (contentHash text) := by
  cases hhash : s.contentHash with
  | none => exact Or.inl ⟨rfl, by simp [check, hhash]⟩
  | some stored =>
    by_cases hsame : stored = contentHash text
    · exact Or.inr (Or.inl ⟨congrArg some hsame, by simp [check, hhash, hsame]⟩)
    · exact Or.inr (Or.inr ⟨stored, rfl, hsame, by simp [check, hhash, hsame]⟩)

theorem check_eq_agrees_iff :
    check found text = .agrees ↔ ∃ s, found = some s ∧ s.contentHash = some (contentHash text) := by
  cases found with
  | none => simp [check]
  | some s =>
    rcases check_cases s text with ⟨hhash, hcheck⟩ | ⟨hhash, hcheck⟩ | ⟨hash, hhash, hne, hcheck⟩
    · simp [hhash, hcheck]
    · simp [hhash, hcheck]
    · simp [hhash, hcheck, hne]

theorem isCompatible_eq_false_iff {verdict : Compatibility} :
    verdict.isCompatible = false ↔ ∃ stored current, verdict = .differs stored current := by
  cases verdict <;> simp [isCompatible]

theorem fits_iff : Fits s text force ↔
    force = true ∨ (check (some s) text).isCompatible = true := by
  refine or_congr_right ?_
  rcases check_cases s text with ⟨hhash, hcheck⟩ | ⟨hhash, hcheck⟩ | ⟨hash, hhash, hne, hcheck⟩
  · simp [hhash, hcheck, isCompatible]
  · simp [hhash, hcheck, isCompatible]
  · simp [hhash, hcheck, hne, isCompatible]

theorem not_fits_iff : ¬ Fits s text force ↔
    force = false ∧ ∃ stored, s.contentHash = some stored ∧ stored ≠ contentHash text := by
  cases hhash : s.contentHash with
  | none => simp [Fits, hhash]
  | some stored => simp [Fits, hhash]

end Compatibility

namespace SnapshotStore

variable {σ : Type} [SnapshotStore σ] {store : σ} {runId text : String} {force : Bool}

theorem find_eq_ok_iff {found : Option Snapshot} : find store runId = .ok found ↔
    RunId.check runId = .ok () ∧ read store runId = .ok found := by
  constructor
  · intro h
    obtain ⟨⟨⟩, hid, hread⟩ := bind_eq_ok.mp h
    exact ⟨hid, hread⟩
  · rintro ⟨hid, hread⟩
    exact bind_eq_ok.mpr ⟨(), hid, hread⟩

theorem isCompatible_eq_ok_iff {b : Bool} : isCompatible store runId text = .ok b ↔
    ∃ found, find store runId = .ok found ∧ (Compatibility.check found text).isCompatible = b := by
  refine bind_eq_ok.trans (exists_congr fun found => and_congr_right fun _ => ?_)
  exact ⟨Except.ok.inj, congrArg Except.ok⟩

theorem load_eq_ok_iff {state : Option (RunContext × Conversation)} :
    load store runId = .ok state ↔
      ∃ found, find store runId = .ok found ∧ found.map Snapshot.restore = state := by
  refine bind_eq_ok.trans (exists_congr fun found => and_congr_right fun _ => ?_)
  exact ⟨Except.ok.inj, congrArg Except.ok⟩

theorem prepareResume_of_error {e : Error} (h : find store runId = .error e) (text : String)
    (force : Bool) : prepareResume store runId text force = .error e := by
  rw [prepareResume, h]
  rfl

theorem prepareResume_of_none (h : find store runId = .ok none) (text : String) (force : Bool) :
    prepareResume store runId text force = .error (.snapshotNotFound runId) := by
  rw [prepareResume, h]
  rfl

theorem prepareResume_eq_ok_iff {state : RunContext × Conversation} :
    prepareResume store runId text force = .ok state ↔
      ∃ s, find store runId = .ok (some s) ∧ Fits s text force ∧ s.restore = state := by
  constructor
  · intro h
    obtain ⟨found, hfind, -⟩ := bind_eq_ok.mp h
    cases found with
    | none => simp [prepareResume_of_none hfind] at h
    | some s =>
      by_cases hfits : Fits s text force
      · rw [Engine.prepareResume_of_fits hfind hfits] at h
        exact ⟨s, hfind, hfits, Except.ok.inj h⟩
      · obtain ⟨stored, -, hrefused⟩ := Engine.prepareResume_of_unfit hfind hfits
        simp [hrefused] at h
  · rintro ⟨s, hfind, hfits, rfl⟩
    exact Engine.prepareResume_of_fits hfind hfits

end SnapshotStore

/-- The gates of a store give answers that go together. -/
structure GatesAgree {σ : Type} [SnapshotStore σ] (store : σ) (runId text : String) : Prop where
  answered : ∀ found, RunId.check runId = .ok () → read store runId = .ok found →
    ∃ answer, isCompatible store runId text = .ok answer ∧
      (answer = false ↔ ∃ stored current, Compatibility.check found text = .differs stored current)
  resumed : ∀ force state, prepareResume store runId text force = .ok state ↔
    RunId.check runId = .ok () ∧ (∃ s, read store runId = .ok (some s)) ∧
      (force = true ∨ isCompatible store runId text = .ok true) ∧
      load store runId = .ok (some state)
  absent : RunId.check runId = .ok () → read store runId = .ok none →
    isCompatible store runId text = .ok true ∧
      ∀ force, prepareResume store runId text force = .error (.snapshotNotFound runId)
  incompatible : ∀ force id stored current, prepareResume store runId text force =
      .error (.incompatibleSnapshot id stored current) ↔
    force = false ∧ id = runId ∧ current = contentHash text ∧ stored ≠ current ∧
      RunId.check runId = .ok () ∧
      ∃ s, read store runId = .ok (some s) ∧ s.contentHash = some stored
  untouched : ∀ now force, ((Operation.compatible runId text).perform store now).2 = store ∧
    ((Operation.load runId).perform store now).2 = store ∧
    ((Operation.prepare runId text force).perform store now).2 = store

namespace SnapshotStore

variable {σ : Type} [SnapshotStore σ] {store : σ} {runId : String}

theorem find_ne_incompatible (hread : ∀ id stored current,
      read store runId ≠ .error (.incompatibleSnapshot id stored current))
    {id stored current : String} :
    find store runId ≠ .error (.incompatibleSnapshot id stored current) := by
  rcases RunId.check_ok_or_error runId with hid | ⟨reason, hid⟩
  · rw [find, hid]
    exact hread id stored current
  · rw [find, hid]
    simp [bind, Except.bind]

/-- A resume is refused for the document just when it is not forced and the hashes differ. -/
theorem prepareResume_eq_incompatible_iff (hread : ∀ id stored current,
      read store runId ≠ .error (.incompatibleSnapshot id stored current))
    {text : String} {force : Bool} {id stored current : String} :
    prepareResume store runId text force = .error (.incompatibleSnapshot id stored current) ↔
      force = false ∧ id = runId ∧ current = contentHash text ∧ stored ≠ current ∧
        RunId.check runId = .ok () ∧
        ∃ s, read store runId = .ok (some s) ∧ s.contentHash = some stored := by
  constructor
  · intro h
    cases hfind : find store runId with
    | error e =>
      rw [prepareResume_of_error hfind] at h
      obtain rfl := Except.error.inj h
      exact absurd hfind (find_ne_incompatible hread)
    | ok found =>
      obtain ⟨hid, hfound⟩ := find_eq_ok_iff.mp hfind
      cases found with
      | none => simp [prepareResume_of_none hfind] at h
      | some s =>
        have hunfit : ¬ Fits s text force := by
          intro hfits
          simp [Engine.prepareResume_of_fits hfind hfits] at h
        obtain ⟨hash, hhash, hrefused⟩ := Engine.prepareResume_of_unfit hfind hunfit
        rw [hrefused] at h
        obtain ⟨rfl, rfl, rfl⟩ := Error.incompatibleSnapshot.inj (Except.error.inj h)
        obtain ⟨hforce, other, hother, hne⟩ := Compatibility.not_fits_iff.mp hunfit
        obtain rfl : hash = other := Option.some.inj (hhash.symm.trans hother)
        exact ⟨hforce, rfl, rfl, hne, hid, s, hfound, hhash⟩
  · rintro ⟨hforce, rfl, rfl, hne, hid, s, hfound, hhash⟩
    have hunfit : ¬ Fits s text force :=
      Compatibility.not_fits_iff.mpr ⟨hforce, stored, hhash, hne⟩
    obtain ⟨hash, hother, hrefused⟩ :=
      Engine.prepareResume_of_unfit (find_eq_ok_iff.mpr ⟨hid, hfound⟩) hunfit
    obtain rfl : stored = hash := Option.some.inj (hhash.symm.trans hother)
    exact hrefused

/-- The gates agree wherever reading a snapshot does not compare it with a document. -/
theorem gatesAgree (hread : ∀ id stored current,
      read store runId ≠ .error (.incompatibleSnapshot id stored current)) (text : String) :
    GatesAgree store runId text where
  answered found hid hfound := by
    refine ⟨_, isCompatible_eq_ok_iff.mpr ⟨found, find_eq_ok_iff.mpr ⟨hid, hfound⟩, rfl⟩, ?_⟩
    exact Compatibility.isCompatible_eq_false_iff
  resumed force state := by
    rw [prepareResume_eq_ok_iff]
    constructor
    · rintro ⟨s, hfind, hfits, rfl⟩
      obtain ⟨hid, hfound⟩ := find_eq_ok_iff.mp hfind
      refine ⟨hid, ⟨s, hfound⟩, ?_, load_eq_ok_iff.mpr ⟨some s, hfind, rfl⟩⟩
      exact (Compatibility.fits_iff.mp hfits).imp_right fun hcompatible =>
        isCompatible_eq_ok_iff.mpr ⟨some s, hfind, hcompatible⟩
    · rintro ⟨hid, ⟨s, hfound⟩, hgate, hload⟩
      have hfind : find store runId = .ok (some s) := find_eq_ok_iff.mpr ⟨hid, hfound⟩
      obtain ⟨found, hloaded, hstate⟩ := load_eq_ok_iff.mp hload
      obtain rfl : some s = found := Except.ok.inj (hfind.symm.trans hloaded)
      refine ⟨s, hfind, Compatibility.fits_iff.mpr (hgate.imp_right ?_), Option.some.inj hstate⟩
      intro hcompatible
      obtain ⟨asked, hasked, htrue⟩ := isCompatible_eq_ok_iff.mp hcompatible
      obtain rfl : some s = asked := Except.ok.inj (hfind.symm.trans hasked)
      exact htrue
  absent hid hnone := by
    have hfind : find store runId = .ok none := find_eq_ok_iff.mpr ⟨hid, hnone⟩
    exact ⟨isCompatible_eq_ok_iff.mpr ⟨none, hfind, rfl⟩,
      fun force => prepareResume_of_none hfind text force⟩
  incompatible _ _ _ _ := prepareResume_eq_incompatible_iff hread
  untouched now force := ⟨rfl, rfl, rfl⟩

end SnapshotStore

theorem MemoryStore.read_ne_incompatible (store : MemoryStore) (runId id stored current : String) :
    SnapshotStore.read store runId ≠ .error (.incompatibleSnapshot id stored current) := by
  change store.read runId ≠ _
  rcases RunId.check_ok_or_error runId with hid | ⟨reason, hid⟩ <;>
    simp [MemoryStore.read, hid, bind, Except.bind, pure, Except.pure]

theorem FileStore.readNode_ne_incompatible (path : String) (node? : Option Node)
    (id stored current : String) :
    readNode path node? ≠ .error (.incompatibleSnapshot id stored current) := by
  unfold readNode
  split
  · simp
  · split <;> simp
  · simp
  · simp

theorem FileStore.read_ne_incompatible (store : FileStore) (runId id stored current : String) :
    SnapshotStore.read store runId ≠ .error (.incompatibleSnapshot id stored current) := by
  change store.read runId ≠ _
  rcases RunId.check_ok_or_error runId with hid | ⟨reason, hid⟩
  · cases hsite : store.site with
    | absent => simp [FileStore.read, hid, hsite, bind, Except.bind, pure, Except.pure]
    | blocked =>
      simp [FileStore.read, hid, hsite, notAFolder, bind, Except.bind, throw, throwThe,
        MonadExceptOf.throw]
    | folder entries =>
      simpa [FileStore.read, hid, hsite, bind, Except.bind] using
        readNode_ne_incompatible (store.path runId) (entries.find? (Snapshot.fileName runId)) id
          stored current
  · simp [FileStore.read, hid, bind, Except.bind]

theorem SelectedStore.read_of_file {store : SelectedStore} (h : store.backend = .file)
    (runId : String) : SnapshotStore.read store runId = store.files.read runId := by
  change store.ask _ = _
  rw [ask, h]
  rfl

theorem SelectedStore.read_ne_incompatible (store : SelectedStore)
    (runId id stored current : String) :
    SnapshotStore.read store runId ≠ .error (.incompatibleSnapshot id stored current) := by
  change store.ask _ ≠ _
  unfold ask
  cases store.backend with
  | file => exact FileStore.read_ne_incompatible store.files runId id stored current
  | memory => exact MemoryStore.read_ne_incompatible store.memory runId id stored current

namespace Command

variable {σ : Type} [SnapshotStore σ] {store : σ} {w : Workspace} {runId file : String}
  {force : Bool}

theorem runCheck_eq_ok_iff {lines : List String} : runCheck store w runId file force = .ok lines ↔
    ∃ text, w.text file = .ok text ∧ ∃ found, read store runId = .ok found ∧
      ∃ state, prepareResume store runId text force = .ok state ∧
        checkLines runId (Compatibility.check found text) state.1 state.2 = lines := by
  refine bind_eq_ok.trans (exists_congr fun text => and_congr_right fun _ => ?_)
  refine bind_eq_ok.trans (exists_congr fun found => and_congr_right fun _ => ?_)
  refine bind_eq_ok.trans (exists_congr fun state => and_congr_right fun _ => ?_)
  exact ⟨Except.ok.inj, congrArg Except.ok⟩

/-- A run goes on by force just where the hashes differ: where there is no snapshot, it does not
come to a verdict. -/
theorem verdict_eq_forced_iff {s : Snapshot} {text : String} :
    verdict (Compatibility.check (some s) text) = "forced" ↔
      ∃ stored current, Compatibility.check (some s) text = .differs stored current := by
  rcases Compatibility.check_cases s text with ⟨-, hcheck⟩ | ⟨-, hcheck⟩ | ⟨_, -, -, hcheck⟩
  · simp [hcheck, verdict]
  · simp [hcheck, verdict]
  · simp [hcheck, verdict]

/-- What the command that checks a run gives, as seen from the gates of its store. -/
structure CheckAgrees (store : σ) (w : Workspace) (runId file : String) (force : Bool)
    (result : Transcript × Workspace) : Prop where
  unchanged : result.2 = w
  succeeds : result.1.ending.status = 0 ↔
    ∃ text state, w.text file = .ok text ∧ prepareResume store runId text force = .ok state
  prints : ∀ text state, w.text file = .ok text →
    prepareResume store runId text force = .ok state →
    ∃ s, read store runId = .ok (some s) ∧
      result.1.lines = checkLines runId (Compatibility.check (some s) text) state.1 state.2 ∧
      (result.1.lines.head? = some ("✓ Run '" ++ runId ++ "' can resume: forced") ↔
        ∃ stored current, Compatibility.check (some s) text = .differs stored current)
  refuses : result.1.ending.status ≠ 0 → result.1.ending.status = 1 ∧ result.1.lines = []

/-- Where the run can be resumed, the command shows what it found. -/
theorem runCheck_of_resumed {text : String} {state : RunContext × Conversation}
    (htext : w.text file = .ok text) (h : prepareResume store runId text force = .ok state) :
    ∃ s, read store runId = .ok (some s) ∧ runCheck store w runId file force =
      .ok (checkLines runId (Compatibility.check (some s) text) state.1 state.2) := by
  obtain ⟨s, hfind, -⟩ := SnapshotStore.prepareResume_eq_ok_iff.mp h
  obtain ⟨-, hread⟩ := SnapshotStore.find_eq_ok_iff.mp hfind
  exact ⟨s, hread, runCheck_eq_ok_iff.mpr ⟨text, htext, some s, hread, state, h, rfl⟩⟩

theorem head?_checkLines_eq_forced_iff {found : Compatibility} {ctx : RunContext}
    {conversation : Conversation} : (checkLines runId found ctx conversation).head? =
      some ("✓ Run '" ++ runId ++ "' can resume: forced") ↔ verdict found = "forced" := by
  have hcut : "✓ Run '" ++ runId ++ "' can resume: forced" =
      "✓ Run '" ++ runId ++ "' can resume: " ++ "forced" := by
    simp only [String.append_assoc]
    rfl
  rw [checkLines, List.head?_cons, Option.some.injEq, hcut, String.append_right_inj]

theorem checkAgrees_run (c : Config) (w : Workspace) (now : Instant) (runId file : String)
    (force : Bool) : CheckAgrees (c.store w) w runId file force
      ((checkRun runId file force).run c w now) := by
  cases hcheck : runCheck (c.store w) w runId file force with
  | error e =>
    have hrun : (checkRun runId file force).run c w now = (.failed e, w) := by
      simp only [run, hcheck]
    have hrefused : ∀ text state, w.text file = .ok text →
        prepareResume (c.store w) runId text force ≠ .ok state := by
      intro text state htext hprepare
      obtain ⟨s, -, hlines⟩ := runCheck_of_resumed htext hprepare
      simp [hcheck] at hlines
    rw [hrun]
    refine ⟨rfl, ⟨by simp [Transcript.failed, Ending.status], ?_⟩, ?_, fun _ => ⟨rfl, rfl⟩⟩
    · rintro ⟨text, state, htext, hprepare⟩
      exact absurd hprepare (hrefused text state htext)
    · intro text state htext hprepare
      exact absurd hprepare (hrefused text state htext)
  | ok lines =>
    have hrun : (checkRun runId file force).run c w now = (.ok lines, w) := by
      simp only [run, hcheck]
    rw [hrun]
    refine ⟨rfl, ⟨fun _ => ?_, fun _ => rfl⟩, ?_, fun hstatus => absurd rfl hstatus⟩
    · obtain ⟨text, htext, -, -, state, hprepare, -⟩ := runCheck_eq_ok_iff.mp hcheck
      exact ⟨text, state, htext, hprepare⟩
    · intro text state htext hprepare
      obtain ⟨s, hread, hlines⟩ := runCheck_of_resumed htext hprepare
      obtain rfl := Except.ok.inj (hcheck.symm.trans hlines)
      exact ⟨s, hread, rfl, head?_checkLines_eq_forced_iff.trans verdict_eq_forced_iff⟩

end Command

/-- All gates decide alike on whether a run may go on with a document, in either store and in the
one that the settings select. -/
theorem gates_agree :
    (∀ found text, Compatibility.check found text = .agrees ↔
      ∃ s, found = some s ∧ s.contentHash = some (contentHash text)) ∧
    (∀ (store : MemoryStore) (runId text : String), GatesAgree store runId text) ∧
    (∀ (store : FileStore) (runId text : String), GatesAgree store runId text) ∧
    (∀ (store : SelectedStore) (runId text : String), GatesAgree store runId text) ∧
    ∀ (args : List String) (path : String) (env : Environment) (w : Workspace) (now : Instant)
      (c : Config) (runId file : String) (force : Bool),
      Command.ofArguments args = .ok (.checkRun runId file force) →
      Command.settings w path env = .ok c →
      Command.CheckAgrees (c.store w) w runId file force
        (Command.carryOut args path env w now) := by
  refine ⟨fun found text => Compatibility.check_eq_agrees_iff,
    fun store runId => SnapshotStore.gatesAgree (store.read_ne_incompatible runId),
    fun store runId => SnapshotStore.gatesAgree (store.read_ne_incompatible runId),
    fun store runId => SnapshotStore.gatesAgree (store.read_ne_incompatible runId), ?_⟩
  intro args path env w now c runId file force hargs hsettings
  have hcarry : Command.carryOut args path env w now =
      (Command.checkRun runId file force).run c w now := by
    rw [Command.carryOut, hargs]
    simp only [hsettings]
  rw [hcarry]
  exact Command.checkAgrees_run c w now runId file force

/-- A run of a text that is not the document's. -/
def Snapshot.ofOtherText : Snapshot :=
  .capture { RunContext.bare "r" with workflowHash := some "" } [] none ⟨0, 0⟩

/-- The folder of the run. -/
def Folder.ofOtherRun : Folder := [("r.json", .file (some Snapshot.ofOtherText.render) ⟨0, 0⟩)]

/-- A document and the run, where the settings look for it. -/
def Workspace.withOtherRun : Workspace where
  root := [
    (".markflow", .folder [("state", .folder Folder.ofOtherRun)]),
    ("a.md", .file (some "Hello") ⟨0, 0⟩)]
  home := []

open Workspace (withOtherRun)

theorem gates_agree_of_other_run :
    (Command.carryOut ["resume", "check", "r", "a.md"] "config.toml" ⟨none, none⟩ withOtherRun
      ⟨0, 0⟩).1.ending.status = 1 ∧
    (Command.carryOut ["resume", "check", "r", "a.md", "-f"] "config.toml" ⟨none, none⟩ withOtherRun
      ⟨0, 0⟩).1.lines.head? = some "✓ Run 'r' can resume: forced" := by
  obtain ⟨-, -, -, hselected, hcommand⟩ := gates_agree
  have hsettings : Command.settings withOtherRun "config.toml" ⟨none, none⟩ = .ok .standard := by
    rfl
  have htext : withOtherRun.text "a.md" = .ok "Hello" := by rfl
  have hread : read (Config.standard.store withOtherRun) "r" = .ok (some .ofOtherText) := by
    have hentries : FileStore.entriesToWrite (Config.standard.store withOtherRun).files.site =
        .ok .ofOtherRun := by rfl
    have hback : Snapshot.ofOtherText.ReadsBack :=
      Snapshot.readsBack_of_blank rfl rfl rfl rfl Instant.readsBack_zero Instant.readsBack_zero
    have hfile : Folder.ofOtherRun.find? (Snapshot.fileName "r") =
        some (.file (some Snapshot.ofOtherText.render) ⟨0, 0⟩) := by rfl
    rw [SelectedStore.read_of_file rfl, FileStore.read_of_entries hentries rfl, hfile,
      FileStore.readNode_eq_ok_iff]
    exact ⟨_, _, rfl, hback⟩
  have hdiffers : Compatibility.check (some .ofOtherText) "Hello" =
      .differs "" (contentHash "Hello") := by
    decide +kernel
  obtain ⟨answer, hanswer, hfalse⟩ := (hselected _ "r" "Hello").answered _ rfl hread
  obtain rfl : answer = false := hfalse.mpr ⟨_, _, hdiffers⟩
  have hresumed := (hselected (Config.standard.store withOtherRun) "r" "Hello").resumed
  constructor
  · have hargs : Command.ofArguments ["resume", "check", "r", "a.md"] =
        .ok (.checkRun "r" "a.md" false) := by
      rfl
    have hagrees := hcommand _ "config.toml" _ _ ⟨0, 0⟩ _ _ _ _ hargs hsettings
    refine (hagrees.refuses ?_).1
    rw [Ne, hagrees.succeeds]
    rintro ⟨text, state, hfound, hprepare⟩
    obtain rfl : "Hello" = text := Except.ok.inj (htext.symm.trans hfound)
    obtain ⟨-, -, hforce | hcompatible, -⟩ := (hresumed false state).mp hprepare
    · simp at hforce
    · simp [hanswer] at hcompatible
  · have hargs : Command.ofArguments ["resume", "check", "r", "a.md", "-f"] =
        .ok (.checkRun "r" "a.md" true) := by
      rfl
    have hagrees := hcommand _ "config.toml" _ _ ⟨0, 0⟩ _ _ _ _ hargs hsettings
    have hload : load (Config.standard.store withOtherRun) "r" =
        .ok (some Snapshot.ofOtherText.restore) := by
      have hfind := SnapshotStore.find_eq_ok_iff.mpr ⟨rfl, hread⟩
      exact SnapshotStore.load_eq_ok_iff.mpr ⟨_, hfind, rfl⟩
    have hprepare := (hresumed true _).mpr ⟨rfl, ⟨_, hread⟩, Or.inl rfl, hload⟩
    obtain ⟨s, hshown, -, hforced⟩ := hagrees.prints _ _ htext hprepare
    obtain rfl : Snapshot.ofOtherText = s :=
      Option.some.inj (Except.ok.inj (hread.symm.trans hshown))
    exact hforced.mpr ⟨_, _, hdiffers⟩

end Runbook
