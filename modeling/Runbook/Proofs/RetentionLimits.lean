import Runbook.Command
import Runbook.Proofs.CalendarDates
import Runbook.Proofs.CleanupLaws
import Runbook.Proofs.HeaderValues

/-!
The age from which a snapshot is removed. An age that milliseconds cannot hold is refused; any
other is taken off the time of the clock, and where that leads out of the calendar, the cutoff is
the start of the calendar. No snapshot is from before that, so the comparison comes out as it
would without bounds. No number of days that the settings or the arguments can give is too large.
-/

namespace Runbook

namespace Instant

/-- Earlier instants are of no later years. -/
theorem year_date_le {a b : Instant} (h : a.seconds ≤ b.seconds) : a.date.year ≤ b.date.year :=
  Date.year_ofDays_le (Int.ediv_le_ediv (by decide) h)

theorem inRange_iff {t : Instant} :
    t.inRange = true ↔ -262143 ≤ t.date.year ∧ t.date.year ≤ 262142 := by
  simp [inRange, yearInRange]

theorem earliest_le_of_inRange {t : Instant} (h : t.inRange = true) :
    earliest.seconds ≤ t.seconds := by
  by_contra hlt
  have hbefore : t.seconds ≤ (⟨earliest.seconds - 1, 0⟩ : Instant).seconds := by
    change t.seconds ≤ earliest.seconds - 1
    omega
  have hlast : (⟨earliest.seconds - 1, 0⟩ : Instant).date.year = -262144 := by decide +kernel
  have hyear := year_date_le hbefore
  have hlow := (inRange_iff.mp h).1
  omega

theorem inRange_of_le {t now : Instant} (hnow : now.inRange = true)
    (hlow : earliest.seconds ≤ t.seconds) (hhigh : t.seconds ≤ now.seconds) :
    t.inRange = true := by
  have hfirst : earliest.date.year = -262143 := by decide +kernel
  have hafter := year_date_le hlow
  have hbefore := year_date_le hhigh
  have hlast := (inRange_iff.mp hnow).2
  exact inRange_iff.mpr ⟨by omega, by omega⟩

theorem minus_le (t : Instant) (age : Duration) : (t.minus age).seconds ≤ t.seconds := by
  unfold minus
  split
  · change t.seconds - age.seconds - 1 ≤ t.seconds
    omega
  · change t.seconds - age.seconds ≤ t.seconds
    omega

theorem minus_ofSeconds (t : Instant) (n : Nat) :
    t.minus (.ofSeconds n) = t.addSeconds (-n) := by
  have hnanos : ¬ t.nanos < (Duration.ofSeconds n).nanos := Nat.not_lt_zero _
  rw [minus, if_neg hnanos]
  rfl

end Instant

/-- The longest age is the largest signed 64-bit number of milliseconds. -/
theorem Duration.longerThan_maxAge_iff {age : Duration} :
    age.longerThan SnapshotStore.maxAge = true ↔
      (2 ^ 63 - 1) * 1000000 < age.seconds * 1000000000 + age.nanos := by
  have hnanos := age.nanos_lt
  have hmaxSeconds : SnapshotStore.maxAge.seconds = 9223372036854775 := rfl
  have hmaxNanos : SnapshotStore.maxAge.nanos = 807000000 := rfl
  simp only [longerThan, Bool.or_eq_true, Bool.and_eq_true, decide_eq_true_eq, beq_iff_eq]
  omega

namespace SnapshotStore

/-- The bound of the calendar makes no difference to any instant within it. -/
theorem before_cutoff {now modified : Instant} (hnow : now.inRange = true)
    (hmodified : modified.inRange = true) (age : Duration) :
    modified.before (cutoff now age) = modified.before (now.minus age) := by
  simp only [cutoff]
  split
  · rfl
  · next hout =>
    have hearly : (now.minus age).seconds < Instant.earliest.seconds := by
      by_contra hlate
      exact hout (Instant.inRange_of_le hnow (Int.not_lt.mp hlate) (now.minus_le age))
    have hstart := Instant.earliest_le_of_inRange hmodified
    have hnanos : Instant.earliest.nanos = 0 := rfl
    have hclamped : modified.before .earliest = false := by
      rw [Instant.not_before_iff]
      omega
    rw [hclamped, Instant.not_before_iff.mpr (Or.inl (by omega))]

variable {σ : Type} [SnapshotStore σ]

theorem removeOlder_of_short {age : Duration} (h : ¬ age.longerThan maxAge = true) (store : σ)
    (now : Instant) : removeOlder store age now = removeBefore store (cutoff now age) := by
  rw [removeOlder, if_neg h]

/-- Four thousand million days are not too long. -/
theorem cleanup_of_days {days : Nat} (hdays : days < 2 ^ 32) (store : σ) (now : Instant) :
    cleanup store (days * 86400) now =
      removeBefore store (cutoff now (.ofSeconds (days * 86400))) := by
  apply removeOlder_of_short
  rw [Duration.longerThan_maxAge_iff]
  change ¬ _ < days * 86400 * 1000000000 + 0
  omega

end SnapshotStore

theorem isNat32_iff {n : Int} : isNat32 n = true ↔ 0 ≤ n ∧ n < 2 ^ 32 := by
  rw [isNat32, Bool.and_eq_true, decide_eq_true_eq, decide_eq_true_eq]
  rfl

namespace Config

theorem asNat32_lt {v : Toml} {n : Nat} (h : asNat32 v = some n) : n < 2 ^ 32 := by
  cases v with
  | int value =>
    simp only [asNat32, Option.ite_none_right_eq_some, Option.some.injEq, isNat32_iff] at h
    omega
  | _ => simp [asNat32] at h

theorem retentionDays_of_readResume {c d : Config} {v : Toml} (hc : c.retentionDays < 2 ^ 32)
    (h : readResume c v = some d) : d.retentionDays < 2 ^ 32 := by
  simp only [readResume, Option.bind_eq_bind, Option.bind_eq_some_iff, Option.pure_def] at h
  obtain ⟨fields, -, backend, -, stateDir, -, days, hdays, hd⟩ := h
  obtain rfl := Option.some.inj hd
  unfold field at hdays
  split at hdays
  · obtain rfl := Option.some.inj hdays
    exact hc
  · exact asNat32_lt hdays

theorem retentionDays_of_readValidation {c d : Config} {v : Toml}
    (h : readValidation c v = some d) : d.retentionDays = c.retentionDays := by
  simp only [readValidation, Option.bind_eq_bind, Option.bind_eq_some_iff, Option.pure_def] at h
  obtain ⟨fields, -, extraTools, -, nested, -, hd⟩ := h
  obtain rfl := Option.some.inj hd
  rfl

theorem retentionDays_of_read {text : String} {c : Config} (h : read text = some c) :
    c.retentionDays < 2 ^ 32 := by
  simp only [read, ofTables, Option.bind_eq_bind, Option.bind_eq_some_iff] at h
  obtain ⟨tables, -, resumed, hresume, hvalidation⟩ := h
  have hresumed : resumed.retentionDays < 2 ^ 32 := by
    unfold field at hresume
    split at hresume
    · obtain rfl := Option.some.inj hresume
      decide
    · exact retentionDays_of_readResume (by decide) hresume
  unfold field at hvalidation
  split at hvalidation
  · obtain rfl := Option.some.inj hvalidation
    exact hresumed
  · rw [retentionDays_of_readValidation hvalidation]
    exact hresumed

theorem retentionDays_of_load {w : Workspace} {path : String} {c : Config}
    (h : load w path = .ok c) : c.retentionDays < 2 ^ 32 := by
  unfold load at h
  split at h
  · obtain rfl := Except.ok.inj h
    decide
  · split at h
    · next hread =>
      obtain rfl := Except.ok.inj h
      exact retentionDays_of_read hread
    · simp at h
  · simp at h

theorem retentionDays_of_backend {c d : Config} {backend : Option String}
    (h : c.withEnvironment ⟨none, backend⟩ = .ok d) : d.retentionDays = c.retentionDays := by
  cases backend with
  | none =>
    obtain rfl := Except.ok.inj h
    rfl
  | some name =>
    simp only [withEnvironment] at h
    split at h
    · obtain rfl := Except.ok.inj h
      rfl
    · obtain ⟨chosen, -, hd⟩ := bind_eq_ok.mp h
      obtain rfl := Except.ok.inj hd
      rfl

/-- The environment does not say for how long snapshots are kept. -/
theorem retentionDays_of_environment {c d : Config} {env : Environment}
    (h : c.withEnvironment env = .ok d) : d.retentionDays = c.retentionDays := by
  obtain ⟨stateDir, backend⟩ := env
  cases stateDir with
  | none => exact retentionDays_of_backend h
  | some dir =>
    have hplaced : (if dir.isEmpty then c else { c with stateDir := dir }).withEnvironment
        ⟨none, backend⟩ = .ok d := h
    rw [retentionDays_of_backend hplaced]
    split <;> rfl

end Config

namespace Command

theorem readDays_lt {s : String} {n : Nat} (h : readDays s = some n) : n < 2 ^ 32 := by
  simp only [readDays, Option.bind_eq_bind, Option.bind_eq_some_iff,
    Option.ite_none_right_eq_some, Option.some.injEq, Bool.and_eq_true, isNat32_iff] at h
  obtain ⟨value, -, ⟨⟨-, hbound⟩, -⟩, rfl⟩ := h
  exact_mod_cast hbound

theorem retentionDays_of_settings {w : Workspace} {path : String} {env : Environment} {c : Config}
    (h : settings w path env = .ok c) : c.retentionDays < 2 ^ 32 := by
  obtain ⟨loaded, hload, henv⟩ := bind_eq_ok.mp h
  rw [Config.retentionDays_of_environment henv]
  exact Config.retentionDays_of_load hload

theorem days_of_readResume {args : List String} {days : Nat}
    (h : readResume args = .ok (.cleanRuns (some days))) : days < 2 ^ 32 := by
  unfold readResume at h
  split at h
  · obtain ⟨t, -, ht⟩ := bind_eq_ok.mp h
    cases ht
  · obtain ⟨t, -, ht⟩ := bind_eq_ok.mp h
    split at ht <;> cases ht
  · obtain ⟨t, -, ht⟩ := bind_eq_ok.mp h
    have hdays : (t.value? "days").bind readDays = some days :=
      Command.cleanRuns.inj (Except.ok.inj ht)
    obtain ⟨s, -, hs⟩ := Option.bind_eq_some_iff.mp hdays
    exact readDays_lt hs
  · cases h
  · obtain ⟨t, -, ht⟩ := bind_eq_ok.mp h
    cases ht

theorem days_of_arguments {args : List String} {days : Nat}
    (h : ofArguments args = .ok (.cleanRuns (some days))) : days < 2 ^ 32 := by
  unfold ofArguments at h
  split at h
  · obtain ⟨t, -, ht⟩ := bind_eq_ok.mp h
    split at ht <;> cases ht
  · obtain ⟨t, -, ht⟩ := bind_eq_ok.mp h
    split at ht <;> cases ht
  · exact days_of_readResume h
  · cases h
  · obtain ⟨t, -, ht⟩ := bind_eq_ok.mp h
    cases ht

/-- Cleaning up files prints how many snapshots went, and changes nothing but their folder. -/
theorem carryOut_cleanRuns {args : List String} {path : String} {env : Environment}
    {w : Workspace} {now : Instant} {days : Option Nat} {c : Config} {count : Nat}
    {after : FileStore} (hargs : ofArguments args = .ok (.cleanRuns days))
    (hsettings : settings w path env = .ok c) (hbackend : c.backend = .file)
    (hclean : SnapshotStore.cleanup (⟨c.stateDir, w.site c.stateDir, false⟩ : FileStore)
      (days.getD c.retentionDays * 86400) now = (.ok count, after)) :
    carryOut args path env w now =
      (.ok ["Removed " ++ toString count ++ " snapshot(s)"], w.withSite c.stateDir after.site) := by
  have hseconds : (days.map (· * 86400)).getD c.retentionSeconds =
      days.getD c.retentionDays * 86400 := by
    cases days <;> rfl
  have hselected : SnapshotStore.cleanup (c.store w) (days.getD c.retentionDays * 86400) now =
      (.ok count, (c.store w).withFiles after) := by
    simp only [SnapshotStore.cleanup, SnapshotStore.removeOlder] at hclean ⊢
    split at hclean
    · simp at hclean
    · next hshort =>
      rw [if_neg hshort]
      change (c.store w).act _ = _
      have hfiles : (c.store w).files = ⟨c.stateDir, w.site c.stateDir, false⟩ := rfl
      rw [SelectedStore.act, show (c.store w).backend = .file from hbackend]
      simp only [hfiles, hclean]
  rw [carryOut, hargs]
  simp only [hsettings, run, runClean, hseconds, hselected]
  rfl

end Command

open SnapshotStore (removeBefore removeOlder cleanup cutoff)

/-- Whether an instant lies more than so many days before now, in a calendar without bounds. -/
def Instant.outdated (now : Instant) (days : Nat) (modified : Instant) : Bool :=
  modified.before (now.addSeconds (-(days * 86400 : Nat)))

theorem Instant.outdated_of_le {now modified : Instant} {days longer : Nat} (hle : days ≤ longer)
    (h : now.outdated longer modified = true) : now.outdated days modified = true := by
  have horder : (now.addSeconds (-(days * 86400 : Nat))).before
      (now.addSeconds (-(longer * 86400 : Nat))) = false := by
    rw [not_before_iff]
    simp only [addSeconds]
    omega
  exact before_of_le horder h

theorem SnapshotStore.before_cutoff_of_days {now modified : Instant} (hnow : now.inRange = true)
    (hmodified : modified.inRange = true) (days : Nat) :
    modified.before (cutoff now (.ofSeconds (days * 86400))) = now.outdated days modified := by
  rw [before_cutoff hnow hmodified, Instant.minus_ofSeconds]
  rfl

/-- Cleaning up by a number of days takes away just the outdated ones of the snapshots whose last
change the calendar has. -/
structure Retains {σ α : Type} [SnapshotStore σ] (held? : σ → String → Option α)
    (ChangedAt : String → α → Instant → Prop) (now : Instant) (store : σ) : Prop where
  outdated : ∀ days < 2 ^ 32, ∃ count after, cleanup store (days * 86400) now = (.ok count, after) ∧
    ∀ name entry modified, held? store name = some entry → ChangedAt name entry modified →
      modified.inRange = true →
      held? after name = if now.outdated days modified then none else some entry
  longer : ∀ days longer count more after last, days ≤ longer → longer < 2 ^ 32 →
    cleanup store (days * 86400) now = (.ok count, after) →
    cleanup store (longer * 86400) now = (.ok more, last) →
    ∀ name entry modified, held? store name = some entry → ChangedAt name entry modified →
      modified.inRange = true → held? after name = some entry → held? last name = some entry

theorem CleansUp.retains {σ α : Type} [SnapshotStore σ] {held? : σ → String → Option α}
    {Expired : Instant → String → α → Prop} {IsSnapshot : String → Prop}
    {ChangedAt : String → α → Instant → Prop} {now : Instant} {store : σ}
    (h : CleansUp held? Expired IsSnapshot store) (hnow : now.inRange = true)
    (hexpired : ∀ cutoff name entry modified, ChangedAt name entry modified →
      (Expired cutoff name entry ↔ modified.before cutoff = true)) :
    Retains held? ChangedAt now store := by
  have houtdated : ∀ days < 2 ^ 32, ∃ count after,
      cleanup store (days * 86400) now = (.ok count, after) ∧
      ∀ name entry modified, held? store name = some entry → ChangedAt name entry modified →
        modified.inRange = true →
        held? after name = if now.outdated days modified then none else some entry := by
    intro days hdays
    obtain ⟨count, after, hremove, hcleaned⟩ := h.once (cutoff now (.ofSeconds (days * 86400)))
    refine ⟨count, after, (SnapshotStore.cleanup_of_days hdays store now).trans hremove, ?_⟩
    intro name entry modified hentry hchanged hmodified
    have hiff := hexpired (cutoff now (.ofSeconds (days * 86400))) name entry modified hchanged
    rw [SnapshotStore.before_cutoff_of_days hnow hmodified] at hiff
    split
    · next hold => exact hcleaned.gone name entry hentry (hiff.mpr hold)
    · next hfresh =>
      rw [hcleaned.kept name, hentry]
      intro found hfound hgone
      obtain rfl : entry = found := Option.some.inj (hentry.symm.trans hfound)
      exact hfresh (hiff.mp hgone)
  refine ⟨houtdated, ?_⟩
  intro days longer count more after last hle hlonger hshort hlong name entry modified hentry
    hchanged hmodified hkept
  obtain ⟨_, _, hshort', hafter⟩ := houtdated days (by omega)
  obtain ⟨-, rfl⟩ := Prod.mk.inj (hshort.symm.trans hshort')
  obtain ⟨_, _, hlong', hlast⟩ := houtdated longer hlonger
  obtain ⟨-, rfl⟩ := Prod.mk.inj (hlong.symm.trans hlong')
  have hfresh : ¬ now.outdated days modified = true := by
    intro hold
    rw [hafter name entry modified hentry hchanged hmodified, if_pos hold] at hkept
    simp at hkept
  rw [hlast name entry modified hentry hchanged hmodified,
    if_neg fun hold => hfresh (Instant.outdated_of_le hle hold)]

open Snapshot (NamesSnapshot)

/-- When the snapshot of a run was last changed is for its file to say. -/
def FileStore.ChangedAt (name : String) (node : Node) (modified : Instant) : Prop :=
  NamesSnapshot name ∧ ∃ text, node = .file text modified

theorem FileStore.retains {store : FileStore} {entries : Folder} {now : Instant}
    (hnow : now.inRange = true) (hdir : store.dir ≠ "") (hsite : store.site = .folder entries)
    (h : entries.Sorted) : Retains nodeAt? ChangedAt now store := by
  apply (FileStore.cleansUp hdir hsite h).retains hnow
  rintro cutoff name node modified ⟨hname, text, rfl⟩
  exact and_iff_right (Or.inl hname)

theorem MemoryStore.retains {store : MemoryStore} {now : Instant} (hnow : now.inRange = true)
    (h : store.snapshots.Sorted) :
    Retains (fun store runId => store.snapshots.find? runId)
      (fun _ s modified => s.lastCheckpoint = modified) now store := by
  apply (MemoryStore.cleansUp h).retains hnow
  rintro cutoff runId s modified rfl
  rfl

/-- Cleaning up by days is exact for every number of days that settings or arguments can give, in
memory and in a folder with a path; where there is no folder or it has no path, nothing is taken
away. An age that milliseconds cannot hold is refused, and any other is compared as it would be
without bounds. -/
theorem retention_exact {now : Instant} (hnow : now.inRange = true) :
    (∀ store : MemoryStore, store.snapshots.Sorted →
      Retains (fun store runId => store.snapshots.find? runId)
        (fun _ s modified => s.lastCheckpoint = modified) now store) ∧
    (∀ (store : FileStore) (entries : Folder), store.dir ≠ "" → store.site = .folder entries →
      entries.Sorted → Retains FileStore.nodeAt? FileStore.ChangedAt now store) ∧
    (∀ store : FileStore, store.dir = "" ∨ store.site = .absent →
      ∀ days < 2 ^ 32, cleanup store (days * 86400) now = (.ok 0, store)) ∧
    (∀ {σ : Type} [SnapshotStore σ] (store : σ) (days : Nat), days < 2 ^ 32 →
      days * 86400 < 2 ^ 64 ∧ cleanup store (days * 86400) now =
        removeBefore store (cutoff now (.ofSeconds (days * 86400)))) ∧
    (∀ {σ : Type} [SnapshotStore σ] (store : σ) (age : Duration),
      (2 ^ 63 - 1) * 1000000 < age.seconds * 1000000000 + age.nanos →
      removeOlder store age now =
        (.error (.config ("retention " ++ age.render ++ " is out of range: " ++
          "Source duration value is out of range for the target type")), store)) ∧
    (∀ {σ : Type} [SnapshotStore σ] (store : σ) (age : Duration),
      age.seconds * 1000000000 + age.nanos ≤ (2 ^ 63 - 1) * 1000000 →
      removeOlder store age now = removeBefore store (cutoff now age) ∧
      ∀ modified : Instant, modified.inRange = true →
        modified.before (cutoff now age) = modified.before (now.minus age)) ∧
    ∀ (args : List String) (path : String) (env : Environment) (w : Workspace)
      (days : Option Nat) (c : Config), Command.ofArguments args = .ok (.cleanRuns days) →
      Command.settings w path env = .ok c →
      days.getD c.retentionDays < 2 ^ 32 ∧
      (c.backend = .file → ∀ count after,
        cleanup (⟨c.stateDir, w.site c.stateDir, false⟩ : FileStore)
          (days.getD c.retentionDays * 86400) now = (.ok count, after) →
        Command.carryOut args path env w now =
          (.ok ["Removed " ++ toString count ++ " snapshot(s)"],
            w.withSite c.stateDir after.site)) := by
  refine ⟨fun store h => MemoryStore.retains hnow h,
    fun store entries hdir hsite h => FileStore.retains hnow hdir hsite h, ?_, ?_, ?_, ?_, ?_⟩
  · intro store hunlisted days hdays
    rw [SnapshotStore.cleanup_of_days hdays]
    exact FileStore.removeBefore_of_unlisted hunlisted _
  · intro σ _ store days hdays
    exact ⟨by omega, SnapshotStore.cleanup_of_days hdays store now⟩
  · intro σ _ store age hlong
    rw [removeOlder, if_pos (Duration.longerThan_maxAge_iff.mpr hlong)]
  · intro σ _ store age hshort
    refine ⟨SnapshotStore.removeOlder_of_short ?_ store now,
      fun modified hmodified => SnapshotStore.before_cutoff hnow hmodified age⟩
    rw [Duration.longerThan_maxAge_iff]
    omega
  · intro args path env w days c hargs hsettings
    refine ⟨?_, fun hbackend count after hclean =>
      Command.carryOut_cleanRuns hargs hsettings hbackend hclean⟩
    cases days with
    | none => exact Command.retentionDays_of_settings hsettings
    | some days => exact Command.days_of_arguments hargs

open FileStore (begun stateFolder pathless)

theorem retention_exact_of_littered :
    (⟨100, 0⟩ : Instant).inRange = true ∧
    (∃ count after, cleanup stateFolder (0 * 86400) ⟨100, 0⟩ = (.ok count, after) ∧
      after.nodeAt? "r.json" = none) ∧
    (∃ count after, cleanup stateFolder (4294967295 * 86400) ⟨100, 0⟩ = (.ok count, after) ∧
      after.nodeAt? "r.json" = some (.file (some begun.render) ⟨0, 0⟩)) ∧
    removeOlder stateFolder ⟨9223372036854776, 0, by decide⟩ ⟨100, 0⟩ =
      (.error (.config ("retention 9223372036854776s is out of range: " ++
        "Source duration value is out of range for the target type")), stateFolder) := by
  have hnow : (⟨100, 0⟩ : Instant).inRange = true := by decide +kernel
  have hstart : (⟨0, 0⟩ : Instant).inRange = true := by decide +kernel
  obtain ⟨-, hfolder, -, -, hlong, -⟩ := retention_exact hnow
  have hretains := hfolder stateFolder _ (by decide) rfl FileStore.sorted_littered
  have hchanged : FileStore.ChangedAt "r.json" (.file (some begun.render) ⟨0, 0⟩) ⟨0, 0⟩ :=
    ⟨⟨"r", rfl, rfl⟩, _, rfl⟩
  have hnode : stateFolder.nodeAt? "r.json" = some (.file (some begun.render) ⟨0, 0⟩) := rfl
  refine ⟨hnow, ?_, ?_, hlong stateFolder _ (by decide)⟩
  · obtain ⟨count, after, hclean, hafter⟩ := hretains.outdated 0 (by decide)
    exact ⟨count, after, hclean, hafter "r.json" _ ⟨0, 0⟩ hnode hchanged hstart⟩
  · obtain ⟨count, after, hclean, hafter⟩ := hretains.outdated 4294967295 (by decide)
    exact ⟨count, after, hclean, hafter "r.json" _ ⟨0, 0⟩ hnode hchanged hstart⟩

/-- In a folder without a path a snapshot outlives every retention. -/
theorem pathless_snapshot_outlives_retention :
    cleanup pathless (0 * 86400) ⟨100, 0⟩ = (.ok 0, pathless) ∧
    ¬ Retains FileStore.nodeAt? FileStore.ChangedAt ⟨100, 0⟩ pathless := by
  have hclean : cleanup pathless (0 * 86400) ⟨100, 0⟩ = (.ok 0, pathless) := by
    rw [SnapshotStore.cleanup_of_days (by decide)]
    exact FileStore.removeBefore_of_unlisted (Or.inl rfl) _
  refine ⟨hclean, ?_⟩
  intro hretains
  have hnode : pathless.nodeAt? "r.json" = some (.file (some begun.render) ⟨0, 0⟩) := rfl
  obtain ⟨count, after, hafter, hgone⟩ := hretains.outdated 0 (by decide)
  obtain ⟨-, rfl⟩ := Prod.mk.inj (hclean.symm.trans hafter)
  have hleft := hgone "r.json" _ ⟨0, 0⟩ hnode ⟨⟨"r", rfl, rfl⟩, _, rfl⟩ (by decide +kernel)
  rw [hnode, if_pos (by decide)] at hleft
  simp at hleft

end Runbook
