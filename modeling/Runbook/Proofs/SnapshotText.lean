import Mathlib.Data.List.Nodup
import Runbook.Proofs.TreeReading
import Runbook.Run.Codec

/-!
The text of a snapshot. Whatever its variables hold, it is read as a snapshot of the same run with
the same status, or not at all. Where its instants give themselves back, all of it but for the
variables is read as it was written; variables that nest too deep are not read at all.
-/

namespace Runbook

namespace Json

theorem rereadItems_eq (items : List Json) : rereadItems items = items.map reread := by
  induction items with
  | nil => rfl
  | cons item items ih => rw [rereadItems, List.map_cons, ih]

theorem rereadMembers_eq (members : List (String × Json)) :
    rereadMembers members = members.map fun member => (some member.1, reread member.2) := by
  induction members with
  | nil => rfl
  | cons member members ih => rw [rereadMembers, List.map_cons, ih]

namespace Members

theorem lookup_eq_none {fields : List (String × Source)} {key : String}
    (h : key ∉ fields.map Prod.fst) : fields.lookup key = none := by
  rw [List.lookup_eq_none_iff]
  intro field hfield
  rw [bne_iff_ne]
  rintro rfl
  exact h (List.mem_map_of_mem hfield)

theorem lookup_eq_some {fields : List (String × Source)} (hnodup : (fields.map Prod.fst).Nodup)
    {field : String × Source} (h : field ∈ fields) : fields.lookup field.1 = some field.2 := by
  induction fields with
  | nil => exact absurd h List.not_mem_nil
  | cons first rest ih =>
    rw [List.map_cons, List.nodup_cons] at hnodup
    rcases List.mem_cons.mp h with rfl | hrest
    · exact List.lookup_cons_self
    · have hne : field.1 ≠ first.1 := by
        intro heq
        exact hnodup.1 (heq ▸ List.mem_map_of_mem hrest)
      have hskip : (field.1 == first.1) = false := by simpa using hne
      rw [List.lookup_cons, hskip]
      exact ih hnodup.2 hrest

/-- Fields with different names are all taken up, the last one first. -/
theorem known?_fields {names : List String} {fields seen : List (String × Source)}
    (hnames : ∀ field ∈ fields, field.1 ∈ names)
    (hnodup : ((fields.reverse ++ seen).map Prod.fst).Nodup) :
    known? names seen (fields.map fun field => (some field.1, field.2)) =
      some (fields.reverse ++ seen) := by
  induction fields generalizing seen with
  | nil => rfl
  | cons field rest ih =>
    have hname : names.contains field.1 = true := by
      simpa using hnames field List.mem_cons_self
    have hshift : (field :: rest).reverse ++ seen = rest.reverse ++ field :: seen := by simp
    rw [hshift] at hnodup ⊢
    have hfresh : (seen.lookup field.1).isSome = false := by
      have htail : ((field :: seen).map Prod.fst).Nodup := by
        rw [List.map_append] at hnodup
        exact (List.nodup_append.mp hnodup).2.1
      rw [List.map_cons, List.nodup_cons] at htail
      rw [lookup_eq_none htail.1]
      rfl
    rw [List.map_cons, known?]
    simp only [Option.bind_eq_bind, Option.bind_some, hname, hfresh, if_true, Bool.false_eq_true,
      if_false]
    exact ih (fun other hother => hnames other (List.mem_cons_of_mem _ hother)) hnodup

/-- The fields of a record as they are read, in the order in which they are written. -/
def written (members : List (String × Json)) : List (String × Source) :=
  members.map fun member => (member.1, reread member.2)

theorem map_fst_written (members : List (String × Json)) :
    (written members).map Prod.fst = members.map Prod.fst := by
  rw [written, List.map_map]
  rfl

theorem rereadMembers_written (members : List (String × Json)) :
    rereadMembers members = (written members).map fun field => (some field.1, field.2) := by
  rw [rereadMembers_eq, written, List.map_map]
  rfl

/-- The fields that the text of a record gives are those that were written. -/
theorem read_object {names : List String} {members : List (String × Json)}
    (hnames : ∀ member ∈ members, member.1 ∈ names) (hnodup : (members.map Prod.fst).Nodup)
    (levels : Nat) : ∃ m, Members.read names (levels + 1) (reread (.object members)) = some m ∧
      m.levels = levels ∧
      ∀ key j, (key, j) ∈ members → m.fields.lookup key = some (reread j) := by
  have hkeys : (((written members).reverse ++ []).map Prod.fst).Nodup := by
    rw [List.append_nil, List.map_reverse, List.nodup_reverse, map_fst_written]
    exact hnodup
  have hknown :
      known? names [] (rereadMembers members) = some ((written members).reverse ++ []) := by
    rw [rereadMembers_written]
    apply known?_fields _ hkeys
    intro field hfield
    obtain ⟨member, hmember, rfl⟩ := List.mem_map.mp hfield
    exact hnames member hmember
  refine ⟨⟨levels, (written members).reverse ++ []⟩, ?_, rfl, ?_⟩
  · rw [reread, Members.read, inside, hknown]
    rfl
  · intro key j hmember
    have hfield : (key, reread j) ∈ (written members).reverse ++ [] := by
      rw [List.append_nil, List.mem_reverse]
      exact List.mem_map.mpr ⟨(key, j), hmember, rfl⟩
    exact lookup_eq_some hkeys hfield

theorem required_eq {α : Type} {m : Members} {name : String} {j : Json}
    (h : m.fields.lookup name = some (reread j)) (read : Reading α) :
    m.required name read = read m.levels (reread j) := by
  rw [required, h]
  rfl

theorem withDefault_eq {α : Type} {m : Members} {name : String} {j : Json}
    (h : m.fields.lookup name = some (reread j)) (default : α) (read : Reading α) :
    m.withDefault name default read = read m.levels (reread j) := by
  rw [withDefault, h]

end Members

/-- A list is read back whose items are. -/
theorem asList_reread {α : Type} {read : Reading α} {toJson : α → Json} {items : List α}
    {levels : Nat} (h : ∀ a ∈ items, read levels (reread (toJson a)) = some a) :
    asList read (levels + 1) (reread (.array (items.map toJson))) = some items := by
  rw [reread, asList, inside, rereadItems_eq, List.map_map]
  induction items with
  | nil => rfl
  | cons a items ih =>
    have hrest := ih fun b hb => h b (List.mem_cons_of_mem _ hb)
    rw [List.map_cons, List.mapM_cons, hrest, Function.comp, h a List.mem_cons_self]
    rfl

theorem asOption_text (levels : Nat) (o : Option String) :
    asOption asText levels (reread (.option (o.map .text))) = some o := by
  cases o <;> rfl

mutual

/-- A value that is read back does not nest deeper than the reader goes. -/
theorem depth_le : ∀ (j : Json) (levels : Nat) {k : Json},
    Source.toJson? levels (reread j) = some k → depth j ≤ levels
  | .null, levels, _, _ => Nat.zero_le levels
  | .bool _, levels, _, _ => Nat.zero_le levels
  | .number _, levels, _, _ => Nat.zero_le levels
  | .text _, levels, _, _ => Nat.zero_le levels
  | .array items, levels, k, h => by
    rw [reread, Source.toJson?] at h
    by_cases hzero : levels = 0
    · simp [hzero] at h
    · rw [if_neg hzero] at h
      obtain ⟨read, hread, -⟩ := Option.map_eq_some_iff.mp h
      have hitems := depthItems_le items (levels - 1) hread
      rw [depth]
      omega
  | .object members, levels, k, h => by
    rw [reread, Source.toJson?] at h
    by_cases hzero : levels = 0
    · simp [hzero] at h
    · rw [if_neg hzero] at h
      obtain ⟨read, hread, -⟩ := Option.map_eq_some_iff.mp h
      have hmembers := depthMembers_le members (levels - 1) hread
      rw [depth]
      omega

theorem depthItems_le : ∀ (items : List Json) (levels : Nat) {read : List Json},
    Source.toItems? levels (rereadItems items) = some read → depthItems items ≤ levels
  | [], levels, _, _ => Nat.zero_le levels
  | j :: rest, levels, read, h => by
    rw [rereadItems, Source.toItems?] at h
    simp only [Option.bind_eq_bind, Option.bind_eq_some_iff] at h
    obtain ⟨first, hfirst, others, hothers, -⟩ := h
    have hj := depth_le j levels hfirst
    have hrest := depthItems_le rest levels hothers
    rw [depthItems]
    omega

theorem depthMembers_le : ∀ (members : List (String × Json)) (levels : Nat)
    {seen read : Table Json},
    Source.toMembers? levels seen (rereadMembers members) = some read →
      depthMembers members ≤ levels
  | [], levels, _, _, _ => Nat.zero_le levels
  | (key, j) :: rest, levels, seen, read, h => by
    rw [rereadMembers, Source.toMembers?] at h
    simp only [Option.bind_eq_bind, Option.bind_some, Option.bind_eq_some_iff] at h
    obtain ⟨value, hvalue, hothers⟩ := h
    have hj := depth_le j levels hvalue
    have hrest := depthMembers_le rest levels hothers
    rw [depthMembers]
    omega

end

end Json

open Json (Members reread)

/-- The instant's text gives it back. -/
def Instant.ReadsBack (t : Instant) : Prop := Instant.read t.render = some t

instance (t : Instant) : Decidable t.ReadsBack :=
  inferInstanceAs (Decidable (Instant.read t.render = some t))

theorem Instant.readsBack_zero : Instant.ReadsBack ⟨0, 0⟩ := by decide +kernel

theorem Instant.fromJson_reread (t : Instant) (levels : Nat) :
    Instant.fromJson levels (reread t.toJson) = Instant.read t.render := by
  simp only [fromJson, toJson, reread, Json.asText, Option.bind_eq_bind, Option.bind_some]

theorem Instant.asOption_reread {o : Option Instant} (h : ∀ t ∈ o, t.ReadsBack) (levels : Nat) :
    Json.asOption Instant.fromJson levels (reread (.option (o.map Instant.toJson))) = some o := by
  cases o with
  | none => rfl
  | some t =>
    change (Instant.fromJson levels (reread t.toJson)).map some = some (some t)
    have hread : Instant.read t.render = some t := h t rfl
    rw [fromJson_reread, hread, Option.map_some]

/-- The instants of a step give themselves back. -/
def Step.ReadsBack (s : Step) : Prop := s.start.ReadsBack ∧ ∀ t ∈ s.stop, t.ReadsBack

theorem Step.fromJson_reread {s : Step} (h : s.ReadsBack) (levels : Nat) :
    Step.fromJson (levels + 1) (reread s.toJson) = some s := by
  obtain ⟨m, hread, -, hfields⟩ := @Members.read_object fieldNames
    [("stepName", .text s.name), ("stepType", .text s.type), ("startTime", s.start.toJson),
      ("endTime", .option (s.stop.map Instant.toJson)), ("success", .bool s.success),
      ("errorMessage", .option (s.error.map .text))] (by simp [fieldNames]) (by simp) levels
  have hname := hfields "stepName" (.text s.name) (by simp)
  have htype := hfields "stepType" (.text s.type) (by simp)
  have hstart := hfields "startTime" s.start.toJson (by simp)
  have hstop := hfields "endTime" (.option (s.stop.map Instant.toJson)) (by simp)
  have hsuccess := hfields "success" (.bool s.success) (by simp)
  have herror := hfields "errorMessage" (.option (s.error.map .text)) (by simp)
  have hinstant : Instant.read s.start.render = some s.start := h.1
  rw [fromJson, toJson, hread]
  simp only [Option.bind_eq_bind, Option.bind_some, Option.pure_def, Members.required_eq hname,
    Members.withDefault_eq htype, Members.required_eq hstart, Members.withDefault_eq hstop,
    Members.required_eq hsuccess, Members.withDefault_eq herror, Instant.fromJson_reread, hinstant,
    Instant.asOption_reread h.2, Json.asOption_text]
  rfl

/-- A message is read but for its timestamp, which is read from its own text. -/
theorem StoredMessage.fromJson_reread_eq (m : StoredMessage) (levels : Nat) :
    StoredMessage.fromJson (levels + 1) (reread m.toJson) =
      (Instant.read m.timestamp.render).map fun t => { m with timestamp := t } := by
  obtain ⟨fields, hread, -, hfields⟩ := @Members.read_object ["role", "content", "timestamp"]
    [("role", .text m.role), ("content", .text m.content), ("timestamp", m.timestamp.toJson)]
    (by simp) (by simp) levels
  have hrole := hfields "role" (.text m.role) (by simp)
  have hcontent := hfields "content" (.text m.content) (by simp)
  have htimestamp := hfields "timestamp" m.timestamp.toJson (by simp)
  rw [fromJson, toJson, hread]
  simp only [Option.bind_eq_bind, Option.bind_some, Option.pure_def, Members.required_eq hrole,
    Members.required_eq hcontent, Members.required_eq htimestamp, Instant.fromJson_reread]
  cases Instant.read m.timestamp.render <;> rfl

theorem StoredMessage.fromJson_reread {m : StoredMessage} (h : m.timestamp.ReadsBack)
    (levels : Nat) : StoredMessage.fromJson (levels + 1) (reread m.toJson) = some m := by
  have hinstant : Instant.read m.timestamp.render = some m.timestamp := h
  rw [fromJson_reread_eq, hinstant]
  rfl

namespace Snapshot

/-- The members of the part about the run as a whole. -/
def runMembers (s : Snapshot) : List (String × Json) :=
  [("id", .text s.runId),
    ("filePath", .text s.filePath),
    ("contentHash", .option (s.contentHash.map .text)),
    ("startedAt", s.startedAt.toJson),
    ("lastCheckpoint", s.lastCheckpoint.toJson),
    ("status", .text s.status.name)]

/-- The members of the part about what the run has done. -/
def contextMembers (s : Snapshot) : List (String × Json) :=
  [("currentStep", .option (s.currentStep.map .text)),
    ("variables", .object s.vars),
    ("executionHistory", .array (s.history.map Step.toJson))]

def members (s : Snapshot) : List (String × Json) :=
  [("formatVersion", .int s.formatVersion),
    ("workflow", .object s.runMembers),
    ("conversationMessages", .array (s.messages.map StoredMessage.toJson)),
    ("executionContext", .object s.contextMembers)]

theorem toJson_eq (s : Snapshot) : s.toJson = .object s.members := rfl

theorem status_fromJson (status : RunStatus) (levels : Nat) :
    RunStatus.fromJson levels (reread (.text status.name)) = some status := by
  cases status <;> rfl

/-- The part about the run is read but for its instants, which are read from their own texts. -/
theorem runPart_reread (s : Snapshot) (levels : Nat) :
    runPart (levels + 1) (reread (.object s.runMembers)) =
      (Instant.read s.startedAt.render).bind fun started =>
        (Instant.read s.lastCheckpoint.render).map fun checkpoint =>
          ⟨s.runId, s.filePath, s.contentHash, started, checkpoint, s.status⟩ := by
  obtain ⟨m, hread, -, hfields⟩ := @Members.read_object
    ["id", "filePath", "contentHash", "startedAt", "lastCheckpoint", "status"] s.runMembers
    (by simp [runMembers]) (by simp [runMembers]) levels
  have hid := hfields "id" (.text s.runId) (by simp [runMembers])
  have hpath := hfields "filePath" (.text s.filePath) (by simp [runMembers])
  have hhash := hfields "contentHash" (.option (s.contentHash.map .text)) (by simp [runMembers])
  have hstarted := hfields "startedAt" s.startedAt.toJson (by simp [runMembers])
  have hlast := hfields "lastCheckpoint" s.lastCheckpoint.toJson (by simp [runMembers])
  have hstatus := hfields "status" (.text s.status.name) (by simp [runMembers])
  rw [runPart, hread]
  simp only [Option.bind_eq_bind, Option.bind_some, Option.pure_def, Members.required_eq hid,
    Members.required_eq hpath, Members.withDefault_eq hhash, Members.required_eq hstarted,
    Members.required_eq hlast, Members.required_eq hstatus, Json.asOption_text,
    Instant.fromJson_reread, status_fromJson]
  cases Instant.read s.startedAt.render with
  | none => rfl
  | some started => cases Instant.read s.lastCheckpoint.render <;> rfl

/-- What the variables of a snapshot are read as, as deep down as they stand in it. -/
def rereadVars (vars : Table Json) : Option (Table Json) :=
  Json.asTable 125 (reread (.object vars))

/-- Variables that are read back leave room for the three levels that stand around them. -/
theorem depthMembers_le_of_rereadVars {vars read : Table Json}
    (h : rereadVars vars = some read) : Json.depthMembers vars ≤ 124 :=
  Json.depthMembers_le vars 124 h

def rereadHistory (history : List Step) : Option (List Step) :=
  Json.asList Step.fromJson 125 (reread (.array (history.map Step.toJson)))

theorem contextPart_reread (s : Snapshot) :
    contextPart 126 (reread (.object s.contextMembers)) =
      (rereadVars s.vars).bind fun vars =>
        (rereadHistory s.history).map fun history => ⟨s.currentStep, vars, history⟩ := by
  obtain ⟨m, hread, hlevels, hfields⟩ := @Members.read_object
    ["currentStep", "variables", "executionHistory"] s.contextMembers
    (by simp [contextMembers]) (by simp [contextMembers]) 125
  have hcurrent := hfields "currentStep" (.option (s.currentStep.map .text))
    (by simp [contextMembers])
  have hvars := hfields "variables" (.object s.vars) (by simp [contextMembers])
  have hhistory := hfields "executionHistory" (.array (s.history.map Step.toJson))
    (by simp [contextMembers])
  rw [contextPart, hread]
  simp only [Option.bind_eq_bind, Option.bind_some, Option.pure_def, hlevels,
    Members.withDefault_eq hcurrent, Members.withDefault_eq hvars, Members.withDefault_eq hhistory,
    Json.asOption_text, rereadVars, rereadHistory]
  cases Json.asTable 125 (reread (.object s.vars)) with
  | none => rfl
  | some vars =>
    cases Json.asList Step.fromJson 125 (reread (.array (s.history.map Step.toJson))) <;> rfl

def rereadMessages (messages : List StoredMessage) : Option (List StoredMessage) :=
  Json.asList StoredMessage.fromJson 126 (reread (.array (messages.map StoredMessage.toJson)))

/-- The text of a snapshot is read part by part. -/
theorem read_render (s : Snapshot) : Snapshot.read s.render =
    (Json.asNat isNat32 126 (reread (.int s.formatVersion))).bind fun formatVersion =>
      (runPart 126 (reread (.object s.runMembers))).bind fun run =>
        (rereadMessages s.messages).bind fun messages =>
          (contextPart 126 (reread (.object s.contextMembers))).map fun context =>
            { formatVersion, runId := run.id, filePath := run.filePath,
              contentHash := run.contentHash, startedAt := run.startedAt,
              lastCheckpoint := run.lastCheckpoint, status := run.status, messages,
              currentStep := context.currentStep, vars := context.vars,
              history := context.history } := by
  obtain ⟨m, hread, hlevels, hfields⟩ := @Members.read_object
    ["formatVersion", "workflow", "conversationMessages", "executionContext"] s.members
    (by simp [members]) (by simp [members]) 126
  have hformat := hfields "formatVersion" (.int s.formatVersion) (by simp [members])
  have hrun := hfields "workflow" (.object s.runMembers) (by simp [members])
  have hmessages := hfields "conversationMessages" (.array (s.messages.map StoredMessage.toJson))
    (by simp [members])
  have hcontext := hfields "executionContext" (.object s.contextMembers) (by simp [members])
  rw [read, render, Json.read_render, toJson_eq, Option.bind_eq_bind, Option.bind_some, ofSource,
    fromJson, Json.maxLevels, hread]
  simp only [Option.bind_eq_bind, Option.bind_some, Option.pure_def, hlevels,
    Members.withDefault_eq hformat, Members.required_eq hrun, Members.withDefault_eq hmessages,
    Members.withDefault_eq hcontext, rereadMessages, Option.map_eq_bind]
  rfl

/-- A snapshot's text is read as a snapshot of the same run in the same state, if as any. -/
theorem same_run_of_read {s other : Snapshot} (h : Snapshot.read s.render = some other) :
    other.runId = s.runId ∧ other.status = s.status ∧ other.filePath = s.filePath ∧
      other.contentHash = s.contentHash ∧ other.currentStep = s.currentStep := by
  simp only [read_render, runPart_reread, contextPart_reread, Option.bind_eq_some_iff,
    Option.map_eq_some_iff] at h
  obtain ⟨version, -, run, ⟨started, -, checkpoint, -, rfl⟩, messages, -, context,
    ⟨vars, -, history, -, rfl⟩, rfl⟩ := h
  exact ⟨rfl, rfl, rfl, rfl, rfl⟩

/-- The variables of what is read are those that the text of the snapshot's variables gives. -/
theorem vars_of_read {s other : Snapshot} (h : Snapshot.read s.render = some other) :
    rereadVars s.vars = some other.vars := by
  simp only [read_render, contextPart_reread, Option.bind_eq_some_iff,
    Option.map_eq_some_iff] at h
  obtain ⟨version, -, run, -, messages, -, context, ⟨vars, hvars, history, -, rfl⟩, rfl⟩ := h
  exact hvars

/-- Variables that nest too deep for the reader make the whole snapshot unreadable. -/
theorem read_render_of_deep {s : Snapshot} (h : 124 < Json.depthMembers s.vars) :
    Snapshot.read s.render = none := by
  rw [Option.eq_none_iff_forall_ne_some]
  intro other hread
  exact absurd (depthMembers_le_of_rereadVars (vars_of_read hread)) (Nat.not_le.mpr h)

/-- The instants of a snapshot that it has from its clock give themselves back. -/
structure Timed (s : Snapshot) : Prop where
  start : s.startedAt.ReadsBack
  checkpoint : s.lastCheckpoint.ReadsBack
  messages : ∀ m ∈ s.messages, m.timestamp.ReadsBack
  steps : ∀ step ∈ s.history, step.ReadsBack

theorem Timed.withVars {s : Snapshot} (h : s.Timed) (vars : Table Json) :
    { s with vars }.Timed := ⟨h.start, h.checkpoint, h.messages, h.steps⟩

theorem Timed.setStatus {s : Snapshot} (h : s.Timed) (status : RunStatus) {now : Instant}
    (hnow : now.ReadsBack) : (s.setStatus status now).Timed := ⟨h.start, hnow, h.messages, h.steps⟩

theorem format_reread {version : Nat} (h : isNat32 version) (levels : Nat) :
    Json.asNat isNat32 levels (reread (.int version)) = some version := by
  have hfits : isInt64 version = true ∨ isNat64 version = true := by
    refine Or.inr ?_
    simp only [isNat32, isNat64, Bool.and_eq_true, decide_eq_true_eq] at h ⊢
    omega
  rw [Json.int, reread, Json.numberSource_of_fits hfits, Json.asNat, if_pos h, Int.toNat_natCast]

theorem rereadMessages_of_readBack {messages : List StoredMessage}
    (h : ∀ m ∈ messages, m.timestamp.ReadsBack) : rereadMessages messages = some messages :=
  Json.asList_reread fun m hm => StoredMessage.fromJson_reread (h m hm) 124

/-- A snapshot in the current format is read as it was written but for its variables. -/
theorem read_render_of_timed {s : Snapshot} (h : s.Timed) (hversion : isNat32 s.formatVersion) :
    Snapshot.read s.render = (rereadVars s.vars).map fun vars => { s with vars } := by
  have hformat := format_reread hversion 126
  have hmessages := rereadMessages_of_readBack h.messages
  have hhistory : rereadHistory s.history = some s.history := by
    apply Json.asList_reread
    intro step hstep
    exact Step.fromJson_reread (h.steps step hstep) 123
  have hstart : Instant.read s.startedAt.render = some s.startedAt := h.start
  have hcheckpoint : Instant.read s.lastCheckpoint.render = some s.lastCheckpoint := h.checkpoint
  rw [read_render, hformat, runPart_reread, contextPart_reread, hstart, hcheckpoint, hmessages,
    hhistory]
  cases rereadVars s.vars <;> rfl

/-- The text of the snapshot is read as this very snapshot. -/
def ReadsBack (s : Snapshot) : Prop := Snapshot.read s.render = some s

theorem readsBack_iff {s : Snapshot} (h : s.Timed) (hversion : isNat32 s.formatVersion) :
    s.ReadsBack ↔ rereadVars s.vars = some s.vars := by
  rw [ReadsBack, read_render_of_timed h hversion]
  constructor
  · intro hback
    obtain ⟨vars, hvars, heq⟩ := Option.map_eq_some_iff.mp hback
    rw [hvars, ← congrArg Snapshot.vars heq]
  · intro hvars
    rw [hvars]
    rfl

/-- The snapshot of a run that has done nothing yet and has no variables reads back as soon as
its clock does. -/
theorem readsBack_of_blank {s : Snapshot} (hversion : s.formatVersion = currentFormat)
    (hmessages : s.messages = []) (hhistory : s.history = []) (hvars : s.vars = [])
    (hstart : s.startedAt.ReadsBack) (hcheckpoint : s.lastCheckpoint.ReadsBack) : s.ReadsBack := by
  have htimed : s.Timed := by
    refine ⟨hstart, hcheckpoint, ?_, ?_⟩
    · simp [hmessages]
    · simp [hhistory]
  have hformat : isNat32 s.formatVersion = true := by
    rw [hversion]
    rfl
  rw [readsBack_iff htimed hformat, hvars]
  rfl

end Snapshot

/-- What a number is read as that has been written. -/
def Json.rewritten? (n : Number) : Option Number :=
  match numberSource n with
  | .number m => m
  | _ => none

namespace Snapshot

variable {s : Snapshot} {name : String} {n m : Number}

theorem rereadVars_of_number (h : Json.rewritten? n = some m) :
    rereadVars [(name, .number n)] = some [(name, .number m)] := by
  have hsource : Json.numberSource n = .number (some m) := by
    unfold Json.rewritten? at h
    split at h
    · next back heq => rw [heq, h]
    · simp at h
  rw [rereadVars, reread, Json.rereadMembers, Json.rereadMembers, reread, hsource]
  rfl

/-- Where the only variable is a number, what the number is read as takes its place. -/
theorem read_render_of_number (h : s.Timed) (hversion : isNat32 s.formatVersion)
    (hvars : s.vars = [(name, .number n)]) (hread : Json.rewritten? n = some m) :
    Snapshot.read s.render = some { s with vars := [(name, .number m)] } := by
  rw [read_render_of_timed h hversion, hvars, rereadVars_of_number hread, Option.map_some]

end Snapshot

/-- Two numbers next to each other, of which each is read as the other one: the upper one is
written as `1e-30` and the lower one as `9.999999999999999e-31`. -/
def Binary64.lower : Binary64 := .ofBits 0x39b4484bfeebc29f

def Binary64.upper : Binary64 := .ofBits 0x39b4484bfeebc2a0

theorem Json.rewritten_upper : rewritten? (.float .upper) = some (.float .lower) := by
  decide +kernel

theorem Json.rewritten_lower : rewritten? (.float .lower) = some (.float .upper) := by
  decide +kernel

/-- A run without variables that has done nothing yet. -/
def RunContext.bare (runId : String) : RunContext := ⟨runId, "", none, ⟨0, 0⟩, none, [], []⟩

theorem Snapshot.readsBack_of_bare (runId : String) (status : RunStatus) :
    ((capture (.bare runId) [] none ⟨0, 0⟩).setStatus status ⟨0, 0⟩).ReadsBack :=
  readsBack_of_blank rfl rfl rfl rfl Instant.readsBack_zero Instant.readsBack_zero

end Runbook
