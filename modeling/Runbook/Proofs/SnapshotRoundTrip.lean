import Runbook.Proofs.CaptureRestore
import Runbook.Proofs.RecordEdits
import Runbook.Proofs.ValueReading

/-!
The format of snapshots. A snapshot is read from its text as it was written, unless it nests too
deep or holds a number that its own text does not give back; and what is read of a snapshot does
not depend on the order of its members, on members that it does not know, or on defaults that are
written out.
-/

namespace Runbook

namespace Snapshot

/-- The values that a stored snapshot can have: a format version of 32 bits, and variables that are
finite maps of JSON values. -/
structure WellFormed (s : Snapshot) : Prop where
  format : isNat32 s.formatVersion
  vars : Json.Canonical (.object s.vars)

theorem depthItems_le_one {α : Type} {toJson : α → Json} (h : ∀ a, (toJson a).depth = 1)
    (items : List α) : Json.depthItems (items.map toJson) ≤ 1 := by
  rw [Json.depthItems_le_iff]
  intro j hj
  obtain ⟨a, -, rfl⟩ := List.mem_map.mp hj
  exact (h a).le

theorem depth_option_text (o : Option String) : (Json.option (o.map .text)).depth = 0 := by
  cases o <;> rfl

theorem depth_message (m : StoredMessage) : m.toJson.depth = 1 := rfl

theorem depth_step (step : Step) : step.toJson.depth = 1 := by
  have hstop : (Json.option (step.stop.map Instant.toJson)).depth = 0 := by
    cases step.stop <;> rfl
  simp only [Step.toJson, Json.depth, Json.depthMembers, hstop, depth_option_text, Instant.toJson]
  rfl

/-- Three levels stand around the variables of a snapshot, and nothing else nests as deep. -/
theorem depth_toJson_lt_iff (s : Snapshot) :
    s.toJson.depth < 128 ↔ Json.depthMembers s.vars ≤ 124 := by
  have hmessages := depthItems_le_one depth_message s.messages
  have hhistory := depthItems_le_one depth_step s.history
  simp only [toJson, Json.depth, Json.depthMembers, depth_option_text, Instant.toJson, Json.int]
  omega

variable {s : Snapshot}

theorem rereadVars_eq_self_iff (h : Json.Canonical (.object s.vars)) :
    rereadVars s.vars = some s.vars ↔
      Json.depthMembers s.vars ≤ 124 ∧ ∀ x ∈ Json.floatsMembers s.vars, x.ReadsBack := by
  have hback := Json.backWithin (.object s.vars) h 125
  have hvalue : (Json.reread (.object s.vars)).toJson? 125 =
      (rereadVars s.vars).map .object := rfl
  rw [hvalue, Option.map_eq_some_iff] at hback
  simpa only [Json.object.injEq, exists_eq_right, Json.depth, Json.floats,
    Nat.add_le_add_iff_right (n := 1)] using hback

/-- What keeps a snapshot from being read back: its depth, or a floating-point number in it. -/
theorem readsBack_iff_depth (hs : s.WellFormed) (htimed : s.Timed) :
    s.ReadsBack ↔
      s.toJson.depth < 128 ∧ ∀ x ∈ Json.floatsMembers s.vars, x.ReadsBack := by
  rw [readsBack_iff htimed hs.format, rereadVars_eq_self_iff hs.vars, depth_toJson_lt_iff]

theorem read_edited {text edited : String} {a b : Source} (ha : Source.read text = some a)
    (hb : Source.read edited = some b) (h : Record.Edited .snapshot a b)
    (hread : Snapshot.read text = some s) : Snapshot.read edited = some s := by
  simp only [Snapshot.read, ofSource, ha, hb, Option.bind_eq_bind, Option.bind_some] at hread ⊢
  exact h.read_eq Json.maxLevels s hread

/-- The text of a snapshot that nests less than 128 levels gives it back, and what a text is read
as stays the same when its records are edited. -/
theorem format_round_trip :
    (∀ s : Snapshot, s.WellFormed → s.Timed →
      (∀ x ∈ Json.floatsMembers s.vars, x.ReadsBack) → s.toJson.depth < 128 →
        Snapshot.read s.render = some s) ∧
    ∀ (text edited : String) (a b : Source) (s : Snapshot), Source.read text = some a →
      Source.read edited = some b → Record.Edited .snapshot a b →
        Snapshot.read text = some s → Snapshot.read edited = some s :=
  ⟨fun _ hs htimed hfloats hdepth => (readsBack_iff_depth hs htimed).mpr ⟨hdepth, hfloats⟩,
    fun _ _ _ _ _ ha hb hedited hread => read_edited ha hb hedited hread⟩

/-- The members of `foreign` in another order, without the missing hash and with a note. -/
def rearranged : Json := .object [
  ("note", .array [.null]),
  ("workflow", .object [
    ("id", .text foreign.runId),
    ("filePath", .text foreign.filePath),
    ("startedAt", foreign.startedAt.toJson),
    ("lastCheckpoint", foreign.lastCheckpoint.toJson),
    ("status", .text foreign.status.name)]),
  ("formatVersion", .int foreign.formatVersion),
  ("conversationMessages", .array (foreign.messages.map StoredMessage.toJson)),
  ("executionContext", .object foreign.contextMembers)]

open Json (reread) in
theorem edited_rearranged : Record.Edited .snapshot (reread foreign.toJson) (reread rearranged) := by
  have hrun : Record.Edited .run (reread (.object foreign.runMembers)) _ :=
    .trans (.reorder (@List.perm_middle _ _ [_, _] _)) (.remove (fun _ => .contentHash) _)
  exact .trans (.reorder (.swap _ _ _))
    (.trans (.part .workflow _ hrun) (.add (by decide) (reread (.array [.null])) _))

theorem format_round_trip_of_foreign :
    Snapshot.read foreign.render = some foreign ∧
      Snapshot.read rearranged.render = some foreign := by
  have hsorted : foreign.vars.Sorted := by
    unfold Table.Sorted
    decide +kernel
  have hvars : Json.CanonicalMembers foreign.vars := by
    have hratio : (Binary64.ofBits 0x3ff8000000000000).isFinite = true := by decide
    simp [foreign, Json.int, Json.CanonicalMembers, Json.Canonical, Json.CanonicalItems,
      Table.Sorted, isInt64, isNat64, hratio]
  have hformed : foreign.WellFormed := ⟨by decide, hsorted, hvars⟩
  have htimed : foreign.Timed :=
    ⟨by decide +kernel, by decide +kernel, by decide +kernel, by
      intro step hstep
      obtain rfl := List.mem_singleton.mp hstep
      exact ⟨by decide +kernel, by decide +kernel⟩⟩
  have hfloats : ∀ x ∈ Json.floatsMembers foreign.vars, x.ReadsBack := by decide +kernel
  have hread := format_round_trip.1 foreign hformed htimed hfloats (by decide)
  exact ⟨hread, format_round_trip.2 _ _ _ _ foreign (Json.read_render foreign.toJson)
    (Json.read_render rearranged) edited_rearranged hread⟩

end Snapshot

end Runbook
