import Runbook.Run.Snapshot

/-!
What a checkpoint keeps of a run. Restoring a captured run gives the run back, but for its
start where an earlier snapshot has one; capturing a restored snapshot again gives the same
run however often it is done, also where its roles and numbers are no native ones.
-/

namespace Runbook

namespace Binary64

theorem magnitude_withSign (negative : Bool) {m : Nat} (h : m < twoTo 63) :
    (withSign negative m).magnitude = m := by
  have hbound : twoTo 63 = 9223372036854775808 := by decide
  rw [hbound] at h
  cases negative <;>
    simp only [withSign, ofBits, magnitude, UInt64.toNat_ofNat', Bool.false_eq_true, if_false,
      if_true, hbound] <;>
    omega

/-- The quotient that is rounded has at most 54 digits. -/
theorem scaled_lt {num : Nat} {e : Int} (h : (num.log2 : Int) - 53 ≤ e) :
    (if 0 ≤ e then num / (1 * twoTo e.toNat) else num * twoTo (-e).toNat / 1) < twoTo 54 := by
  have hnum : num < 2 ^ (num.log2 + 1) := Nat.lt_log2_self
  split
  case isTrue he =>
    refine Nat.div_lt_of_lt_mul (Nat.lt_of_lt_of_le hnum ?_)
    calc 2 ^ (num.log2 + 1) ≤ 2 ^ (e.toNat + 54) := Nat.pow_le_pow_right (by omega) (by omega)
      _ = 1 * twoTo e.toNat * 2 ^ 54 := by rw [Nat.pow_add, Nat.one_mul]; rfl
  case isFalse he =>
    rw [Nat.div_one]
    calc num * twoTo (-e).toNat
        < 2 ^ (num.log2 + 1) * 2 ^ (-e).toNat :=
          Nat.mul_lt_mul_of_pos_right hnum (Nat.pow_pos (by omega))
      _ = 2 ^ (num.log2 + 1 + (-e).toNat) := (Nat.pow_add ..).symm
      _ ≤ 2 ^ 54 := Nat.pow_le_pow_right (by omega) (by omega)

theorem nearestBits_lt {num : Nat} (h : num < twoTo 64) :
    nearestBits num 1 < infinityBits := by
  have hlog : num.log2 < 64 := by
    rcases Nat.eq_zero_or_pos num with rfl | hpos
    · decide
    · exact (Nat.log2_lt (by omega)).2 h
  unfold nearestBits
  split
  · decide
  · extract_lets low quotient e
    have hden : (1 : Nat).log2 = 0 := by decide
    have hlow : (num.log2 : Int) - 53 ≤ low ∧ low ≤ 10 := by omega
    have he : low ≤ e ∧ e ≤ low + 1 := by
      simp only [e]
      split <;> omega
    have hq : (quotient e).1 / (quotient e).2 < 2 ^ 54 := by
      change _ < twoTo 54
      have hscaled := @scaled_lt num e (by omega)
      simp only [quotient]
      split <;> simp_all
    generalize quotient e = q at hq
    obtain ⟨n, d⟩ := q
    simp only at hq
    have hbits : (e + 1074).toNat ≤ 1085 := by omega
    simp only [infinityBits]
    have hunit : twoTo 52 = 4503599627370496 := by decide
    rw [hunit]
    split <;> omega

/-- No integer of 64 bits is rounded to an infinity. -/
theorem isFinite_ofInt {n : Int} (h : n.natAbs < twoTo 64) : (ofInt n).isFinite = true := by
  have hbits : nearestBits n.natAbs 1 < infinityBits := nearestBits_lt h
  have hrange : infinityBits < twoTo 63 := by decide
  rw [isFinite, ofInt, ofRatio, magnitude_withSign _ (Nat.lt_trans hbits hrange)]
  exact decide_eq_true hbits

end Binary64

namespace Variable

/-- The values that the runtime has: what reading a JSON value gives (`native_iff`). -/
def Native : Variable → Prop
  | .bool _ => True
  | .int n => isInt64 n
  | .float x => x.isFinite
  | .text _ => True
  | .structured (.bool _) => False
  | .structured (.number _) => False
  | .structured (.text _) => False
  | .structured j => j.Canonical

theorem native_ofJson {j : Json} (h : j.Canonical) : (ofJson j).Native := by
  match j, h with
  | .number (.int n), h =>
    simp only [ofJson]
    split
    case isTrue hsigned => exact hsigned
    case isFalse hsigned =>
      refine Binary64.isFinite_ofInt ?_
      have hrange : isNat64 n = true := h.resolve_left hsigned
      have hbound : twoTo 64 = 18446744073709551616 := by decide
      simp only [isNat64, Bool.and_eq_true, decide_eq_true_eq] at hrange
      omega
  | .number (.float x), h => exact h
  | .bool b, _ => trivial
  | .text s, _ => trivial
  | .null, h => exact h
  | .array items, h => exact h
  | .object members, h => exact h

theorem toJson_float {x : Binary64} (h : x.isFinite) :
    (float x).toJson = .number (.float x) := if_pos h

theorem canonical_toJson {v : Variable} (h : v.Native) : v.toJson.Canonical := by
  match v, h with
  | .bool b, _ => trivial
  | .int n, h => exact .inl h
  | .float x, h =>
    rw [toJson_float h]
    exact h
  | .text s, _ => trivial
  | .structured .null, h => exact h
  | .structured (.array items), h => exact h
  | .structured (.object members), h => exact h

theorem ofJson_toJson {v : Variable} (h : v.Native) : ofJson v.toJson = v := by
  match v, h with
  | .bool b, _ => rfl
  | .int n, h => exact if_pos h
  | .float x, h => rw [toJson_float h, ofJson]
  | .text s, _ => rfl
  | .structured .null, _ => rfl
  | .structured (.array items), _ => rfl
  | .structured (.object members), _ => rfl

theorem native_iff {v : Variable} : v.Native ↔ ∃ j : Json, j.Canonical ∧ ofJson j = v := by
  constructor
  · intro h
    exact ⟨v.toJson, canonical_toJson h, ofJson_toJson h⟩
  · rintro ⟨j, hj, rfl⟩
    exact native_ofJson hj

end Variable

namespace Table

variable {α β γ : Type}

theorem mapValues_mapValues (g : β → γ) (f : α → β) (t : Table α) :
    (t.mapValues f).mapValues g = t.mapValues (g ∘ f) := by
  simp [mapValues]

theorem mapValues_eq_self {f : α → α} {t : Table α} (h : ∀ entry ∈ t, f entry.2 = entry.2) :
    t.mapValues f = t := by
  refine (List.map_congr_left fun entry hentry => ?_).trans (List.map_id t)
  simp only [h entry hentry, id_eq]

end Table

namespace Role

@[simp] theorem ofStored_name (role : Role) : ofStored role.name = role := by
  cases role <;> decide

end Role

namespace Message

@[simp] theorem ofStored_toStored (m : Message) : ofStored m.toStored = m := by
  simp [ofStored, toStored]

end Message

namespace RunContext

/-- All variables have values of the runtime. -/
def Native (ctx : RunContext) : Prop := ∀ entry ∈ ctx.vars, entry.2.Native

end RunContext

namespace Json

theorem canonicalMembers_iff {members : Table Json} :
    CanonicalMembers members ↔ ∀ entry ∈ members, entry.2.Canonical := by
  induction members with
  | nil => simp [CanonicalMembers]
  | cons entry rest ih => simp [CanonicalMembers, ih]

end Json

namespace Snapshot

variable {ctx : RunContext} {s : Snapshot}

/-- The snapshot of the run that is restored from a snapshot, which it takes the place of. -/
def recapture (s : Snapshot) (now : Instant) : Snapshot :=
  capture s.context s.conversation (some s) now

theorem conversation_capture (ctx : RunContext) (conversation : Conversation)
    (previous : Option Snapshot) (now : Instant) :
    (capture ctx conversation previous now).conversation = conversation := by
  simp [Snapshot.conversation, capture, Function.comp_def]

theorem restore_capture (h : ctx.Native) (conversation : Conversation)
    (previous : Option Snapshot) (now : Instant) :
    (capture ctx conversation previous now).restore =
      ({ ctx with startedAt := (previous.map (·.startedAt)).getD ctx.startedAt },
        conversation) := by
  have hvars : (ctx.vars.mapValues Variable.toJson).mapValues Variable.ofJson = ctx.vars := by
    rw [Table.mapValues_mapValues]
    exact Table.mapValues_eq_self fun entry hentry => Variable.ofJson_toJson (h entry hentry)
  rw [restore, conversation_capture]
  simp only [context, capture, hvars]

theorem native_context (h : Json.CanonicalMembers s.vars) : s.context.Native := by
  intro entry hentry
  obtain ⟨stored, hstored, rfl⟩ := List.mem_map.1 hentry
  exact Variable.native_ofJson (Json.canonicalMembers_iff.1 h stored hstored)

theorem canonical_capture (h : ctx.Native) (conversation : Conversation)
    (previous : Option Snapshot) (now : Instant) :
    Json.CanonicalMembers (capture ctx conversation previous now).vars := by
  refine Json.canonicalMembers_iff.2 fun entry hentry => ?_
  obtain ⟨var, hvar, rfl⟩ := List.mem_map.1 hentry
  exact Variable.canonical_toJson (h var hvar)

theorem restore_recapture (h : Json.CanonicalMembers s.vars) (now : Instant) :
    (s.recapture now).restore = s.restore :=
  restore_capture (native_context h) s.conversation (some s) now

theorem canonical_recapture (h : Json.CanonicalMembers s.vars) (now : Instant) :
    Json.CanonicalMembers (s.recapture now).vars :=
  canonical_capture (native_context h) s.conversation (some s) now

theorem restore_foldl_recapture (h : Json.CanonicalMembers s.vars) (clock : List Instant) :
    (clock.foldl recapture s).restore = s.restore := by
  induction clock generalizing s with
  | nil => rfl
  | cons now rest ih =>
    rw [List.foldl_cons, ih (canonical_recapture h now), restore_recapture h now]

/-- After one capture only the time of the checkpoint moves on. -/
theorem recapture_recapture (h : Json.CanonicalMembers s.vars) (now later : Instant) :
    (s.recapture now).recapture later = { s.recapture now with lastCheckpoint := later } := by
  have hrestore : ((s.recapture now).context, (s.recapture now).conversation) =
      (s.context, s.conversation) := restore_recapture h now
  obtain ⟨hcontext, hconversation⟩ := Prod.mk.inj hrestore
  rw [recapture, hcontext, hconversation]
  rfl

/-- Nothing that the runtime sees of a run is lost by a checkpoint, and what is stored of the
run no longer changes after the first one, except for its time. -/
theorem checkpoint_lossless (hctx : ctx.Native) (hs : Json.CanonicalMembers s.vars)
    (conversation : Conversation) (previous : Snapshot) (now : Instant) :
    (capture ctx conversation none now).restore = (ctx, conversation) ∧
    (capture ctx conversation (some previous) now).restore =
      ({ ctx with startedAt := previous.startedAt }, conversation) ∧
    (s.recapture now).restore = s.restore ∧
    (∀ clock : List Instant, (clock.foldl recapture s).restore = s.restore) ∧
    ∀ later, (s.recapture now).recapture later =
      { s.recapture now with lastCheckpoint := later } :=
  ⟨restore_capture hctx conversation none now,
    restore_capture hctx conversation (some previous) now,
    restore_recapture hs now, restore_foldl_recapture hs, recapture_recapture hs now⟩

/-- A snapshot with roles and numbers that the runtime does not have. -/
def foreign : Snapshot :=
  { formatVersion := 3
    runId := "nightly"
    filePath := "docs/nightly.md"
    contentHash := none
    startedAt := ⟨1, 0⟩
    lastCheckpoint := ⟨2, 0⟩
    status := .failed
    messages := [⟨" User\n", "hello", ⟨3, 0⟩⟩, ⟨"narrator", "meanwhile", ⟨4, 0⟩⟩]
    currentStep := some "greet"
    vars := [
      ("count", .int 3),
      ("limit", .int 18446744073709551615),
      ("ratio", .number (.float (.ofBits 0x3ff8000000000000))),
      ("tags", .array [.null, .object [("name", .text "x")]])]
    history := [.failed "greet" "no answer" ⟨5, 0⟩] }

theorem checkpoint_lossless_of_foreign :
    foreign.context.Native ∧ Json.CanonicalMembers foreign.vars ∧
    foreign.conversation = [⟨.user, "hello", ⟨3, 0⟩⟩, ⟨.assistant, "meanwhile", ⟨4, 0⟩⟩] ∧
    (capture foreign.context foreign.conversation none ⟨6, 0⟩).restore =
      (foreign.context, foreign.conversation) ∧
    (foreign.recapture ⟨6, 0⟩).restore = foreign.restore := by
  have hvars : Json.CanonicalMembers foreign.vars := by
    have hratio : (Binary64.ofBits 0x3ff8000000000000).isFinite = true := by decide
    simp [foreign, Json.int, Json.CanonicalMembers, Json.Canonical, Json.CanonicalItems,
      Table.Sorted, isInt64, isNat64, hratio]
  have hlossless :=
    checkpoint_lossless (native_context hvars) hvars foreign.conversation foreign ⟨6, 0⟩
  exact ⟨native_context hvars, hvars, by decide, hlossless.1, hlossless.2.2.1⟩

end Snapshot

end Runbook
