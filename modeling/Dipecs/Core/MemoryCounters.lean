import Dipecs.Core.PrewarmAccounting

/-! The counters of the memory.  All but the number of windows are added to without a bound,
from whatever a loaded file holds. -/

namespace Dipecs.Core

open Dipecs.Spec Dipecs.Library

variable {D F : Type}

inductive CounterFamily
  | foreground
  | notifying
  | semanticHint
  | actionSuccess
  | actionDenial
  | actionFailure
  | prewarmHit
  | prewarmMiss
  deriving DecidableEq

def CounterFamily.ofTerminal : ActionState → Option CounterFamily
  | .succeeded => some .actionSuccess
  | .deniedByCapability | .deniedByPolicy | .rejectedInvalidSchema => some .actionDenial
  | .failed => some .actionFailure
  | _ => none

/-- Every one of these additions stays within 32 bits. -/
def AddsFit : SortedMap String UInt32 → List String → Prop
  | _, [] => True
  | counts, key :: keys =>
    ((counts.get key).getD 0).toNat + 1 < 2 ^ 32 ∧ AddsFit (increment counts key) keys

theorem getD_increment (counts : SortedMap String UInt32) (key key' : String) :
    ((increment counts key).get key').getD 0 =
      if key' = key then (counts.get key).getD 0 + 1 else (counts.get key').getD 0 := by
  rw [increment, SortedMap.get_upsert]
  split <;> rfl

theorem getD_increment_toNat {counts : SortedMap String UInt32} {key : String}
    (h : ((counts.get key).getD 0).toNat + 1 < 2 ^ 32) (key' : String) :
    (((increment counts key).get key').getD 0).toNat =
      ((counts.get key').getD 0).toNat + if key' = key then 1 else 0 := by
  rw [getD_increment]
  split
  · subst key'
    rw [UInt32.toNat_add]
    exact Nat.mod_eq_of_lt h
  · rfl

theorem getD_increment_add_count {counts : SortedMap String UInt32} {key : String}
    (h : ((counts.get key).getD 0).toNat + 1 < 2 ^ 32) (keys : List String) (key' : String) :
    (((increment counts key).get key').getD 0).toNat + keys.count key' =
      ((counts.get key').getD 0).toNat + (key :: keys).count key' := by
  rw [getD_increment_toNat h]
  by_cases hkey : key' = key
  · subst key'
    rw [if_pos rfl, List.count_cons_self]
    omega
  · rw [if_neg hkey, List.count_cons_of_ne (Ne.symm hkey), Nat.add_zero]

theorem addsFit_iff {counts : SortedMap String UInt32} {keys : List String} :
    AddsFit counts keys ↔
      ∀ key ∈ keys, ((counts.get key).getD 0).toNat + keys.count key < 2 ^ 32 := by
  induction keys generalizing counts with
  | nil => simp [AddsFit]
  | cons key keys ih =>
    rw [AddsFit, ih]
    constructor
    · rintro ⟨hkey, hrest⟩ key' hmem
      by_cases hlater : key' ∈ keys
      · rw [← getD_increment_add_count hkey]
        exact hrest key' hlater
      · obtain rfl : key' = key := (List.mem_cons.mp hmem).resolve_right hlater
        rw [List.count_cons_self, List.count_eq_zero_of_not_mem hlater]
        exact hkey
    · intro h
      have hkey : ((counts.get key).getD 0).toNat + 1 < 2 ^ 32 := by
        have hlast := h key List.mem_cons_self
        rw [List.count_cons_self] at hlast
        omega
      refine ⟨hkey, fun key' hlater => ?_⟩
      rw [getD_increment_add_count hkey]
      exact h key' (List.mem_cons_of_mem _ hlater)

theorem AddsFit.le {counts : SortedMap String UInt32} {keys : List String}
    (h : AddsFit counts keys) (key : String) :
    (counts.get key).getD 0 ≤ ((keys.foldl increment counts).get key).getD 0 := by
  induction keys generalizing counts with
  | nil => exact UInt32.le_refl _
  | cons first keys ih =>
    refine UInt32.le_trans ?_ (ih h.2)
    rw [UInt32.le_iff_toNat_le, getD_increment_toNat h.1]
    exact Nat.le_add_right _ _

theorem Tally.counts_foldl_add (ops : MomentumOps D) (keys : List String) (t : Tally D) :
    (keys.foldl (Tally.add ops) t).counts = keys.foldl increment t.counts := by
  induction keys generalizing t with
  | nil => rfl
  | cons key keys ih => rw [List.foldl_cons, ih, List.foldl_cons, Tally.add]

namespace ModelMemoryStore

def counts (m : ModelMemoryStore D) : CounterFamily → SortedMap String UInt32
  | .foreground => m.foreground.counts
  | .notifying => m.notifying.counts
  | .semanticHint => m.semanticHint.counts
  | .actionSuccess => m.actionSuccess.counts
  | .actionDenial => m.actionDenial.counts
  | .actionFailure => m.actionFailure.counts
  | .prewarmHit => m.prewarmHit.counts
  | .prewarmMiss => m.prewarmMiss.counts

def count (m : ModelMemoryStore D) (family : CounterFamily) (key : String) : UInt32 :=
  ((m.counts family).get key).getD 0

def auditBumps (family : CounterFamily) (record : AuditRecord) : List String :=
  if CounterFamily.ofTerminal record.terminal = some family then [record.actionType.debug] else []

def windowBumps (m : ModelMemoryStore D) (x : Observation F) : CounterFamily → List String
  | .foreground => x.apps
  | .notifying => x.context.summary.notifiedApps
  | .semanticHint => x.context.summary.allSemanticHints.map SemanticHint.debug
  | .prewarmHit => ((m.resolutions x.apps).filter (·.hit = true)).map (·.prewarm.package)
  | .prewarmMiss => ((m.resolutions x.apps).filter (·.hit = false)).map (·.prewarm.package)
  | .actionSuccess | .actionDenial | .actionFailure => []

def bumps (m : ModelMemoryStore D) (x : Observation F) (family : CounterFamily) : List String :=
  m.windowBumps x family ++ x.auditRecords.flatMap (auditBumps family)

section observe
variable (ops : MomentumOps D) (m : ModelMemoryStore D)

theorem countAudit_counts (record : AuditRecord) (family : CounterFamily) :
    (countAudit ops m record).counts family =
      (auditBumps family record).foldl increment (m.counts family) := by
  unfold countAudit auditBumps
  cases record.terminal <;> cases family <;> rfl

theorem foldl_countAudit_counts (records : List AuditRecord) (family : CounterFamily) :
    (records.foldl (countAudit ops) m).counts family =
      (records.flatMap (auditBumps family)).foldl increment (m.counts family) := by
  induction records generalizing m with
  | nil => rfl
  | cons record records ih =>
    rw [List.foldl_cons, ih, countAudit_counts, List.flatMap_cons, List.foldl_append]

theorem foldl_resolvePrewarm_frame (apps : List String) (pending : List PendingPrewarm) :
    ∃ hit miss waiting recent, pending.foldl (resolvePrewarm ops apps) m =
      { m with prewarmHit := hit, prewarmMiss := miss, pendingPrewarms := waiting,
               recent := recent } := by
  induction pending generalizing m with
  | nil => exact ⟨_, _, _, _, rfl⟩
  | cons p pending ih =>
    obtain ⟨hit, miss, waiting, recent, h⟩ := ih (resolvePrewarm ops apps m p)
    refine ⟨hit, miss, waiting, recent, ?_⟩
    rw [List.foldl_cons, h]
    obtain ⟨-, e, hp⟩ | ⟨-, -, e, hp⟩ | ⟨-, -, hp⟩ := resolvePrewarm_cases ops apps m p <;>
      rw [hp] <;> rfl

theorem countWindow_counts (x : Observation F) (family : CounterFamily) :
    (((m.resolvePendingPrewarms ops x.apps).decayMomentum ops).countWindow ops
        x.context).counts family =
      (m.windowBumps x family).foldl increment (m.counts family) := by
  obtain ⟨hit, miss, waiting, recent, h⟩ :=
    foldl_resolvePrewarm_frame ops { m with pendingPrewarms := [] } x.apps m.pendingPrewarms
  have hresolved := foldl_resolvePrewarm_tallyOf ops x.apps m.pendingPrewarms
    { m with pendingPrewarms := [] }
  rw [resolvePendingPrewarms]
  cases family with
  | foreground | notifying | semanticHint =>
    rw [h]
    exact Tally.counts_foldl_add ops _ _
  | actionSuccess | actionDenial | actionFailure =>
    rw [h]
    rfl
  | prewarmHit =>
    exact (congrArg Tally.counts (hresolved true)).trans (Tally.counts_foldl_add ops _ _)
  | prewarmMiss =>
    exact (congrArg Tally.counts (hresolved false)).trans (Tally.counts_foldl_add ops _ _)

theorem observeWindow_eq_countAudit (x : Observation F) :
    ∃ waiting recent, m.observeWindow ops x.context x.decision x.auditRecords =
      { x.auditRecords.foldl (countAudit ops)
          (((m.resolvePendingPrewarms ops x.apps).decayMomentum ops).countWindow ops x.context) with
        pendingPrewarms := waiting, recent := recent } :=
  ⟨_, _, foldl_registerPendingPrewarm _ _ _⟩

theorem observeWindow_counts (x : Observation F) (family : CounterFamily) :
    (m.observeWindow ops x.context x.decision x.auditRecords).counts family =
      (m.bumps x family).foldl increment (m.counts family) := by
  obtain ⟨waiting, recent, h⟩ := observeWindow_eq_countAudit ops m x
  rw [h, bumps, List.foldl_append, ← countWindow_counts ops, ← foldl_countAudit_counts ops]
  cases family <;> rfl

theorem observeWindow_observationWindows (x : Observation F) :
    (m.observeWindow ops x.context x.decision x.auditRecords).observationWindows =
      satSucc32 m.observationWindows := by
  obtain ⟨waiting, recent, h⟩ := observeWindow_eq_countAudit ops m x
  obtain ⟨s, d, f, haudit⟩ := foldl_countAudit ops
    (((m.resolvePendingPrewarms ops x.apps).decayMomentum ops).countWindow ops x.context)
    x.auditRecords
  obtain ⟨hit, miss, waiting', recent', hresolved⟩ :=
    foldl_resolvePrewarm_frame ops { m with pendingPrewarms := [] } x.apps m.pendingPrewarms
  rw [h, haudit, resolvePendingPrewarms, hresolved]
  rfl

end observe

def NoOverflow (m : ModelMemoryStore D) (x : Observation F) : Prop :=
  ∀ family, AddsFit (m.counts family) (m.bumps x family)

structure Grows (m m' : ModelMemoryStore D) : Prop where
  count : ∀ family key, m.count family key ≤ m'.count family key
  windows : m.observationWindows ≤ m'.observationWindows

/-- There is room for what a window adds to every counter. -/
def CountsFit (m : ModelMemoryStore D) (x : Observation F) : Prop :=
  ∀ family, ∀ key ∈ m.bumps x family,
    (m.count family key).toNat + (m.bumps x family).count key < 2 ^ 32

theorem noOverflow_iff (m : ModelMemoryStore D) (x : Observation F) :
    m.NoOverflow x ↔ m.CountsFit x :=
  forall_congr' fun _ => addsFit_iff

theorem NoOverflow.grows (ops : MomentumOps D) {m : ModelMemoryStore D} {x : Observation F}
    (h : m.NoOverflow x) :
    m.Grows (m.observeWindow ops x.context x.decision x.auditRecords) := by
  refine ⟨fun family key => ?_, ?_⟩
  · rw [count, count, observeWindow_counts]
    exact (h family).le key
  · rw [observeWindow_observationWindows]
    exact le_satSucc32 _

end ModelMemoryStore

/-- From whatever store a file held, the counters of a run neither overflow nor go down just
when each window finds room for what it adds. -/
theorem memoryLoop_counters_iff (ops : MomentumOps D) (m : ModelMemoryStore D)
    (xs : List (Observation F)) :
    (memoryLoop ops).Along (fun m x => m.NoOverflow x ∧
        m.Grows ((memoryLoop ops).step m x).1) m xs ↔
      (memoryLoop ops).Along ModelMemoryStore.CountsFit m xs := by
  refine (memoryLoop ops).along_congr fun m x => ?_
  rw [← ModelMemoryStore.noOverflow_iff]
  exact ⟨And.left, fun h => ⟨h, h.grows ops⟩⟩

namespace PrewarmSample

def full : ModelMemoryStore ℚ where
  __ := ModelMemoryStore.withConfig {}
  foreground := ⟨SortedMap.empty.upsert "com.mail" fun _ => 4294967295, .empty⟩

end PrewarmSample

open PrewarmSample in
/-- One window more overflows the counter and takes it to zero. -/
theorem memoryLoop_counters_wrap :
    (full.count .foreground "com.mail").toNat = 4294967295 ∧
      ¬(memoryLoop rationalMomentum).Along (fun m x => m.NoOverflow x ∧
        m.Grows ((memoryLoop rationalMomentum).step m x).1) full
        [observation "w1" ["com.mail"] []] := by
  refine ⟨by decide +kernel, fun h => ?_⟩
  obtain ⟨⟨-, hgrows⟩, -⟩ := h
  exact absurd (hgrows.count .foreground "com.mail") (by decide +kernel)

end Dipecs.Core
