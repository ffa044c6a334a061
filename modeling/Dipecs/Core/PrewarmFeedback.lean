import Dipecs.Core.PrewarmAccounting

/-! What attribution does to the recent outcomes: it finds the outcome to rewrite by window,
type and target, and so may find that of another action. -/

namespace Dipecs.Core

open Dipecs.Spec Dipecs.Library

variable {D F : Type}

namespace Resolution

def correctness (r : Resolution) : FeedbackCorrectness :=
  if r.hit then .predictionHit else .predictionMiss

def evidence (horizon : UInt8) (r : Resolution) : String :=
  if r.hit then "prewarm target " ++ r.prewarm.package ++ " opened within " ++
    toString r.prewarm.windowsObserved ++ " observed window(s)"
  else "prewarm target " ++ r.prewarm.package ++ " was not opened within " ++
    toString horizon ++ " window(s)"

def markRecord (horizon : UInt8) (record : RecentDecisionRecord) (r : Resolution) :
    RecentDecisionRecord :=
  r.prewarm.markRecord r.correctness (r.evidence horizon) r.hit record

def rewrites (windowId : String) (o : ActionFeedbackRecord) (r : Resolution) : Bool :=
  r.prewarm.windowId = windowId ∧ o.actionType = "PreWarmProcess" ∧
    o.target = some r.prewarm.target

def markOutcome (horizon : UInt8) (windowId : String) (o : ActionFeedbackRecord)
    (r : Resolution) : ActionFeedbackRecord :=
  if r.prewarm.windowId = windowId then
    r.prewarm.markOutcome r.correctness (r.evidence horizon) r.hit o
  else o

theorem markOutcome_frame (horizon : UInt8) (windowId : String) (o : ActionFeedbackRecord)
    (r : Resolution) :
    (r.markOutcome horizon windowId o).actionType = o.actionType ∧
    (r.markOutcome horizon windowId o).target = o.target ∧
    (r.markOutcome horizon windowId o).terminal = o.terminal := by
  unfold markOutcome PendingPrewarm.markOutcome
  split
  · split <;> exact ⟨rfl, rfl, rfl⟩
  · exact ⟨rfl, rfl, rfl⟩

theorem markOutcome_correctness (horizon : UInt8) (windowId : String) (o : ActionFeedbackRecord)
    (r : Resolution) :
    (r.markOutcome horizon windowId o).correctness =
      if r.rewrites windowId o then r.correctness else o.correctness := by
  unfold markOutcome PendingPrewarm.markOutcome rewrites
  by_cases hid : r.prewarm.windowId = windowId
  · by_cases hkey : o.actionType = "PreWarmProcess" ∧ o.target = some r.prewarm.target
    · simp [hid, hkey]
    · simp [hid, hkey]
  · simp [hid]

theorem markRecord_eq (horizon : UInt8) (record : RecentDecisionRecord) (r : Resolution) :
    r.markRecord horizon record = { record with
      actionOutcomes := record.actionOutcomes.map fun o =>
        r.markOutcome horizon record.windowId o } := by
  unfold markRecord PendingPrewarm.markRecord markOutcome
  by_cases hid : r.prewarm.windowId = record.windowId
  · simp [hid]
  · simp [hid, Ne.symm hid]

theorem foldl_markRecord (horizon : UInt8) (rs : List Resolution) (record : RecentDecisionRecord) :
    rs.foldl (fun record r => r.markRecord horizon record) record = { record with
      actionOutcomes := record.actionOutcomes.map fun o =>
        rs.foldl (fun o r => r.markOutcome horizon record.windowId o) o } := by
  induction rs generalizing record with
  | nil => simp
  | cons r rs ih =>
    rw [List.foldl_cons, ih, markRecord_eq]
    simp only [List.map_map, List.foldl_cons]
    rfl

theorem foldl_markOutcome (horizon : UInt8) (windowId : String) (rs : List Resolution)
    (o : ActionFeedbackRecord) :
    let o' := rs.foldl (fun o r => r.markOutcome horizon windowId o) o
    o'.terminal = o.terminal ∧
    ((∀ r ∈ rs, r.rewrites windowId o = false) → o'.correctness = o.correctness) ∧
    ((∃ r ∈ rs, r.rewrites windowId o = true) →
      o'.correctness = .predictionHit ∨ o'.correctness = .predictionMiss) := by
  induction rs generalizing o with
  | nil => simp
  | cons r rs ih =>
    obtain ⟨htype, htarget, hterminal⟩ := r.markOutcome_frame horizon windowId o
    have hsame : ∀ r' : Resolution,
        r'.rewrites windowId (r.markOutcome horizon windowId o) = r'.rewrites windowId o := by
      intro r'
      simp only [rewrites, htype, htarget]
    obtain ⟨hkeep, hnone, hsome⟩ := ih (r.markOutcome horizon windowId o)
    simp only [hsame] at hnone hsome
    refine ⟨hkeep.trans hterminal, fun h => ?_, fun h => ?_⟩
    · rw [List.foldl_cons, hnone fun r' hr' => h r' (List.mem_cons_of_mem _ hr'),
        markOutcome_correctness, h r List.mem_cons_self]
      rfl
    · by_cases hrest : ∃ r' ∈ rs, r'.rewrites windowId o = true
      · exact hsome hrest
      · have hr : r.rewrites windowId o = true := by
          obtain ⟨r', hr', hmatch⟩ := h
          obtain rfl | hr' := List.mem_cons.mp hr'
          · exact hmatch
          · exact absurd ⟨r', hr', hmatch⟩ hrest
        rw [List.foldl_cons, hnone, markOutcome_correctness, if_pos hr, correctness]
        · cases r.hit <;> simp
        · intro r' hr'
          simpa using fun hmatch => hrest ⟨r', hr', hmatch⟩

end Resolution

namespace ModelMemoryStore
variable (ops : MomentumOps D)

theorem resolvePrewarm_recent (apps : List String) (m : ModelMemoryStore D)
    (p : PendingPrewarm) :
    (resolvePrewarm ops apps m p).recent = m.recent.map fun record =>
      (resolve apps m.prewarmEffectWindows p).toList.foldl
        (fun record r => r.markRecord m.prewarmEffectWindows record) record := by
  unfold resolvePrewarm resolve verdict
  by_cases hp : p.observed.package ∈ apps
  · simp only [hp, if_true]
    rfl
  · by_cases hlate : p.observed.windowsObserved ≥ m.prewarmEffectWindows
    · simp only [hp, hlate, if_true, if_false]
      rfl
    · simp [hp, hlate]

theorem foldl_resolvePrewarm_recent (apps : List String) (l : List PendingPrewarm)
    (m : ModelMemoryStore D) :
    (l.foldl (resolvePrewarm ops apps) m).recent = m.recent.map fun record =>
      (l.filterMap (resolve apps m.prewarmEffectWindows)).foldl
        (fun record r => r.markRecord m.prewarmEffectWindows record) record := by
  induction l generalizing m with
  | nil => simp
  | cons p l ih =>
    rw [List.foldl_cons, ih, resolvePrewarm_recent, resolvePrewarm_prewarmEffectWindows,
      filterMap_resolve_cons, List.map_map]
    simp only [List.foldl_append]
    rfl

def surviving (m : ModelMemoryStore D) : List RecentDecisionRecord :=
  m.recent.drop (m.recent.length + 1 - m.recentLimit)

/-- An outcome that did not succeed carries the correctness of its own terminal state. -/
def Honest (o : ActionFeedbackRecord) : Prop :=
  o.terminal ≠ ActionState.succeeded.debug →
    ∃ record : AuditRecord, record.terminal.debug = o.terminal ∧
      o.correctness = (inferCorrectness record).1

def OutcomesHonest (m : ModelMemoryStore D) : Prop :=
  ∀ record ∈ m.recent, ∀ o ∈ record.actionOutcomes, Honest o

/-- No prewarm that the window resolves is matched by an outcome that did not succeed. -/
def RewritesOwn (m : ModelMemoryStore D) (x : Observation F) : Prop :=
  ∀ r ∈ m.resolutions x.apps, ∀ record ∈ m.surviving, ∀ o ∈ record.actionOutcomes,
    r.rewrites record.windowId o = true → o.terminal = ActionState.succeeded.debug

instance (m : ModelMemoryStore D) (x : Observation F) : Decidable (RewritesOwn m x) :=
  inferInstanceAs (Decidable (∀ r ∈ m.resolutions x.apps, ∀ record ∈ m.surviving,
    ∀ o ∈ record.actionOutcomes, _ → _))

theorem inferCorrectness_ne_miss (r : AuditRecord) :
    (inferCorrectness r).1 ≠ .predictionMiss := by
  unfold inferCorrectness
  split
  · decide
  · split <;> decide

theorem honest_actionFeedback (record : AuditRecord) : Honest (actionFeedback record) :=
  fun _ => ⟨record, rfl, rfl⟩

theorem honest_foldl_markOutcome (horizon : UInt8) (windowId : String) (rs : List Resolution)
    {o : ActionFeedbackRecord} (ho : Honest o) :
    Honest (rs.foldl (fun o r => r.markOutcome horizon windowId o) o) ↔
      ∀ r ∈ rs, r.rewrites windowId o = true → o.terminal = ActionState.succeeded.debug := by
  obtain ⟨hterminal, hkeep, hchange⟩ := Resolution.foldl_markOutcome horizon windowId rs o
  constructor
  · intro hhonest r hr hmatch
    by_contra hne
    obtain ⟨record, -, hcorrect⟩ := hhonest (hterminal ▸ hne)
    obtain hhit | hmiss := hchange ⟨r, hr, hmatch⟩
    · exact inferCorrectness_ne_hit record (hcorrect.symm.trans hhit)
    · exact inferCorrectness_ne_miss record (hcorrect.symm.trans hmiss)
  · intro hown hne
    rw [hterminal] at hne ⊢
    rw [hkeep fun r hr => by simpa using fun hmatch => hne (hown r hr hmatch)]
    exact ho hne

theorem foldl_resolvePrewarm_recentLimit (apps : List String) (l : List PendingPrewarm)
    (m : ModelMemoryStore D) :
    (l.foldl (resolvePrewarm ops apps) m).recentLimit = m.recentLimit := by
  induction l generalizing m with
  | nil => rfl
  | cons p l ih =>
    rw [List.foldl_cons, ih]
    obtain ⟨-, e, h⟩ | ⟨-, -, e, h⟩ | ⟨-, -, h⟩ := resolvePrewarm_cases ops apps m p
    · rw [h]
      rfl
    · rw [h]
      rfl
    · rw [h]

theorem observeWindow_recent (m : ModelMemoryStore D) (x : Observation F) :
    ∃ tail, (m.observeWindow ops x.context x.decision x.auditRecords).recent =
        (m.surviving.map fun record => (m.resolutions x.apps).foldl
          (fun record r => r.markRecord m.prewarmEffectWindows record) record) ++ tail ∧
      tail ⊆ [feedback x.context x.decision x.auditRecords] := by
  obtain ⟨s, d, f, haudit⟩ := foldl_countAudit ops
    (((m.resolvePendingPrewarms ops x.context.summary.foregroundApps).decayMomentum ops).countWindow
      ops x.context) x.auditRecords
  have hlimit : (m.resolvePendingPrewarms ops x.apps).recentLimit = m.recentLimit :=
    foldl_resolvePrewarm_recentLimit ops x.apps m.pendingPrewarms { m with pendingPrewarms := [] }
  have hresolved : (m.resolvePendingPrewarms ops x.apps).recent =
      m.recent.map fun record => (m.resolutions x.apps).foldl
        (fun record r => r.markRecord m.prewarmEffectWindows record) record :=
    foldl_resolvePrewarm_recent ops x.apps m.pendingPrewarms { m with pendingPrewarms := [] }
  have hpushed : (m.observeWindow ops x.context x.decision x.auditRecords).recent =
      ((m.resolvePendingPrewarms ops x.apps).recent ++
        [feedback x.context x.decision x.auditRecords]).drop
          ((m.resolvePendingPrewarms ops x.apps).recent.length + 1 -
            (m.resolvePendingPrewarms ops x.apps).recentLimit) := by
    simp only [observeWindow, haudit, foldl_registerPendingPrewarm, pushRecent, List.length_append,
      List.length_singleton]
    rfl
  rw [hlimit, hresolved, List.length_map, List.drop_append, ← List.map_drop] at hpushed
  exact ⟨_, hpushed, List.drop_subset _ _⟩

theorem observeWindow_outcomesHonest_iff (m : ModelMemoryStore D) (x : Observation F)
    (h : OutcomesHonest m) :
    RewritesOwn m x ↔
      OutcomesHonest (m.observeWindow ops x.context x.decision x.auditRecords) := by
  obtain ⟨tail, hrecent, htail⟩ := observeWindow_recent ops m x
  have hnew : ∀ record ∈ tail, ∀ o ∈ record.actionOutcomes, Honest o := by
    intro record hrecord o ho
    rw [List.mem_singleton.mp (htail hrecord)] at ho
    obtain ⟨audit, -, rfl⟩ := List.mem_map.mp ho
    exact honest_actionFeedback audit
  have hold : ∀ record ∈ m.surviving, ∀ o ∈ record.actionOutcomes, Honest o :=
    fun record hrecord => h record (List.mem_of_mem_drop hrecord)
  have hiff : ∀ record ∈ m.surviving, ∀ o ∈ record.actionOutcomes, _ :=
    fun record hrecord o ho => honest_foldl_markOutcome m.prewarmEffectWindows record.windowId
      (m.resolutions x.apps) (hold record hrecord o ho)
  unfold OutcomesHonest
  rw [hrecent]
  constructor
  · intro hown record hrecord o ho
    obtain hrecord | hrecord := List.mem_append.mp hrecord
    · obtain ⟨record, hsurviving, rfl⟩ := List.mem_map.mp hrecord
      rw [Resolution.foldl_markRecord] at ho
      obtain ⟨o, hmem, rfl⟩ := List.mem_map.mp ho
      exact (hiff record hsurviving o hmem).mpr fun r hr => hown r hr record hsurviving o hmem
    · exact hnew record hrecord o ho
  · intro hhonest r hr record hrecord o ho
    refine (hiff record hrecord o ho).mp ?_ r hr
    refine hhonest _ (List.mem_append_left _ (List.mem_map_of_mem hrecord)) _ ?_
    rw [Resolution.foldl_markRecord]
    exact List.mem_map_of_mem ho

end ModelMemoryStore

/-- The outcomes that did not succeed keep their own correctness in every state of a run, just
when every window rewrites only outcomes that did. -/
theorem memoryLoop_outcomesHonest_iff (ops : MomentumOps D) (config : ModelMemoryConfig)
    (xs : List (Observation F)) :
    (∀ k, ((memoryLoop ops).run (.withConfig config) (xs.take k)).1.OutcomesHonest) ↔
      (memoryLoop ops).Along ModelMemoryStore.RewritesOwn (.withConfig config) xs :=
  Machine.run_take_iff (fun m x h => ModelMemoryStore.observeWindow_outcomesHonest_iff ops m x h)
    (fun record hrecord => by cases hrecord) xs

namespace PrewarmSample

def deferred : AuditRecord where
  coord := ⟨0, 1, 0⟩
  intentId := "later"
  actionType := .preWarmProcess
  target := some "pkg:com.chat"
  effect := .localStateChange
  route := .cloudLlm
  backendError := none
  transitions := [.proposed, .schemaValidated, .policyChecked, .deniedByPolicy]
  terminal := .deniedByPolicy
  outcome := none
  denialReason := some .actionUrgencyDeferred
  error := none
  sourceTier := .publicApi

def colliding : List (Observation ℚ) :=
  [observation "w1" ["com.mail"] [prewarmed, deferred], observation "w2" ["com.chat"] []]

end PrewarmSample

open PrewarmSample in
/-- The hit of the one prewarm is written over the rejection of the other. -/
theorem memoryLoop_outcomes_overwritten :
    (colliding.map fun x => x.context.windowId).Nodup ∧
      ¬((memoryLoop rationalMomentum).run (.withConfig {}) colliding).1.OutcomesHonest := by
  refine ⟨by decide +kernel, fun h => ?_⟩
  have hrejected :
      ∃ record ∈ ((memoryLoop rationalMomentum).run (.withConfig {}) colliding).1.recent,
      ∃ o ∈ record.actionOutcomes,
        o.terminal = "DeniedByPolicy" ∧ o.correctness = .predictionHit := by decide +kernel
  obtain ⟨record, hrecord, o, ho, hterminal, hhit⟩ := hrejected
  obtain ⟨audit, -, hcorrect⟩ := h record hrecord o ho (by rw [hterminal]; decide)
  exact ModelMemoryStore.inferCorrectness_ne_hit audit (hcorrect.symm.trans hhit)

end Dipecs.Core
