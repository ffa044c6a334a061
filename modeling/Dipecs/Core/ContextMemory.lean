import Dipecs.Library.MachineInt
import Dipecs.Library.SortedMap
import Dipecs.Library.Text
import Dipecs.Spec.Governance
import Mathlib.Data.Rat.Floor
import Mathlib.Data.String.Basic

/-! The model memory: sanitized windows and their audit records, folded into counters,
decayed momentum, recent feedback and the attribution of prewarms.  `D` carries `f64`. -/

namespace Dipecs.Core

open Dipecs.Spec Dipecs.Library

/-- What momentum asks of `f64`. -/
structure MomentumOps (D : Type) where
  /-- `f64::from(milli) / 1000.0`. -/
  ofMilli : UInt16 → D
  zero : D
  /-- `+= 1.0`. -/
  addOne : D → D
  mul : D → D → D
  /-- `<= 0.0`. -/
  nonPositive : D → Bool
  /-- `>= 0.01`. -/
  kept : D → Bool
  partialCmp : D → D → Option Ordering
  /-- `round().max(1.0) as u32`. -/
  rounded : D → UInt32

def rationalMomentum : MomentumOps ℚ where
  ofMilli n := n.toNat / 1000
  zero := 0
  addOne d := d + 1
  mul := (· * ·)
  nonPositive d := d ≤ 0
  kept d := 1 / 100 ≤ d
  partialCmp d d' := some (compare d d')
  rounded d := UInt32.ofNat ⌊max d 1 + 1 / 2⌋.toNat

structure ModelMemoryConfig where
  recentLimit : Nat := 5
  topLimit : Nat := 8
  momentumDecayMilli : UInt16 := 900
  prewarmEffectWindows : UInt8 := 3

structure PendingPrewarm where
  windowId : String
  target : String
  package : String
  windowsObserved : UInt8
  deriving DecidableEq

/-- A `_counts` map and its `_momentum` map: the store always writes the two together. -/
structure Tally (D : Type) where
  counts : SortedMap String UInt32
  momentum : SortedMap String D

structure ModelMemoryStore (D : Type) where
  recentLimit : Nat
  topLimit : Nat
  momentumDecayMilli : UInt16
  prewarmEffectWindows : UInt8
  llmSummary : Option String
  observationWindows : UInt32
  foreground : Tally D
  notifying : Tally D
  semanticHint : Tally D
  actionSuccess : Tally D
  actionDenial : Tally D
  actionFailure : Tally D
  prewarmHit : Tally D
  prewarmMiss : Tally D
  pendingPrewarms : List PendingPrewarm
  lastUpdatedWindowId : Option String
  recent : List RecentDecisionRecord

variable {D F : Type} (ops : MomentumOps D)

def increment (counts : SortedMap String UInt32) (key : String) : SortedMap String UInt32 :=
  counts.upsert key fun n => n.getD 0 + 1

def addMomentum (scores : SortedMap String D) (key : String) : SortedMap String D :=
  scores.upsert key fun d => ops.addOne (d.getD ops.zero)

def decayMap (scores : SortedMap String D) (decay : D) : SortedMap String D :=
  if ops.nonPositive decay then .empty
  else (scores.mapValues (ops.mul · decay)).filterValues ops.kept

namespace Tally

def empty : Tally D := ⟨.empty, .empty⟩

def add (t : Tally D) (key : String) : Tally D :=
  ⟨increment t.counts key, addMomentum ops t.momentum key⟩

def decay (t : Tally D) (decay : D) : Tally D :=
  { t with momentum := decayMap ops t.momentum decay }

def count (t : Tally D) (key : String) : UInt32 := (t.counts.get key).getD 0

@[simp] theorem count_empty (key : String) : (empty : Tally D).count key = 0 := rfl

@[simp] theorem count_decay (t : Tally D) (d : D) (key : String) :
    (t.decay ops d).count key = t.count key := rfl

theorem count_add (t : Tally D) (key key' : String) :
    (t.add ops key).count key' = if key' = key then t.count key + 1 else t.count key' := by
  simp only [count, add, increment, SortedMap.get_upsert]
  split <;> simp

def total (t : Tally D) : Nat := t.counts.total UInt32.toNat

@[simp] theorem total_empty : (empty : Tally D).total = 0 := rfl

theorem total_add (t : Tally D) {key : String} (h : (t.count key).toNat + 1 < 2 ^ 32) :
    (t.add ops key).total = t.total + 1 := by
  have hsum := t.counts.total_upsert UInt32.toNat key fun n => n.getD 0 + 1
  have hget : ((t.counts.get key).map UInt32.toNat).getD 0 = (t.count key).toNat := by
    rw [count]
    cases t.counts.get key <;> rfl
  rw [hget, ← count, UInt32.toNat_add, UInt32.toNat_one, Nat.mod_eq_of_lt h] at hsum
  simp only [total, add, increment]
  omega

theorem count_foldl_add (keys : List String) (t : Tally D) (key : String) :
    (keys.foldl (add ops) t).count key = t.count key + UInt32.ofNat (keys.count key) := by
  induction keys generalizing t with
  | nil => simp
  | cons k keys ih =>
    rw [List.foldl_cons, ih, count_add]
    by_cases hk : key = k
    · subst hk
      rw [if_pos rfl, List.count_cons_self, Nat.add_comm, UInt32.ofNat_add, UInt32.add_assoc]
      rfl
    · rw [if_neg hk, List.count_cons_of_ne (Ne.symm hk)]

theorem total_foldl_add (keys : List String) (t : Tally D)
    (h : ∀ k ∈ keys, (t.count k).toNat + keys.count k < 2 ^ 32) :
    (keys.foldl (add ops) t).total = t.total + keys.length := by
  induction keys generalizing t with
  | nil => simp
  | cons k keys ih =>
    have hk := h k List.mem_cons_self
    rw [List.count_cons_self] at hk
    have hadd : (t.count k).toNat + 1 < 2 ^ 32 := by omega
    rw [List.foldl_cons, ih, total_add ops t hadd, List.length_cons]
    · omega
    · intro k' hk'
      have := h k' (List.mem_cons_of_mem _ hk')
      rw [count_add]
      split
      · rename_i heq
        subst heq
        rw [List.count_cons_self] at this
        rw [UInt32.toNat_add, UInt32.toNat_one, Nat.mod_eq_of_lt hadd]
        omega
      · rename_i hne
        rwa [List.count_cons_of_ne (Ne.symm hne)] at this

end Tally

def scoreLe (a b : String × D) : Bool :=
  (((ops.partialCmp b.2 a.2).getD .eq).then (compare a.1 b.1)) != .gt

def topScores (scores : SortedMap String D) (limit : Nat) : Option (List (String × UInt32)) :=
  if scores.entries.isEmpty then none
  else some (((scores.entries.mergeSort (scoreLe ops)).take limit).map fun (key, score) =>
    (key, ops.rounded score))

def countLe (a b : String × UInt32) : Bool :=
  ((compare b.2 a.2).then (compare a.1 b.1)) != .gt

def topCounts (counts : SortedMap String UInt32) (limit : Nat) : List (String × UInt32) :=
  (counts.entries.mergeSort countLe).take limit

def semanticHintFromDebug : String → Option SemanticHint
  | "FileMention" => some .fileMention
  | "ImageMention" => some .imageMention
  | "AudioMessage" => some .audioMessage
  | "LinkAttachment" => some .linkAttachment
  | "UserMentioned" => some .userMentioned
  | "CalendarInvitation" => some .calendarInvitation
  | "FinancialContext" => some .financialContext
  | "VerificationCode" => some .verificationCode
  | _ => none

def hintsOf (values : List (String × UInt32)) : List (SemanticHint × UInt32) :=
  values.filterMap fun (name, count) => (semanticHintFromDebug name).map (·, count)

def topSemanticHintScores (scores : SortedMap String D) (limit : Nat) :
    Option (List (SemanticHint × UInt32)) :=
  (topScores ops scores limit).map hintsOf

def topSemanticHints (counts : SortedMap String UInt32) (limit : Nat) :
    List (SemanticHint × UInt32) :=
  hintsOf (topCounts counts limit)

def renderPairs (values : List (String × UInt32)) : String :=
  if values.isEmpty then "none"
  else ",".intercalate (values.map fun (key, count) => key ++ ":" ++ toString count)

def renderHintPairs (values : List (SemanticHint × UInt32)) : String :=
  if values.isEmpty then "none"
  else ",".intercalate (values.map fun (key, count) => key.debug ++ ":" ++ toString count)

def normalizePrewarmPackage (target : String) : Option String :=
  ((Text.stripPrefix "pkg:" target).filter fun package =>
    !Text.isBlank Text.isWhiteSpace package).map (Text.trim Text.isWhiteSpace)

def inferCorrectness (record : AuditRecord) : FeedbackCorrectness × String :=
  if record.actionType = .noOp ∧ record.terminal = .succeeded then
    (.neutralNoOp, "NoOp succeeded; no behavioral preference inferred")
  else match record.terminal with
    | .succeeded => (.likelyCorrect, "policy approved and adapter reported success")
    | .deniedByCapability | .deniedByPolicy | .rejectedInvalidSchema =>
      (.policyRejected, "local policy or schema rejected the model suggestion")
    | .failed => (.executionFailed, "adapter attempted execution but returned failure")
    | _ => (.unknown, "action did not reach a terminal feedback state")

def actionFeedback (record : AuditRecord) : ActionFeedbackRecord where
  actionType := record.actionType.debug
  target := record.target
  terminal := record.terminal.debug
  correctness := (inferCorrectness record).1
  correctnessEvidence := (inferCorrectness record).2
  denialReason := record.denialReason.map DenialReason.debug
  error := record.error
  outcomeSummary := record.outcome.map ActionOutcomeSummary.summary

namespace PendingPrewarm

def observed (p : PendingPrewarm) : PendingPrewarm :=
  { p with windowsObserved := satSucc8 p.windowsObserved }

def markOutcome (p : PendingPrewarm) (correctness : FeedbackCorrectness) (evidence : String)
    (hit : Bool) (outcome : ActionFeedbackRecord) : ActionFeedbackRecord :=
  if outcome.actionType = "PreWarmProcess" ∧ outcome.target = some p.target then
    { outcome with
      correctness := correctness
      correctnessEvidence := evidence
      outcomeSummary := some
        ((if hit then "prewarm_effect_hit:" else "prewarm_effect_miss:") ++ p.package) }
  else outcome

def markRecord (p : PendingPrewarm) (correctness : FeedbackCorrectness) (evidence : String)
    (hit : Bool) (record : RecentDecisionRecord) : RecentDecisionRecord :=
  if record.windowId ≠ p.windowId then record
  else { record with
    actionOutcomes := record.actionOutcomes.map (p.markOutcome correctness evidence hit) }

end PendingPrewarm

namespace ModelMemoryStore

def withConfig (config : ModelMemoryConfig) : ModelMemoryStore D where
  recentLimit := min (max config.recentLimit 1) 50
  topLimit := min (max config.topLimit 1) 32
  momentumDecayMilli := min (max config.momentumDecayMilli 0) 999
  prewarmEffectWindows := min (max config.prewarmEffectWindows 1) 20
  llmSummary := none
  observationWindows := 0
  foreground := .empty
  notifying := .empty
  semanticHint := .empty
  actionSuccess := .empty
  actionDenial := .empty
  actionFailure := .empty
  prewarmHit := .empty
  prewarmMiss := .empty
  pendingPrewarms := []
  lastUpdatedWindowId := none
  recent := []

theorem effectWindows_pos (x : UInt8) : 0 < min (max x 1) 20 := by
  have hmax : max x 1 = if x ≤ 1 then 1 else x := rfl
  have hmin : min (max x 1) 20 = if max x 1 ≤ 20 then max x 1 else 20 := rfl
  grind

def setLlmSummary (m : ModelMemoryStore D) (summary : String) : ModelMemoryStore D :=
  if Text.isBlank Text.isWhiteSpace summary then m else { m with llmSummary := some summary }

def topOf (m : ModelMemoryStore D) (t : Tally D) : List (String × UInt32) :=
  (topScores ops t.momentum m.topLimit).getD (topCounts t.counts m.topLimit)

def frequentSemanticHints (m : ModelMemoryStore D) : List (SemanticHint × UInt32) :=
  (topSemanticHintScores ops m.semanticHint.momentum m.topLimit).getD
    (topSemanticHints m.semanticHint.counts m.topLimit)

def renderSummary (m : ModelMemoryStore D) : String :=
  "observed_windows=" ++ toString m.observationWindows ++
  "; momentum_decay_milli=" ++ toString m.momentumDecayMilli ++
  "; prewarm_effect_window=" ++ toString m.prewarmEffectWindows ++
  "; foreground_apps=" ++ renderPairs (m.topOf ops m.foreground) ++
  "; notifying_apps=" ++ renderPairs (m.topOf ops m.notifying) ++
  "; semantic_hints=" ++ renderHintPairs (m.frequentSemanticHints ops) ++
  "; successful_actions=" ++ renderPairs (m.topOf ops m.actionSuccess) ++
  "; denied_actions=" ++ renderPairs (m.topOf ops m.actionDenial) ++
  "; failed_actions=" ++ renderPairs (m.topOf ops m.actionFailure) ++
  "; prewarm_effect_hits=" ++ renderPairs (m.topOf ops m.prewarmHit) ++
  "; prewarm_effect_misses=" ++ renderPairs (m.topOf ops m.prewarmMiss)

def behaviorProfile (m : ModelMemoryStore D) : UserBehaviorProfile where
  userId := none
  summary := match m.llmSummary with
    | some llm => "llm_summary=" ++ llm ++ "; local_counters=" ++ m.renderSummary ops
    | none => m.renderSummary ops
  observationWindows := m.observationWindows
  frequentForegroundApps := m.topOf ops m.foreground
  frequentNotifyingApps := m.topOf ops m.notifying
  frequentSemanticHints := m.frequentSemanticHints ops
  actionSuccesses := m.topOf ops m.actionSuccess
  actionDenials := m.topOf ops m.actionDenial
  actionFailures := m.topOf ops m.actionFailure
  lastUpdatedWindowId := m.lastUpdatedWindowId

def modelInput (m : ModelMemoryStore D) (currentContext : StructuredContext) : ModelInput :=
  ⟨currentContext, m.behaviorProfile ops, m.recent⟩

def decayMomentum (m : ModelMemoryStore D) : ModelMemoryStore D :=
  let decay := ops.ofMilli m.momentumDecayMilli
  { m with
    foreground := m.foreground.decay ops decay
    notifying := m.notifying.decay ops decay
    semanticHint := m.semanticHint.decay ops decay
    actionSuccess := m.actionSuccess.decay ops decay
    actionDenial := m.actionDenial.decay ops decay
    actionFailure := m.actionFailure.decay ops decay
    prewarmHit := m.prewarmHit.decay ops decay
    prewarmMiss := m.prewarmMiss.decay ops decay }

def recordPrewarmAttribution (m : ModelMemoryStore D) (prewarm : PendingPrewarm)
    (correctness : FeedbackCorrectness) (evidence : String) (hit : Bool) : ModelMemoryStore D :=
  let m := if hit then { m with prewarmHit := m.prewarmHit.add ops prewarm.package }
    else { m with prewarmMiss := m.prewarmMiss.add ops prewarm.package }
  { m with recent := m.recent.map (prewarm.markRecord correctness evidence hit) }

def resolvePrewarm (foregroundApps : List String) (m : ModelMemoryStore D)
    (pending : PendingPrewarm) : ModelMemoryStore D :=
  let prewarm := pending.observed
  if prewarm.package ∈ foregroundApps then
    m.recordPrewarmAttribution ops prewarm .predictionHit
      ("prewarm target " ++ prewarm.package ++ " opened within " ++
        toString prewarm.windowsObserved ++ " observed window(s)") true
  else if prewarm.windowsObserved ≥ m.prewarmEffectWindows then
    m.recordPrewarmAttribution ops prewarm .predictionMiss
      ("prewarm target " ++ prewarm.package ++ " was not opened within " ++
        toString m.prewarmEffectWindows ++ " window(s)") false
  else { m with pendingPrewarms := m.pendingPrewarms ++ [prewarm] }

def resolvePendingPrewarms (m : ModelMemoryStore D) (foregroundApps : List String) :
    ModelMemoryStore D :=
  m.pendingPrewarms.foldl (resolvePrewarm ops foregroundApps) { m with pendingPrewarms := [] }

def countWindow (m : ModelMemoryStore D) (context : StructuredContext) : ModelMemoryStore D :=
  { m with
    observationWindows := satSucc32 m.observationWindows
    lastUpdatedWindowId := some context.windowId
    foreground := context.summary.foregroundApps.foldl (Tally.add ops) m.foreground
    notifying := context.summary.notifiedApps.foldl (Tally.add ops) m.notifying
    semanticHint :=
      (context.summary.allSemanticHints.map SemanticHint.debug).foldl (Tally.add ops)
        m.semanticHint }

def countAudit (m : ModelMemoryStore D) (record : AuditRecord) : ModelMemoryStore D :=
  match record.terminal with
  | .succeeded =>
    { m with actionSuccess := m.actionSuccess.add ops record.actionType.debug }
  | .deniedByCapability | .deniedByPolicy | .rejectedInvalidSchema =>
    { m with actionDenial := m.actionDenial.add ops record.actionType.debug }
  | .failed => { m with actionFailure := m.actionFailure.add ops record.actionType.debug }
  | _ => m

def feedback (context : StructuredContext) (decision : DecisionBackendResult F)
    (auditRecords : List AuditRecord) : RecentDecisionRecord where
  windowId := context.windowId
  windowStartMs := context.windowStartMs
  windowEndMs := context.windowEndMs
  foregroundApps := context.summary.foregroundApps
  notifiedApps := context.summary.notifiedApps
  semanticHints := context.summary.allSemanticHints
  route := decision.route.debug
  model := decision.intentBatch.model
  intentCount := UInt32.ofNat decision.intentBatch.intents.length
  rationaleTags := decision.rationaleTags
  backendError := decision.error
  actionOutcomes := auditRecords.map actionFeedback

def pushRecent (m : ModelMemoryStore D) (record : RecentDecisionRecord) : ModelMemoryStore D :=
  let recent := m.recent ++ [record]
  { m with recent := recent.drop (recent.length - m.recentLimit) }

def pendingPrewarm (context : StructuredContext) (record : AuditRecord) : Option PendingPrewarm :=
  if record.actionType ≠ .preWarmProcess ∨ record.terminal ≠ .succeeded then none
  else do
    let target ← record.target
    let package ← normalizePrewarmPackage target
    some ⟨context.windowId, target, package, 0⟩

def registerPendingPrewarm (context : StructuredContext) (m : ModelMemoryStore D)
    (record : AuditRecord) : ModelMemoryStore D :=
  { m with pendingPrewarms := m.pendingPrewarms ++ (pendingPrewarm context record).toList }

def observeWindow (m : ModelMemoryStore D) (context : StructuredContext)
    (decision : DecisionBackendResult F) (auditRecords : List AuditRecord) :
    ModelMemoryStore D :=
  let m := (m.resolvePendingPrewarms ops context.summary.foregroundApps).decayMomentum ops
  let m := m.countWindow ops context
  let m := auditRecords.foldl (countAudit ops) m
  let m := m.pushRecent (feedback context decision auditRecords)
  auditRecords.foldl (registerPendingPrewarm context) m

end ModelMemoryStore

end Dipecs.Core
