import Mathlib.Data.Finset.Basic
import Mathlib.Data.Rat.Init
import Dipecs.Library.Guards
import Dipecs.Library.Text
import Dipecs.Spec.Governance

/-! The policy engine: per-action verdicts on an intent batch. -/

namespace Dipecs.Core

open Dipecs.Spec Dipecs.Library

variable {F : Type}

structure PolicyConfig (F : Type) where
  maxAutoRisk : RiskLevel
  blockedActions : List String
  maxActionsPerBatch : Nat
  minConfidence : F

def PolicyConfig.default [OfScientific F] : PolicyConfig F :=
  ⟨.low, [], 5, 0.3⟩

/-- The packages and files a window showed.  `files` stays empty: paths are
discarded at the air-gap. -/
structure KnownTargets where
  packages : Finset String
  files : Finset String

namespace KnownTargets

def eventPackages (e : SanitizedEvent) : List String :=
  e.appPackage.toList ++
    match e.eventType with
    | .appTransition package _ _ => [package]
    | .notification package _ _ _ _ _ _ _ => [package]
    | .processResource _ (some package) _ _ _ _ => [package]
    | _ => []

def fromContext (ctx : StructuredContext) : KnownTargets where
  packages := (ctx.summary.foregroundApps ++ ctx.summary.notifiedApps ++
    ctx.events.flatMap eventPackages).toFinset
  files := ∅

end KnownTargets

def isAllowedPrewarmTarget (target : String) (known : KnownTargets) : Bool :=
  if Text.startsWith "own:" target || Text.startsWith "notif:" target then true
  else match Text.stripPrefix "pkg:" target with
    | some package => decide (package ∈ known.packages)
    | none => target != "" &&
        (decide (target ∈ known.packages) || decide (target ∈ known.files))

def isAllowedLowRiskTarget (action : ActionType) (target : String) (known : KnownTargets) :
    Bool :=
  if action == .keepAlive && Text.startsWith "work:" target then true
  else if action == .releaseMemory && (target == "cache:prefetch" || target == "cache:all") then
    true
  else if action == .prefetchFile &&
      (Text.startsWith "url:" target || Text.startsWith "uri:" target) then true
  else match Text.stripPrefix "pkg:" target with
    | some package => decide (package ∈ known.packages)
    | none => decide (target ∈ known.packages) || decide (target ∈ known.files)

def checkTarget (action : ActionType) (target : Option String) (known : KnownTargets) :
    Option DenialReason :=
  match action with
  | .noOp => none
  | .preWarmProcess =>
    match target with
    | some t => if isAllowedPrewarmTarget t known then none else some .targetNotInContext
    | none => some .targetNotInContext
  | .keepAlive | .releaseMemory | .prefetchFile =>
    match target with
    | none => none
    | some t =>
      if t == "" then some .targetNotInContext
      else if isAllowedLowRiskTarget action t known then none
      else some .targetNotInContext

namespace PolicyEngine

/-- The checks of one turn of the action loop, in the order the loop makes them.
Without known targets the last one is skipped. -/
def denyAction (cfg : PolicyConfig F) (capability : CapabilityLevel)
    (known : Option KnownTargets) (approvedCount : Nat) (action : SuggestedAction) :
    Option DenialReason :=
  if approvedCount ≥ cfg.maxActionsPerBatch then some .batchActionCapExceeded
  else if cfg.blockedActions.any (fun blocked =>
      Text.contains blocked action.actionType.debug) then some .actionTypeBlocked
  else if action.urgency == .deferred then some .actionUrgencyDeferred
  else if !capability.allowsAction action.actionType then some .actionCapabilityDenied
  else match known with
    | some k => checkTarget action.actionType action.target k
    | none => none

def evaluateActions (cfg : PolicyConfig F) (capability : CapabilityLevel)
    (known : Option KnownTargets) (intentOrdinal : UInt32) :
    Nat → Nat → List SuggestedAction → List PolicyActionDecision
  | _, _, [] => []
  | approvedCount, ordinal, action :: rest =>
    match denyAction cfg capability known approvedCount action with
    | some reason =>
      ⟨intentOrdinal, UInt32.ofNat ordinal, .denied reason⟩ ::
        evaluateActions cfg capability known intentOrdinal approvedCount (ordinal + 1) rest
    | none =>
      ⟨intentOrdinal, UInt32.ofNat ordinal, .approved⟩ ::
        evaluateActions cfg capability known intentOrdinal (approvedCount + 1) (ordinal + 1) rest

def deniedAll (intent : Intent F) (intentOrdinal : UInt32) (reason : DenialReason) :
    List PolicyActionDecision :=
  (List.range intent.suggestedActions.length).map fun ordinal =>
    ⟨intentOrdinal, UInt32.ofNat ordinal, .denied reason⟩

section
variable [LT F] [DecidableLT F]

def evaluateIntent (cfg : PolicyConfig F) (intent : Intent F) (intentOrdinal : UInt32)
    (capability : CapabilityLevel) (known : Option KnownTargets) : List PolicyActionDecision :=
  if !capability.allowsRisk intent.riskLevel then
    deniedAll intent intentOrdinal .riskExceedsCapability
  else if intent.riskLevel.toNat > cfg.maxAutoRisk.toNat then
    deniedAll intent intentOrdinal .riskExceedsConfig
  else if intent.confidence < cfg.minConfidence then
    deniedAll intent intentOrdinal .confidenceTooLow
  else evaluateActions cfg capability known intentOrdinal 0 0 intent.suggestedActions

def evaluateIntents (cfg : PolicyConfig F) (batch : IntentBatch F)
    (capability : CapabilityLevel) (known : Option KnownTargets) : List PolicyActionDecision :=
  batch.intents.zipIdx.flatMap fun (intent, ordinal) =>
    evaluateIntent cfg intent (UInt32.ofNat ordinal) capability known

def evaluateBatch (cfg : PolicyConfig F) (batch : IntentBatch F) : List PolicyActionDecision :=
  evaluateIntents cfg batch (CapabilityLevel.forRoute .mock) none

def evaluateBatchWithCapability (cfg : PolicyConfig F) (batch : IntentBatch F)
    (capability : CapabilityLevel) : List PolicyActionDecision :=
  evaluateIntents cfg batch capability none

def evaluateBatchWithContext (cfg : PolicyConfig F) (batch : IntentBatch F)
    (capability : CapabilityLevel) (ctx : StructuredContext) : List PolicyActionDecision :=
  evaluateIntents cfg batch capability (some (KnownTargets.fromContext ctx))

end

/-! ### The policy as a decision table -/

section
variable [LT F] [DecidableLT F]

/-- Every condition an action must meet, in order of precedence.  `approvedBefore`
is the number of actions of the same intent approved so far. -/
def checks (cfg : PolicyConfig F) (capability : CapabilityLevel) (known : KnownTargets)
    (intent : Intent F) (approvedBefore : Nat) (action : SuggestedAction) :
    List (Guard DenialReason) :=
  [(capability.allowsRisk intent.riskLevel, .riskExceedsCapability),
   (decide (intent.riskLevel.toNat ≤ cfg.maxAutoRisk.toNat), .riskExceedsConfig),
   (decide (¬ intent.confidence < cfg.minConfidence), .confidenceTooLow),
   (decide (approvedBefore < cfg.maxActionsPerBatch), .batchActionCapExceeded),
   (cfg.blockedActions.all (fun blocked => !Text.contains blocked action.actionType.debug),
     .actionTypeBlocked),
   (decide (action.urgency ≠ .deferred), .actionUrgencyDeferred),
   (capability.allowsAction action.actionType, .actionCapabilityDenied),
   ((checkTarget action.actionType action.target known).isNone, .targetNotInContext)]

/-- The table's conditions in words. -/
structure Authorised (cfg : PolicyConfig F) (capability : CapabilityLevel)
    (known : KnownTargets) (intent : Intent F) (approvedBefore : Nat)
    (action : SuggestedAction) : Prop where
  riskWithinCapability : intent.riskLevel.toNat ≤ capability.maxRisk.toNat
  riskWithinConfig : intent.riskLevel.toNat ≤ cfg.maxAutoRisk.toNat
  confidenceNotBelowFloor : ¬ intent.confidence < cfg.minConfidence
  underCap : approvedBefore < cfg.maxActionsPerBatch
  notBlocked : ∀ blocked ∈ cfg.blockedActions,
    ¬ blocked.toList <:+: action.actionType.debug.toList
  notDeferred : action.urgency ≠ .deferred
  withinCapability : action.actionType ∈ capability.allowedActions
  targetPasses : checkTarget action.actionType action.target known = none

theorem checks_none_iff {cfg : PolicyConfig F} {capability : CapabilityLevel}
    {known : KnownTargets} {intent : Intent F} {n : Nat} {action : SuggestedAction} :
    firstFailure (checks cfg capability known intent n action) = none ↔
      Authorised cfg capability known intent n action := by
  rw [firstFailure_eq_none]
  constructor
  · intro h
    simp only [checks, List.mem_cons, List.not_mem_nil, or_false, forall_eq_or_imp, forall_eq,
      CapabilityLevel.allowsRisk, CapabilityLevel.allowsAction, Text.contains,
      decide_eq_true_eq, List.all_eq_true, Bool.not_eq_true', decide_eq_false_iff_not,
      List.contains_iff_mem, Option.isNone_iff_eq_none] at h
    obtain ⟨h1, h2, h3, h4, h5, h6, h7, h8⟩ := h
    exact ⟨h1, h2, h3, h4, h5, h6, h7, h8⟩
  · rintro ⟨h1, h2, h3, h4, h5, h6, h7, h8⟩
    simpa [checks, CapabilityLevel.allowsRisk, CapabilityLevel.allowsAction, Text.contains,
      h1, h2, h3, h4, h6, h7, h8] using h5

end

def toVerdict : Option DenialReason → PolicyVerdict
  | none => .approved
  | some reason => .denied reason

def approvals (ds : List PolicyActionDecision) : Nat :=
  ds.countP (fun d => decide (d.verdict = .approved))

def judge (deny : Nat → SuggestedAction → Option DenialReason) (intentOrdinal : UInt32) :
    Nat → Nat → List SuggestedAction → List PolicyActionDecision
  | _, _, [] => []
  | approved, ordinal, action :: rest =>
    ⟨intentOrdinal, UInt32.ofNat ordinal, toVerdict (deny approved action)⟩ ::
      judge deny intentOrdinal (approved + if deny approved action = none then 1 else 0)
        (ordinal + 1) rest

@[simp] theorem toVerdict_eq_approved {o : Option DenialReason} :
    toVerdict o = .approved ↔ o = none := by
  cases o <;> simp [toVerdict]

@[simp] theorem toVerdict_eq_denied {o : Option DenialReason} {reason : DenialReason} :
    toVerdict o = .denied reason ↔ o = some reason := by
  cases o <;> simp [toVerdict]

section judge
variable {deny : Nat → SuggestedAction → Option DenialReason} {i : UInt32}

@[simp] theorem judge_length (n o : Nat) (actions : List SuggestedAction) :
    (judge deny i n o actions).length = actions.length := by
  induction actions generalizing n o with
  | nil => rfl
  | cons action rest ih => simp [judge, ih]

theorem judge_getElem? (n o : Nat) (actions : List SuggestedAction) (j : Nat) :
    (judge deny i n o actions)[j]? = actions[j]?.map fun action =>
      ⟨i, UInt32.ofNat (o + j),
        toVerdict (deny (n + approvals ((judge deny i n o actions).take j)) action)⟩ := by
  induction actions generalizing n o j with
  | nil => simp [judge]
  | cons action rest ih =>
    cases j with
    | zero => simp [judge, approvals]
    | succ j =>
      simp only [judge, List.getElem?_cons_succ, ih, List.take_succ_cons, approvals,
        List.countP_cons, toVerdict_eq_approved, decide_eq_true_eq]
      rw [Nat.add_right_comm o 1 j, Nat.add_assoc o j 1]
      simp only [Nat.add_assoc, Nat.add_comm]

theorem judge_forall₂ (n o : Nat) (actions : List SuggestedAction) :
    List.Forall₂ (fun (action, ordinal) d => ∃ m,
      d = ⟨i, UInt32.ofNat ordinal, toVerdict (deny m action)⟩)
      (actions.zipIdx o) (judge deny i n o actions) := by
  induction actions generalizing n o with
  | nil => exact .nil
  | cons action rest ih => exact .cons ⟨n, rfl⟩ (ih _ _)

theorem judge_approvals_le {cap : Nat} (hcap : ∀ n action, deny n action = none → n < cap)
    (n o : Nat) (actions : List SuggestedAction) :
    approvals (judge deny i n o actions) ≤ cap - n := by
  induction actions generalizing n o with
  | nil => simp [judge, approvals]
  | cons action rest ih =>
    have hrest := ih (n + if deny n action = none then 1 else 0) (o + 1)
    simp only [judge, approvals, List.countP_cons, toVerdict_eq_approved,
      decide_eq_true_eq] at hrest ⊢
    split at hrest
    · have := hcap n action ‹_›
      simp_all only [if_true]
      omega
    · simpa [*] using hrest

end judge

theorem evaluateActions_eq_judge (cfg : PolicyConfig F) (capability : CapabilityLevel)
    (known : Option KnownTargets) (i : UInt32) (n o : Nat) (actions : List SuggestedAction) :
    evaluateActions cfg capability known i n o actions =
      judge (denyAction cfg capability known) i n o actions := by
  induction actions generalizing n o with
  | nil => rfl
  | cons action rest ih =>
    simp only [evaluateActions, judge]
    split <;> simp [*, toVerdict]

theorem deniedAll_eq_judge (intent : Intent F) (i : UInt32) (reason : DenialReason) :
    deniedAll intent i reason = judge (fun _ _ => some reason) i 0 0 intent.suggestedActions := by
  apply List.ext_getElem?
  intro j
  rw [judge_getElem?, deniedAll, List.getElem?_map]
  by_cases h : j < intent.suggestedActions.length
  · simp [List.getElem?_range h, List.getElem?_eq_getElem h, toVerdict]
  · simp [h]

section
variable [LT F] [DecidableLT F]

theorem checkTarget_eq (action : ActionType) (target : Option String) (known : KnownTargets) :
    checkTarget action target known =
      if (checkTarget action target known).isNone then none else some .targetNotInContext := by
  cases action <;> cases target <;> simp only [checkTarget] <;> (repeat' split) <;> simp_all

theorem denyAction_eq_firstFailure {cfg : PolicyConfig F} {capability : CapabilityLevel}
    {known : KnownTargets} {intent : Intent F}
    (hcap : capability.allowsRisk intent.riskLevel = true)
    (hrisk : intent.riskLevel.toNat ≤ cfg.maxAutoRisk.toNat)
    (hconf : ¬ intent.confidence < cfg.minConfidence) (n : Nat) (action : SuggestedAction) :
    denyAction cfg capability (some known) n action =
      firstFailure (checks cfg capability known intent n action) := by
  rw [denyAction, checkTarget_eq]
  simp only [checks, hcap, hrisk, hconf, firstFailure, not_false_eq_true, decide_true, if_true]
  by_cases h1 : n < cfg.maxActionsPerBatch
  case neg => simp [h1, Nat.not_lt.mp h1]
  rw [if_neg (Nat.not_le.mpr h1)]
  cases h2 : cfg.blockedActions.any
    (fun blocked => Text.contains blocked action.actionType.debug) with
  | true =>
    have : cfg.blockedActions.all
        (fun blocked => !Text.contains blocked action.actionType.debug) = false := by
      rw [← Bool.not_eq_true, List.all_eq_true]
      intro hall
      obtain ⟨b, hb, hc⟩ := List.any_eq_true.mp h2
      simpa [hc] using hall b hb
    simp [h1, this]
  | false =>
    have : cfg.blockedActions.all
        (fun blocked => !Text.contains blocked action.actionType.debug) = true := by
      rw [List.any_eq_false] at h2
      simpa [List.all_eq_true] using h2
    by_cases h3 : action.urgency = .deferred
    · simp [h1, this, h3]
    · cases h4 : capability.allowsAction action.actionType <;> simp [h1, this, h3]

theorem evaluateIntent_eq_judge (cfg : PolicyConfig F) (intent : Intent F) (i : UInt32)
    (capability : CapabilityLevel) (known : KnownTargets) :
    evaluateIntent cfg intent i capability (some known) =
      judge (fun n action => firstFailure (checks cfg capability known intent n action))
        i 0 0 intent.suggestedActions := by
  rw [evaluateIntent]
  cases h1 : capability.allowsRisk intent.riskLevel with
  | false => simp [deniedAll_eq_judge, checks, h1]
  | true =>
    by_cases h2 : intent.riskLevel.toNat ≤ cfg.maxAutoRisk.toNat
    case neg => simp [deniedAll_eq_judge, checks, h1, h2, Nat.not_le.mp h2]
    by_cases h3 : intent.confidence < cfg.minConfidence
    case pos => simp [deniedAll_eq_judge, checks, h1, h2, h3, Nat.not_lt.mpr h2]
    simp only [Bool.not_true, Bool.false_eq_true, if_false, Nat.not_lt.mpr h2, h3,
      evaluateActions_eq_judge]
    congr 1
    funext n action
    exact denyAction_eq_firstFailure h1 h2 h3 n action

/-- The verdicts of a batch are one group for each intent, one verdict for each
action.  A verdict is the first failing condition of the table, approval when none
fails, and the cap in it counts approvals only. -/
theorem evaluateBatchWithContext_exact (cfg : PolicyConfig F) (batch : IntentBatch F)
    (capability : CapabilityLevel) (ctx : StructuredContext) :
    ∃ groups : List (List PolicyActionDecision),
      evaluateBatchWithContext cfg batch capability ctx = groups.flatten ∧
      groups.length = batch.intents.length ∧
      ∀ i intent ds, batch.intents[i]? = some intent → groups[i]? = some ds →
        ds.length = intent.suggestedActions.length ∧
        approvals ds ≤ cfg.maxActionsPerBatch ∧
        ∀ j action d, intent.suggestedActions[j]? = some action → ds[j]? = some d →
          d.intentOrdinal = UInt32.ofNat i ∧ d.actionOrdinal = UInt32.ofNat j ∧
          (d.verdict = .approved ↔
            Authorised cfg capability (KnownTargets.fromContext ctx) intent
              (approvals (ds.take j)) action) ∧
          ∀ reason, d.verdict = .denied reason ↔
            firstFailure (checks cfg capability (KnownTargets.fromContext ctx) intent
              (approvals (ds.take j)) action) = some reason := by
  refine ⟨batch.intents.zipIdx.map fun (intent, ordinal) =>
    evaluateIntent cfg intent (UInt32.ofNat ordinal) capability
      (some (KnownTargets.fromContext ctx)), ?_, by simp, ?_⟩
  · simp [evaluateBatchWithContext, evaluateIntents, List.flatMap_def]
  intro i intent ds hi hds
  simp only [List.getElem?_map, List.getElem?_zipIdx, hi, Option.map_some, Nat.zero_add,
    Option.some.injEq] at hds
  subst hds
  rw [evaluateIntent_eq_judge]
  refine ⟨judge_length 0 0 _, judge_approvals_le (fun n action h => ?_) 0 0 _, ?_⟩
  · exact (checks_none_iff.mp h).underCap
  intro j action d hj hd
  rw [judge_getElem?, hj, Option.map_some, Option.some.injEq] at hd
  subst hd
  refine ⟨rfl, by simp, ?_, fun reason => ?_⟩
  · rw [toVerdict_eq_approved, checks_none_iff, Nat.zero_add]
  · rw [toVerdict_eq_denied, Nat.zero_add]

end

end PolicyEngine

end Dipecs.Core
