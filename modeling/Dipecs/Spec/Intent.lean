import Dipecs.Spec.Event

/-! Intents and actions: what a decision backend asks for, and the capability
each route grants it.  `F` is the carrier of `f32`; nothing here computes with it. -/

namespace Dipecs.Spec

inductive DecisionRoute
  | ruleBased | localEvaluator | cloudLlm | fallbackNoOp | mock
  deriving DecidableEq

def DecisionRoute.debug : DecisionRoute → String
  | .ruleBased => "RuleBased"
  | .localEvaluator => "LocalEvaluator"
  | .cloudLlm => "CloudLlm"
  | .fallbackNoOp => "FallbackNoOp"
  | .mock => "Mock"

inductive IntentType
  | openApp (package : String)
  | switchToApp (package : String)
  | checkNotification (package : String)
  | handleFile (category : ExtensionCategory)
  | enterContext (context : String)
  | idle
  deriving DecidableEq

inductive RiskLevel
  | low | medium | high
  deriving DecidableEq

def RiskLevel.toNat : RiskLevel → Nat
  | .low => 0
  | .medium => 1
  | .high => 2

inductive ActionType
  | preWarmProcess | prefetchFile | keepAlive | releaseMemory | noOp
  deriving DecidableEq

/-- The derived `Debug` name, which policy, audit and device all match on. -/
def ActionType.debug : ActionType → String
  | .preWarmProcess => "PreWarmProcess"
  | .prefetchFile => "PrefetchFile"
  | .keepAlive => "KeepAlive"
  | .releaseMemory => "ReleaseMemory"
  | .noOp => "NoOp"

inductive ActionUrgency
  | immediate | idleTime | deferred
  deriving DecidableEq

structure SuggestedAction where
  actionType : ActionType
  target : Option String
  urgency : ActionUrgency
  deriving DecidableEq

structure Intent (F : Type) where
  intentId : String
  intentType : IntentType
  confidence : F
  riskLevel : RiskLevel
  suggestedActions : List SuggestedAction
  rationaleTags : List String
  deriving DecidableEq

structure IntentBatch (F : Type) where
  windowId : String
  intents : List (Intent F)
  generatedAtMs : Int
  model : String
  deriving DecidableEq

structure DecisionBackendResult (F : Type) where
  route : DecisionRoute
  intentBatch : IntentBatch F
  rationaleTags : List String
  latencyUs : UInt64
  error : Option String
  deriving DecidableEq

inductive DenialReason
  | riskExceedsConfig
  | riskExceedsCapability
  | confidenceTooLow
  | actionTypeBlocked
  | actionUrgencyDeferred
  | actionCapabilityDenied
  | targetNotInContext
  | batchActionCapExceeded
  deriving DecidableEq

def DenialReason.debug : DenialReason → String
  | .riskExceedsConfig => "RiskExceedsConfig"
  | .riskExceedsCapability => "RiskExceedsCapability"
  | .confidenceTooLow => "ConfidenceTooLow"
  | .actionTypeBlocked => "ActionTypeBlocked"
  | .actionUrgencyDeferred => "ActionUrgencyDeferred"
  | .actionCapabilityDenied => "ActionCapabilityDenied"
  | .targetNotInContext => "TargetNotInContext"
  | .batchActionCapExceeded => "BatchActionCapExceeded"

structure CapabilityLevel where
  maxRisk : RiskLevel
  allowedActions : List ActionType
  deriving DecidableEq

namespace CapabilityLevel

def forRoute : DecisionRoute → CapabilityLevel
  | .ruleBased => ⟨.low, [.noOp, .releaseMemory, .keepAlive]⟩
  | .localEvaluator =>
    ⟨.low, [.noOp, .preWarmProcess, .prefetchFile, .releaseMemory, .keepAlive]⟩
  | .cloudLlm =>
    ⟨.medium, [.noOp, .preWarmProcess, .prefetchFile, .keepAlive, .releaseMemory]⟩
  | .fallbackNoOp => ⟨.low, [.noOp]⟩
  | .mock =>
    ⟨.medium, [.noOp, .preWarmProcess, .prefetchFile, .keepAlive, .releaseMemory]⟩

def allowsRisk (c : CapabilityLevel) (risk : RiskLevel) : Bool :=
  decide (risk.toNat ≤ c.maxRisk.toNat)

def allowsAction (c : CapabilityLevel) (action : ActionType) : Bool :=
  c.allowedActions.contains action

end CapabilityLevel

end Dipecs.Spec
