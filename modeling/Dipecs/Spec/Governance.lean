import Dipecs.Spec.Context

/-! Action governance: proposals, coordinates, lifecycle states and audit records. -/

namespace Dipecs.Spec

structure ActionCoord where
  windowOrdinal : UInt32
  intentOrdinal : UInt32
  actionOrdinal : UInt32
  deriving DecidableEq

inductive EffectClass
  | pureRead | localCacheWrite | localStateChange
  deriving DecidableEq

def EffectClass.fromActionType : ActionType → EffectClass
  | .noOp => .pureRead
  | .prefetchFile => .localCacheWrite
  | .preWarmProcess | .keepAlive | .releaseMemory => .localStateChange

structure ActionProposal where
  intentId : String
  coord : ActionCoord
  action : SuggestedAction
  effect : EffectClass
  proposedAtMs : Int
  deriving DecidableEq

inductive ActionState
  | proposed | schemaValidated | policyChecked | dispatched
  | succeeded | rejectedInvalidSchema | deniedByCapability | deniedByPolicy | failed
  deriving DecidableEq

def ActionState.debug : ActionState → String
  | .proposed => "Proposed"
  | .schemaValidated => "SchemaValidated"
  | .policyChecked => "PolicyChecked"
  | .dispatched => "Dispatched"
  | .succeeded => "Succeeded"
  | .rejectedInvalidSchema => "RejectedInvalidSchema"
  | .deniedByCapability => "DeniedByCapability"
  | .deniedByPolicy => "DeniedByPolicy"
  | .failed => "Failed"

def ActionState.isTerminal : ActionState → Bool
  | .succeeded | .rejectedInvalidSchema | .deniedByCapability | .deniedByPolicy
  | .failed => true
  | _ => false

structure ActionOutcome where
  actionType : String
  target : Option String
  summary : String
  latencyUs : UInt64
  deriving DecidableEq

structure ActionOutcomeSummary where
  actionType : String
  target : Option String
  summary : String
  deriving DecidableEq

def ActionOutcomeSummary.fromOutcome (o : ActionOutcome) : ActionOutcomeSummary :=
  ⟨o.actionType, o.target, o.summary⟩

inductive AdapterError
  | simulatedResourceUnavailable (msg : String)
  | androidBridgeError (msg : String)
  | executionError (msg : String)
  deriving DecidableEq

def AdapterError.display : AdapterError → String
  | .simulatedResourceUnavailable msg => "simulated resource unavailable: " ++ msg
  | .androidBridgeError msg => "android bridge error: " ++ msg
  | .executionError msg => "execution error: " ++ msg

inductive PolicyVerdict
  | approved
  | denied (reason : DenialReason)
  deriving DecidableEq

structure PolicyActionDecision where
  intentOrdinal : UInt32
  actionOrdinal : UInt32
  verdict : PolicyVerdict
  deriving DecidableEq

structure AuditRecord where
  coord : ActionCoord
  intentId : String
  actionType : ActionType
  target : Option String
  effect : EffectClass
  route : DecisionRoute
  backendError : Option String
  transitions : List ActionState
  terminal : ActionState
  outcome : Option ActionOutcomeSummary
  denialReason : Option DenialReason
  error : Option String
  sourceTier : SourceTier
  deriving DecidableEq

namespace AuditRecord

def new (proposal : ActionProposal) (route : DecisionRoute) (tier : SourceTier) :
    AuditRecord where
  coord := proposal.coord
  intentId := proposal.intentId
  actionType := proposal.action.actionType
  target := proposal.action.target
  effect := proposal.effect
  route := route
  backendError := none
  transitions := [.proposed]
  terminal := .proposed
  outcome := none
  denialReason := none
  error := none
  sourceTier := tier

def transition (r : AuditRecord) (state : ActionState) : AuditRecord :=
  { r with transitions := r.transitions ++ [state], terminal := state }

end AuditRecord

/-- The credential an adapter executes; only the lifecycle seals one. -/
structure AuthorizedAction where
  intentId : String
  coord : ActionCoord
  action : SuggestedAction
  effect : EffectClass
  authorizedAtMs : Int
  deriving DecidableEq

def AuthorizedAction.seal (proposal : ActionProposal) (authorizedAtMs : Int) :
    AuthorizedAction :=
  ⟨proposal.intentId, proposal.coord, proposal.action, proposal.effect, authorizedAtMs⟩

end Dipecs.Spec
