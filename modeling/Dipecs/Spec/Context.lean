import Dipecs.Spec.Intent

/-! Context windows, and the model input that carries behaviour memory with them. -/

namespace Dipecs.Spec

structure SystemStatusSnapshot where
  batteryPct : Option UInt8
  isCharging : Bool
  network : NetworkType
  ringerMode : RingerMode
  locationType : LocationType
  headphoneConnected : Bool
  deriving DecidableEq

structure ContextSummary where
  foregroundApps : List String
  notifiedApps : List String
  allSemanticHints : List SemanticHint
  fileActivity : List (ExtensionCategory × UInt32)
  latestSystemStatus : Option SystemStatusSnapshot
  sourceTier : SourceTier
  deriving DecidableEq

structure StructuredContext where
  windowId : String
  windowStartMs : Int
  windowEndMs : Int
  durationSecs : UInt32
  events : List SanitizedEvent
  summary : ContextSummary
  deriving DecidableEq

inductive FeedbackCorrectness
  | likelyCorrect | predictionHit | predictionMiss | policyRejected
  | executionFailed | neutralNoOp | unknown
  deriving DecidableEq

structure ActionFeedbackRecord where
  actionType : String
  target : Option String
  terminal : String
  correctness : FeedbackCorrectness
  correctnessEvidence : String
  denialReason : Option String
  error : Option String
  outcomeSummary : Option String
  deriving DecidableEq

structure RecentDecisionRecord where
  windowId : String
  windowStartMs : Int
  windowEndMs : Int
  foregroundApps : List String
  notifiedApps : List String
  semanticHints : List SemanticHint
  route : String
  model : String
  intentCount : UInt32
  rationaleTags : List String
  backendError : Option String
  actionOutcomes : List ActionFeedbackRecord
  deriving DecidableEq

structure UserBehaviorProfile where
  userId : Option String
  summary : String
  observationWindows : UInt32
  frequentForegroundApps : List (String × UInt32)
  frequentNotifyingApps : List (String × UInt32)
  frequentSemanticHints : List (SemanticHint × UInt32)
  actionSuccesses : List (String × UInt32)
  actionDenials : List (String × UInt32)
  actionFailures : List (String × UInt32)
  lastUpdatedWindowId : Option String
  deriving DecidableEq

structure ModelInput where
  currentContext : StructuredContext
  behaviorProfile : UserBehaviorProfile
  recentFeedback : List RecentDecisionRecord
  deriving DecidableEq

end Dipecs.Spec
