import Dipecs.Agent.Predictive.Ranking
import Dipecs.Agent.RuleBased
import Mathlib.Data.Finset.Basic

/-! The predictive backend: features are read off the model input, and each ranked app becomes
an intent. -/

namespace Dipecs.Agent.Predictive

open Dipecs.Spec Dipecs.Core Dipecs.Library

def latestForegroundApp (context : StructuredContext) : Option String :=
  context.events.reverse.findSome? SanitizedEvent.openedBy

def eventTypeName : SanitizedEventType → String
  | .appTransition _ _ _ => "app_transition"
  | .notification _ _ _ _ _ _ _ _ => "notification"
  | .fileActivity _ _ _ _ => "file_activity"
  | .screen _ => "screen"
  | .systemStatus _ _ _ _ _ _ => "system_status"
  | .processResource _ _ _ _ _ _ => "process_resource"
  | .interAppInteraction _ _ _ => "inter_app"

def featuresFromModelInput (input : ModelInput) : PredictionFeatures :=
  let context := input.currentContext
  let recentApps := input.recentFeedback.reverse.flatMap fun record =>
    record.foregroundApps.reverse
  { userId := input.behaviorProfile.userId
    currentApp := (latestForegroundApp context).or context.summary.foregroundApps.getLast?
    history := (recentApps.take 5).reverse
    hourBucket := some (hourBucket context.windowEndMs)
    weekday := some (weekday context.windowEndMs)
    eventType := context.events.getLast?.map fun e => eventTypeName e.eventType }

def packagesOf (e : SanitizedEvent) : List String :=
  e.appPackage.toList ++
    match e.eventType with
    | .appTransition package _ _ => [package]
    | .notification package _ _ _ _ _ _ _ => [package]
    | .processResource _ (some package) _ _ _ _ => [package]
    | _ => []

def knownPackages (context : StructuredContext) : Finset String :=
  (context.summary.foregroundApps ++ context.summary.notifiedApps ++
    context.events.flatMap packagesOf).toFinset

section
variable {F : Type} [OfScientific F] [LT F] [DecidableLT F]

def policyConfidenceFloor : F := 0.30

/-- An app in the context is warmed up; of any other only the heartbeat is kept alive. -/
def predictionToIntent (known : Finset String) (prediction : AppScore F) : Intent F where
  intentId := ""
  intentType :=
    if prediction.app ∈ known then .switchToApp prediction.app else .openApp prediction.app
  confidence := clamp policyConfidenceFloor 0.99 prediction.score
  riskLevel := .low
  suggestedActions :=
    if prediction.app ∈ known then [⟨.preWarmProcess, some ("pkg:" ++ prediction.app), .immediate⟩]
    else [⟨.keepAlive, some "work:collector_heartbeat", .immediate⟩]
  rationaleTags :=
    ["predictive:next_app",
      if prediction.app ∈ known then "predictive:target_in_context"
      else "predictive:target_not_in_context_safe_keepalive"]

def predictiveDrafts (known : Finset String) (predictions : List (AppScore F)) :
    List (Intent F) :=
  let found := predictions.map (predictionToIntent known)
  if found.isEmpty then
    [draft .idle 0.50 ⟨.noOp, none, .idleTime⟩ "predictive:idle_no_prediction"]
  else found

end

section
variable {F : Type} [Add F] [Sub F] [Mul F] [Div F] [Neg F] [NatCast F] [OfScientific F]
  [LE F] [LT F] [DecidableLE F] [DecidableLT F]

def PredictiveLocalBackend.evaluateModelInput (m : ScoreMath F) (p : NextAppPredictor F)
    (draw : BackendDraw) (input : ModelInput) : Except Fault (DecisionBackendResult F) := do
  let predictions ← p.rank m (featuresFromModelInput input) .ensemble maxBackendIntents
  let intents := drawIds draw (predictiveDrafts (knownPackages input.currentContext) predictions)
  return {
    route := .localEvaluator
    intentBatch :=
      ⟨input.currentContext.windowId, intents, input.currentContext.windowEndMs, modelName⟩
    rationaleTags := intents.flatMap Intent.rationaleTags
    latencyUs := draw.latencyUs
    error := none }

end

end Dipecs.Agent.Predictive
