import Dipecs.Agent.RuleBased
import Mathlib.Algebra.GroupWithZero.Nat

/-! The decision router: circuit breaker, privacy gate, local signals and complexity
choose the backend that answers a model input. -/

namespace Dipecs.Agent

open Dipecs.Spec Dipecs.Core

variable {F : Type}

structure RouterConfig where
  privacyScoreThreshold : Nat := 3
  circuitBreakerThreshold : UInt32 := 5
  circuitBreakerWindowSecs : UInt64 := 60

abbrev DecisionBackend (F : Type) := ModelInput → DecisionBackendResult F

/-- The backends as they answer one call. -/
structure Backends (F : Type) where
  ruleBased : DecisionBackend F
  localEvaluator : DecisionBackend F
  fallback : DecisionBackend F
  cloudLlm : Option (DecisionBackend F)

/-- The readings of the monotone clock during one call, in nanoseconds. -/
structure Clock where
  now : Nat
  cutoffNow : Nat
  recordedAt : Nat

/-- The instants of the errors since the last success. -/
structure CircuitState where
  errors : List Nat

namespace CircuitState

def recordError (s : CircuitState) (now : Nat) : CircuitState := ⟨s.errors ++ [now]⟩

def recordSuccess (_ : CircuitState) : CircuitState := ⟨[]⟩

def countRecentErrors (s : CircuitState) (clock : Clock) (windowSecs : UInt64) : UInt32 :=
  let window := windowSecs.toNat * 10 ^ 9
  let cutoff := if window ≤ clock.now then clock.now - window else clock.cutoffNow
  UInt32.ofNat (s.errors.countP (cutoff ≤ ·))

end CircuitState

inductive RoutingReason
  | circuitBreakerTripped (failureCount : UInt32)
  | privacySensitive (score : Nat)
  | localActionableSignal
  | lowComplexity
  | localPreferred (complexity : String)
  | cloudPreferred (complexity : String)
  deriving DecidableEq

namespace RoutingReason

def tag : RoutingReason → String
  | .circuitBreakerTripped failureCount =>
    "routing:circuit_breaker_fallback(errors=" ++ toString failureCount ++ ")"
  | .privacySensitive score => "routing:privacy_sensitive(score=" ++ toString score ++ ")"
  | .localActionableSignal => "routing:local_actionable_signal"
  | .lowComplexity => "routing:low_complexity"
  | .localPreferred complexity => "routing:" ++ complexity ++ "_complexity(local_evaluator)"
  | .cloudPreferred complexity => "routing:" ++ complexity ++ "_complexity(cloud_llm)"

def isPrivacySensitive : RoutingReason → Bool
  | .privacySensitive _ => true
  | _ => false

end RoutingReason

structure DecisionRouter where
  config : RouterConfig
  runtimeUserId : Option String

/-- The answer to a model input, with the inputs handed to the cloud on the way. -/
structure Evaluation (F : Type) where
  result : DecisionBackendResult F
  circuit : CircuitState
  cloudInputs : List ModelInput

namespace DecisionRouter

def computePrivacyScore (context : StructuredContext) : Nat :=
  (context.events.map fun e =>
    e.hints.countP fun h => h = .verificationCode ∨ h = .financialContext).sum

def isLocalActionableSignal (e : SanitizedEvent) : Bool :=
  match e.eventType with
  | .fileActivity _ _ _ _ => true
  | .notification _ _ _ _ _ hints _ _ =>
    hints.any fun h => h = .fileMention ∨ h = .imageMention ∨ h = .linkAttachment
  | .appTransition _ _ .foreground => true
  | _ => false

def hasLocalActionableSignal (context : StructuredContext) : Bool :=
  context.events.any isLocalActionableSignal

def countUniqueSemanticHintTypes (context : StructuredContext) : Nat :=
  (context.events.flatMap SanitizedEvent.hints).dedup.length

def cloudRouteOrFallback (backends : Backends F) (complexity : String) :
    DecisionRoute × RoutingReason :=
  if backends.cloudLlm.isSome then (.cloudLlm, .cloudPreferred complexity)
  else (.localEvaluator, .localPreferred complexity)

def determineRoute (router : DecisionRouter) (backends : Backends F) (clock : Clock)
    (circuit : CircuitState) (context : StructuredContext) : DecisionRoute × RoutingReason :=
  let errorCount := circuit.countRecentErrors clock router.config.circuitBreakerWindowSecs
  let score := computePrivacyScore context
  if errorCount ≥ router.config.circuitBreakerThreshold then
    (.fallbackNoOp, .circuitBreakerTripped errorCount)
  else if score > router.config.privacyScoreThreshold then (.ruleBased, .privacySensitive score)
  else if hasLocalActionableSignal context then (.localEvaluator, .localActionableSignal)
  else match countUniqueSemanticHintTypes context with
    | 0 | 1 => (.ruleBased, .lowComplexity)
    | 2 | 3 => cloudRouteOrFallback backends "medium"
    | _ => cloudRouteOrFallback backends "high"

def withRuntimeUser (router : DecisionRouter) (input : ModelInput) : ModelInput :=
  match input.behaviorProfile.userId, router.runtimeUserId with
  | none, some userId =>
    { input with behaviorProfile := { input.behaviorProfile with userId := some userId } }
  | _, _ => input

def cloudFailed (fallback : DecisionBackendResult F) (error : String) : DecisionBackendResult F :=
  { fallback with
    error := some ("cloud llm backend failed: " ++ error)
    rationaleTags :=
      fallback.rationaleTags ++ ["backend:cloud_llm_error(rule_based_fallback)"] }

/-- The result of the route's backend, and whether it counts as a failure. -/
def dispatch (backends : Backends F) (route : DecisionRoute) (input : ModelInput) :
    DecisionBackendResult F × Bool :=
  match route with
  | .localEvaluator =>
    let result := backends.localEvaluator input
    (result, result.error.isSome)
  | .cloudLlm =>
    match backends.cloudLlm with
    | some backend =>
      let cloudResult := backend input
      match cloudResult.error with
      | some error => (cloudFailed (backends.ruleBased input) error, true)
      | none => (cloudResult, false)
    | none =>
      let result := backends.ruleBased input
      (result, result.error.isSome)
  | .fallbackNoOp => (backends.fallback input, false)
  | .ruleBased | .mock =>
    let result := backends.ruleBased input
    (result, result.error.isSome)

def cloudInputs (backends : Backends F) (route : DecisionRoute) (input : ModelInput) :
    List ModelInput :=
  if route = .cloudLlm ∧ backends.cloudLlm.isSome then [input] else []

def injectTag (result : DecisionBackendResult F) (tag : String) : DecisionBackendResult F :=
  if tag ∈ result.rationaleTags then result
  else { result with rationaleTags := result.rationaleTags ++ [tag] }

def evaluateModelInput (router : DecisionRouter) (backends : Backends F) (clock : Clock)
    (circuit : CircuitState) (input : ModelInput) : Evaluation F :=
  let input := router.withRuntimeUser input
  let route := router.determineRoute backends clock circuit input.currentContext
  let answer := dispatch backends route.1 input
  { result := injectTag answer.1 route.2.tag
    circuit := if answer.2 then circuit.recordError clock.recordedAt else circuit.recordSuccess
    cloudInputs := cloudInputs backends route.1 input }

@[simp] theorem withRuntimeUser_currentContext (router : DecisionRouter) (input : ModelInput) :
    (router.withRuntimeUser input).currentContext = input.currentContext := by
  unfold withRuntimeUser
  split <;> rfl

theorem determineRoute_privacySensitive {router : DecisionRouter} {backends : Backends F}
    {clock : Clock} {circuit : CircuitState} {context : StructuredContext}
    (h : (router.determineRoute backends clock circuit context).2.isPrivacySensitive = true) :
    router.determineRoute backends clock circuit context =
      (.ruleBased, .privacySensitive (computePrivacyScore context)) := by
  have hcloud : ∀ complexity,
      (cloudRouteOrFallback backends complexity).2.isPrivacySensitive = false := by
    intro complexity
    unfold cloudRouteOrFallback
    split <;> rfl
  simp only [determineRoute] at h ⊢
  split at h
  · cases h
  · split at h
    · rw [if_neg ‹_›, if_pos ‹_›]
    · split at h
      · cases h
      · split at h
        · cases h
        · cases h
        · rw [hcloud] at h
          cases h
        · rw [hcloud] at h
          cases h
        · rw [hcloud] at h
          cases h

theorem evaluateModelInput_privacySensitive {router : DecisionRouter} {backends : Backends F}
    {clock : Clock} {circuit : CircuitState} (input : ModelInput)
    (h : (router.determineRoute backends clock circuit
      input.currentContext).2.isPrivacySensitive = true) :
    let result := backends.ruleBased (router.withRuntimeUser input)
    router.evaluateModelInput backends clock circuit input =
      { result := injectTag result
          (RoutingReason.privacySensitive (computePrivacyScore input.currentContext)).tag
        circuit := if result.error.isSome then circuit.recordError clock.recordedAt
          else circuit.recordSuccess
        cloudInputs := [] } := by
  simp only [evaluateModelInput, withRuntimeUser_currentContext,
    determineRoute_privacySensitive h, dispatch]
  rfl

end DecisionRouter

end Dipecs.Agent
