import Dipecs.Agent.LocalEvaluator
import Dipecs.Agent.Predictive.Backend

/-! The local evaluator when a next-app model is loaded: the candidates of the heuristic, then
those of the model, with one idle intent left when there are none. -/

namespace Dipecs.Agent

open Dipecs.Spec Dipecs.Library Dipecs.Agent.Predictive

namespace CompositeLocalEvaluatorBackend

variable {F : Type}

def isIdleNoop (intent : Intent F) : Bool :=
  intent.intentType = .idle && intent.suggestedActions.all fun action => action.actionType = .noOp

def takeIdleNoop (intents : List (Intent F)) : Option (Intent F) × List (Intent F) :=
  (intents.find? isIdleNoop, intents.eraseP isIdleNoop)

def mergeTags (target source : List String) : List String :=
  source.foldl Core.ContextBuilder.pushNew target

def mergeErrors : Option String → Option String → Option String
  | some left, some right => some (left ++ "; " ++ right)
  | some error, none | none, some error => some error
  | none, none => none

def mergeIntents (heuristic predictive : List (Intent F)) : List (Intent F) :=
  let (heuristicIdle, heuristicIntents) := takeIdleNoop heuristic
  let (predictiveIdle, predictiveIntents) := takeIdleNoop predictive
  let intents := heuristicIntents ++ predictiveIntents
  if intents.isEmpty then (heuristicIdle.or predictiveIdle).toList else intents

def mergeResults (input : ModelInput) (heuristic predictive : DecisionBackendResult F) :
    DecisionBackendResult F where
  route := .localEvaluator
  intentBatch :=
    { windowId := input.currentContext.windowId
      intents := mergeIntents heuristic.intentBatch.intents predictive.intentBatch.intents
      generatedAtMs := input.currentContext.windowEndMs
      model := "local-evaluator+predictive-local-v0.1" }
  rationaleTags := mergeTags heuristic.rationaleTags predictive.rationaleTags
  latencyUs := heuristic.latencyUs + predictive.latencyUs
  error := mergeErrors heuristic.error predictive.error

def evaluateModelInput [LE F] [LT F] [DecidableLE F] [DecidableLT F] [Min F] [Max F] [Add F]
    [Sub F] [Mul F] [Div F] [Neg F] [NatCast F] [OfScientific F] (m : ScoreMath F)
    (p : NextAppPredictor F)
    (heuristicDraw predictiveDraw : BackendDraw)
    (order : Reordering (LocalEvaluator.IntentCandidate F)) (input : ModelInput) :
    Except Fault (DecisionBackendResult F) := do
  let heuristic := LocalEvaluator.evaluateModelInput heuristicDraw order input
  let predictive ← PredictiveLocalBackend.evaluateModelInput m p predictiveDraw input
  return mergeResults input heuristic predictive

theorem mem_of_mem_mergeIntents {heuristic predictive : List (Intent F)} {intent : Intent F}
    (h : intent ∈ mergeIntents heuristic predictive) :
    intent ∈ heuristic ∨ intent ∈ predictive := by
  rw [mergeIntents] at h
  dsimp only [takeIdleNoop] at h
  split_ifs at h
  · cases hheuristic : heuristic.find? isIdleNoop with
    | none =>
      rw [hheuristic, Option.none_or, Option.mem_toList] at h
      exact .inr (List.mem_of_find?_eq_some h)
    | some idle =>
      rw [hheuristic, Option.some_or, Option.mem_toList] at h
      exact .inl (Option.mem_some_iff.mp h ▸ List.mem_of_find?_eq_some hheuristic)
  · rcases List.mem_append.mp h with h | h
    · exact .inl (List.mem_of_mem_eraseP h)
    · exact .inr (List.mem_of_mem_eraseP h)

end CompositeLocalEvaluatorBackend

end Dipecs.Agent
