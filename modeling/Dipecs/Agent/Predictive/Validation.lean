import Dipecs.Agent.Predictive.Components
import Dipecs.Library.Text

/-! The checks that an artifact has to pass before a predictor is built on it. -/

namespace Dipecs.Agent.Predictive

open Dipecs.Library

section
variable {F : Type}

def requireInVocab (appVocab : List String) (app message : String) : Except String Unit :=
  require (app ∈ appVocab) message

def validateScoreList (label : String) (scores : List (AppScore F)) (appVocab : List String)
    (requireFullVocab : Bool) : Except String Unit := do
  require (!requireFullVocab || scores.length == appVocab.length)
    ("artifact " ++ label ++ " must contain exactly one score per app_vocab entry")
  requireEach AppScore.app
    (fun score => requireInVocab appVocab score.app
      ("artifact " ++ label ++ " references app `" ++ score.app ++ "` outside app_vocab"))
    (fun _ => .ok ())
    (fun score => "artifact " ++ label ++ " contains duplicate score for app `" ++ score.app ++ "`")
    [] scores

/-- A key that ends in a tab and an app of the vocabulary. -/
def validateKey (appVocab : List String) (key malformed : String) (unknown : String → String) :
    Except String Unit :=
  match Text.rsplitOnce '\t' key with
  | none => .error malformed
  | some (_, currentApp) => requireInVocab appVocab currentApp (unknown currentApp)

def validateVocab (appVocab : List String) : Except String Unit := do
  require (!appVocab.isEmpty) "artifact app_vocab is empty"
  requireEach id (fun _ => .ok ()) (fun _ => .ok ())
    (fun app => "artifact app_vocab contains duplicate app `" ++ app ++ "`") [] appVocab

def validateSizes (a : NextAppModelArtifact F) : Except String Unit := do
  let classes := a.appVocab.length
  require (a.naiveBayes.classLogPriors.length == classes &&
      a.naiveBayes.unknownFeatureLogProbs.length == classes &&
      a.featureLift.baseScores.length == classes &&
      a.featureLift.trees.all fun tree => tree.yesScores.length == classes)
    "artifact vector sizes do not match app_vocab"
  require (a.naiveBayes.featureLogProbs.entries.all fun (_, probs) => probs.length == classes)
    "artifact naive_bayes feature_log_probs vector sizes do not match app_vocab"

def validateMarkov (a : NextAppModelArtifact F) : Except String Unit := do
  requireAll (fun (currentApp, scores) => do
      requireInVocab a.appVocab currentApp
        ("artifact markov global transition key `" ++ currentApp ++ "` is not in app_vocab")
      validateScoreList ("markov.global_transitions[" ++ currentApp ++ "]") scores a.appVocab false)
    a.markov.globalTransitions.entries
  requireAll (fun (key, scores) => do
      validateKey a.appVocab key
        ("artifact markov user transition key `" ++ key ++ "` is not user_id<TAB>current_app")
        (fun currentApp => "artifact markov user transition current app `" ++ currentApp ++
          "` is not in app_vocab")
      validateScoreList ("markov.user_transitions[" ++ key ++ "]") scores a.appVocab false)
    a.markov.userTransitions.entries
  requireAll (fun (key, scores) => do
      validateKey a.appVocab key
        ("artifact markov order2 key `" ++ key ++ "` is not prev_app<TAB>current_app")
        (fun currentApp => "artifact markov order2 current app `" ++ currentApp ++
          "` is not in app_vocab")
      validateScoreList ("markov.global_transitions_order2[" ++ key ++ "]") scores a.appVocab false)
    a.markov.globalTransitionsOrder2.entries

def validateUserRecency (a : NextAppModelArtifact F) : Except String Unit :=
  requireAll (fun (key, app) => do
      validateKey a.appVocab key
        ("artifact user_recency key `" ++ key ++ "` is not user_id<TAB>current_app")
        (fun currentApp => "artifact user_recency current app `" ++ currentApp ++
          "` is not in app_vocab")
      requireInVocab a.appVocab app
        ("artifact user_recency target app `" ++ app ++ "` is not in app_vocab"))
    a.userRecency.entries

def validateLogistic (l : LogisticRerankerModel F) : Except String Unit :=
  if l.featureNames.isEmpty && l.weights.isEmpty then .ok ()
  else do
    require (!l.featureNames.isEmpty && !l.weights.isEmpty &&
        l.featureNames.length == l.weights.length)
      "artifact ensemble_logistic feature_names and weights must be non-empty parallel vectors"
    require (l.featureNames = logisticFeatureNames)
      "artifact ensemble_logistic feature_names do not match runtime features"
    require (l.weights.length == logisticFeatureNames.length)
      "artifact ensemble_logistic weights length does not match feature_names"

end

section
variable {F : Type} [OfScientific F] [LT F] [DecidableLT F]

def validateCombiner (m : ScoreMath F) (combiner : EnsembleCombiner F) : Except String Unit :=
  if combiner.components.isEmpty && combiner.weights.isEmpty then .ok ()
  else do
    require (!combiner.components.isEmpty && !combiner.weights.isEmpty &&
        combiner.components.length == combiner.weights.length)
      "artifact ensemble_combiner components and weights must be parallel vectors"
    requireEach Prod.fst
      (fun (component, _) => require (component ∈ ensembleComponentNames)
        ("artifact ensemble_combiner component `" ++ component ++ "` is unknown"))
      (fun (component, weight) => require (m.isFinite weight && !(weight < 0.0))
        ("artifact ensemble_combiner weight for `" ++ component ++
          "` must be finite and non-negative"))
      (fun (component, _) =>
        "artifact ensemble_combiner contains duplicate component `" ++ component ++ "`")
      [] (combiner.components.zip combiner.weights)

def validateArtifact (m : ScoreMath F) (a : NextAppModelArtifact F) : Except String Unit := do
  require (a.schemaVersion = schemaVersion)
    ("unsupported next-app artifact schema " ++ a.schemaVersion ++ "; expected " ++ schemaVersion)
  validateVocab a.appVocab
  validateSizes a
  validateScoreList "global_popularity" a.globalPopularity a.appVocab true
  validateMarkov a
  requireAll (fun tree => validateScoreList
      ("feature_lift.tree[" ++ tree.featureKey ++ "].yes_scores") tree.yesScores a.appVocab true)
    a.featureLift.trees
  requireAll (fun (key, scores) =>
      validateScoreList ("markov_context[" ++ key ++ "]") scores a.appVocab false)
    a.markovContext.entries
  requireAll (fun (userId, scores) =>
      validateScoreList ("user_frequency[" ++ userId ++ "]") scores a.appVocab false)
    a.userFrequency.entries
  validateUserRecency a
  validateCombiner m a.ensembleCombiner
  validateLogistic a.ensembleLogistic

def NextAppPredictor.new (m : ScoreMath F) (a : NextAppModelArtifact F) :
    Except String (NextAppPredictor F) := do
  validateArtifact m a
  return ⟨a, appIndexOf a.appVocab⟩

end

end Dipecs.Agent.Predictive
