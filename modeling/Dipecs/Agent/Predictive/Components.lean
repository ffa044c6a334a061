import Dipecs.Agent.Predictive.Types

/-! The component rankers of the next-app predictor. -/

namespace Dipecs.Agent.Predictive

open Dipecs.Library

/-- The index of each app, the last one where the vocabulary repeats itself. -/
def appIndexOf (appVocab : List String) : SortedMap String Nat :=
  SortedMap.ofList appVocab.zipIdx

/-- Built by `NextAppPredictor.new` only. -/
structure NextAppPredictor (F : Type) where
  artifact : NextAppModelArtifact F
  appIndex : SortedMap String Nat

def filterCurrentApp {F : Type} (scores : List (AppScore F)) (current : Option String) :
    List (AppScore F) :=
  match current with
  | some current => scores.filter (·.app ≠ current)
  | none => scores

def featureKeys (features : PredictionFeatures) : List String :=
  (features.userId.map ("user=" ++ ·)).toList ++
  (features.currentApp.map ("current=" ++ ·)).toList ++
  (features.history.getLast?.map ("prev=" ++ ·)).toList ++
  (features.history.reverse.take 3).zipIdx.map (fun x => "hist" ++ toString x.2 ++ "=" ++ x.1) ++
  (features.hourBucket.map fun hour => "hour=" ++ toString hour).toList ++
  (features.weekday.map fun weekday => "weekday=" ++ toString weekday).toList ++
  (features.eventType.map ("event=" ++ ·)).toList

def accumulate {F : Type} [Add F] [OfScientific F] (combined : SortedMap String F) (app : String)
    (score : F) : SortedMap String F :=
  combined.upsert app fun sum => sum.getD 0.0 + score

def scoresOf {F : Type} (combined : SortedMap String F) : List (AppScore F) :=
  combined.entries.map fun (app, score) => ⟨app, score⟩

section
variable {F : Type} [Add F] [Sub F] [Div F] [OfScientific F] [LE F] [LT F] [DecidableLE F]
  [DecidableLT F]

def addVec : List F → List F → List F
  | target :: targets, value :: values => (target + value) :: addVec targets values
  | targets, [] => targets
  | [], _ => []

def sumOf (l : List F) : F := l.foldl (· + ·) 0.0

def softmax (m : ScoreMath F) (appVocab : List String) (logits : List F) : List (AppScore F) :=
  let max := logits.foldl maxNum m.negInfinity
  let exp := logits.map fun score => m.exp (score - max)
  let sum := sumOf exp
  (appVocab.zip exp).map fun (app, value) => ⟨app, if 0.0 < sum then value / sum else 0.0⟩

def rankFromLogits (m : ScoreMath F) (appVocab : List String) (logits : List F) :
    Except Fault (List (AppScore F)) :=
  m.sortScores (softmax m appVocab logits)

namespace NextAppPredictor
variable (m : ScoreMath F) (p : NextAppPredictor F) (features : PredictionFeatures)

def naiveBayesLogits : List F :=
  let model := p.artifact.naiveBayes
  (featureKeys features).foldl (fun scores featureKey =>
    addVec scores ((model.featureLogProbs.get featureKey).getD model.unknownFeatureLogProbs))
    model.classLogPriors

def rankNaiveBayes : Except Fault (List (AppScore F)) :=
  rankFromLogits m p.artifact.appVocab (p.naiveBayesLogits features)

def userTransitionScores : Option (List (AppScore F)) := do
  let user ← features.userId
  let current ← features.currentApp
  p.artifact.markov.userTransitions.get (userTransitionKey user current)

def rankMarkov : List (AppScore F) :=
  let globalTransitions := p.artifact.markov.globalTransitions
  ((p.userTransitionScores features).or
    ((features.currentApp.bind globalTransitions.get).or
      (features.history.getLast?.bind globalTransitions.get))).getD p.artifact.globalPopularity

def rankMarkovOrder2 : List (AppScore F) :=
  match features.currentApp with
  | some current =>
    match previousApp features.history current with
    | some prev =>
      (p.artifact.markov.globalTransitionsOrder2.get (order2Key prev current)).getD []
    | none => []
  | none => []

def rankRecency : List (AppScore F) := (p.userTransitionScores features).getD []

def rankUserFrequency : List (AppScore F) :=
  (features.userId.bind p.artifact.userFrequency.get).getD []

def rankUserRecency : List (AppScore F) :=
  match features.userId, features.currentApp with
  | some user, some current =>
    match p.artifact.userRecency.get (userTransitionKey user current) with
    | some app => [⟨app, 1.0⟩]
    | none => []
  | _, _ => []

def rankPopularity (_ : PredictionFeatures) : List (AppScore F) := p.artifact.globalPopularity

def contextScores (current : String) : List (List (AppScore F)) :=
  (features.hourBucket.bind fun hour =>
    p.artifact.markovContext.get (contextKey current hour)).toList ++
  (features.weekday.bind fun weekday =>
    p.artifact.markovContext.get (contextKey current weekday)).toList

def contextSums (current : String) : List (AppScore F) :=
  scoresOf ((p.contextScores features current).flatten.foldl
    (fun combined s => accumulate combined s.app s.score) .empty)

def rankMarkovContext : Except Fault (List (AppScore F)) :=
  match features.currentApp with
  | none => .ok []
  | some current =>
    if (p.contextScores features current).isEmpty then .ok []
    else m.sortScores (p.contextSums features current)

def addTreeScore (scores : List F) (appScore : AppScore F) : Except Fault (List F) :=
  match p.appIndex.get appScore.app with
  | some index => do
    let score ← readAt scores index
    writeAt scores index (score + appScore.score)
  | none => .ok scores

def addTree (scores : List F) (tree : FeatureLiftTree F) : Except Fault (List F) :=
  if tree.featureKey ∈ featureKeys features then
    tree.yesScores.foldlM (p.addTreeScore) scores
  else .ok scores

def featureLiftLogits : Except Fault (List F) :=
  p.artifact.featureLift.trees.foldlM (p.addTree features) p.artifact.featureLift.baseScores

def rankFeatureLift : Except Fault (List (AppScore F)) := do
  let scores ← p.featureLiftLogits features
  rankFromLogits m p.artifact.appVocab scores

end NextAppPredictor

structure EnsembleComponent (F : Type) where
  name : String
  rank : NextAppPredictor F → PredictionFeatures → Except Fault (List (AppScore F))

def ensembleComponents (m : ScoreMath F) : List (EnsembleComponent F) :=
  [⟨"naive_bayes", fun p features => p.rankNaiveBayes m features⟩,
   ⟨"markov_order2", fun p features => .ok (p.rankMarkovOrder2 features)⟩,
   ⟨"markov", fun p features => .ok (p.rankMarkov features)⟩,
   ⟨"markov_context", fun p features => p.rankMarkovContext m features⟩,
   ⟨"feature_lift", fun p features => p.rankFeatureLift m features⟩,
   ⟨"recency", fun p features => .ok (p.rankRecency features)⟩,
   ⟨"user_frequency", fun p features => .ok (p.rankUserFrequency features)⟩,
   ⟨"user_recency", fun p features => .ok (p.rankUserRecency features)⟩,
   ⟨"popularity", fun p features => .ok (p.rankPopularity features)⟩]

end

def ensembleComponentNames : List String :=
  ["naive_bayes", "markov_order2", "markov", "markov_context", "feature_lift", "recency",
    "user_frequency", "user_recency", "popularity"]

def logisticFeatureNames : List String :=
  ensembleComponentNames.flatMap fun component =>
    [component ++ ":rank_rr", component ++ ":score", component ++ ":top1"]

theorem map_name_ensembleComponents {F : Type} [Add F] [Sub F] [Div F] [OfScientific F] [LE F]
    [LT F] [DecidableLE F] [DecidableLT F] (m : ScoreMath F) :
    (ensembleComponents m).map EnsembleComponent.name = ensembleComponentNames := rfl

end Dipecs.Agent.Predictive
