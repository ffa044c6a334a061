import Dipecs.Agent.Predictive.Components

/-! The ensemble: component rankings fused by reciprocal rank, reranked by a logistic model or
mixed with fixed weights. -/

namespace Dipecs.Agent.Predictive

open Dipecs.Library

def logisticFeaturesPerComponent : Nat := 3

section
variable {F : Type} [Add F] [Sub F] [Mul F] [Div F] [Neg F] [NatCast F] [OfScientific F]
  [LE F] [LT F] [DecidableLE F] [DecidableLT F]

def rrfK : F := 1.0
def magnitudeBlend : F := 0.5

def contribution (weight : F) (rank : Nat) (score : F) : F :=
  let rr := 1.0 / (rrfK + (rank : F))
  weight * (rr + magnitudeBlend * score)

def fuseRanking (weight : F) (ranked : List (AppScore F)) (combined : SortedMap String F) :
    SortedMap String F :=
  ranked.zipIdx.foldl (fun combined (score, rank) =>
    accumulate combined score.app (contribution weight rank score.score)) combined

def isZero (weight : F) : Bool := partialCmp weight 0.0 = some .eq

def dot (weights row : List F) : F := sumOf (weights.zipWith (· * ·) row)

def dotDiff (weights pos neg : List F) : F :=
  sumOf (weights.zipWith (· * ·) (pos.zipWith (· - ·) neg))

def sigmoid (m : ScoreMath F) (logit : F) : F :=
  if 0.0 ≤ logit then 1.0 / (1.0 + m.exp (-logit))
  else
    let exp := m.exp logit
    exp / (1.0 + exp)

def writeRow (currentApp : Option String) (offset : Nat) (rows : SortedMap String (List F))
    (entry : AppScore F × Nat) : Except Fault (SortedMap String (List F)) :=
  let (score, rank) := entry
  if currentApp = some score.app then .ok rows
  else do
    let row := (rows.get score.app).getD (List.replicate logisticFeatureNames.length 0.0)
    let row ← writeAt row offset (1.0 / (1.0 + (rank : F)))
    let row ← writeAt row (offset + 1) score.score
    let row ← writeAt row (offset + 2) (if rank = 0 then 1.0 else 0.0)
    return rows.upsert score.app fun _ => row

def candidateFeatureRows (rankings : List (List (AppScore F))) (currentApp : Option String) :
    Except Fault (SortedMap String (List F)) :=
  rankings.zipIdx.foldlM (fun rows (scores, componentIdx) =>
    scores.zipIdx.foldlM (writeRow currentApp (componentIdx * logisticFeaturesPerComponent)) rows)
    .empty

def logisticScores (m : ScoreMath F) (model : LogisticRerankerModel F)
    (rows : SortedMap String (List F)) : List (AppScore F) :=
  rows.entries.map fun (app, row) => ⟨app, sigmoid m (dot model.weights row)⟩

def mixed (naiveBayes markov featureLift : List (AppScore F)) : SortedMap String F :=
  let weighted : List (F × List (AppScore F)) :=
    [(0.30, naiveBayes), (0.40, markov), (0.30, featureLift)]
  weighted.foldl (fun combined (weight, scores) =>
    scores.foldl (fun combined s => accumulate combined s.app (weight * s.score)) combined) .empty

namespace NextAppPredictor
variable (m : ScoreMath F) (p : NextAppPredictor F) (features : PredictionFeatures)

def componentRankings : Except Fault (List (List (AppScore F))) :=
  (ensembleComponents m).mapM fun component => component.rank p features

def rankEnsembleLogistic (model : LogisticRerankerModel F) : Except Fault (List (AppScore F)) := do
  let rankings ← p.componentRankings m features
  let rows ← candidateFeatureRows rankings features.currentApp
  m.sortScores (logisticScores m model rows)

def rankEnsembleLegacy : Except Fault (List (AppScore F)) := do
  let naiveBayes ← p.rankNaiveBayes m features
  let featureLift ← p.rankFeatureLift m features
  m.sortScores (scoresOf (mixed naiveBayes (p.rankMarkov features) featureLift))

def fuseComponent (combiner : EnsembleCombiner F) (combined : SortedMap String F)
    (component : EnsembleComponent F) : Except Fault (SortedMap String F) := do
  match ← combiner.weightOf component.name with
  | none => return combined
  | some weight =>
    if isZero weight then return combined
    else
      let ranked ← component.rank p features
      return fuseRanking weight ranked combined

def rankEnsembleRrf (combiner : EnsembleCombiner F) : Except Fault (List (AppScore F)) := do
  let combined ← (ensembleComponents m).foldlM (p.fuseComponent features combiner) .empty
  m.sortScores (scoresOf combined)

def rankEnsemble : Except Fault (List (AppScore F)) :=
  if !p.artifact.ensembleLogistic.isEmpty then
    p.rankEnsembleLogistic m features p.artifact.ensembleLogistic
  else if p.artifact.ensembleCombiner.isEmpty then p.rankEnsembleLegacy m features
  else p.rankEnsembleRrf m features p.artifact.ensembleCombiner

def rankBy : NextAppAlgorithm → Except Fault (List (AppScore F))
  | .naiveBayes => p.rankNaiveBayes m features
  | .markov => .ok (p.rankMarkov features)
  | .featureLift => p.rankFeatureLift m features
  | .ensemble => p.rankEnsemble m features

def rank (algorithm : NextAppAlgorithm) (k : Nat) : Except Fault (List (AppScore F)) := do
  let scores ← p.rankBy m features algorithm
  let scores := filterCurrentApp scores features.currentApp
  let scores :=
    if scores.isEmpty then filterCurrentApp p.artifact.globalPopularity features.currentApp
    else scores
  return scores.take k

end NextAppPredictor

end

end Dipecs.Agent.Predictive
