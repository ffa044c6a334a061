import Dipecs.Agent.Predictive.Ranking
import Dipecs.Agent.Predictive.Training
import Dipecs.Agent.Predictive.Validation
import Mathlib.Algebra.Order.Ring.Unbundled.Rat

/-! Fitting the ensemble: part of the examples is held out, a base model is trained on the rest,
and the weights that rank the held-out examples best are searched for. -/

namespace Dipecs.Agent.Predictive

open Dipecs.Library

def logisticNegativesPerComponent : Nat := 4
def logisticEpochs : Nat := 5
def minLogisticCachedExamples : Nat := 20
def maxAscentSweeps : Nat := 6
def valModulus : Nat := 20
def valCutoff : Nat := 3

structure EnsembleModels (F : Type) where
  rrf : EnsembleCombiner F
  logistic : LogisticRerankerModel F

def EnsembleModels.default {F : Type} : EnsembleModels F := ⟨.default, .default⟩

structure CachedExample (F : Type) where
  label : String
  rankings : List (List (AppScore F))
  rows : SortedMap String (List F)

def splitExamples (examples : List NextAppTrainingExample) :
    List NextAppTrainingExample × List NextAppTrainingExample :=
  let (validation, fit) := examples.zipIdx.partition fun (_, idx) => idx % valModulus < valCutoff
  (fit.map Prod.fst, validation.map Prod.fst)

section
variable {F : Type} [OfScientific F]

def logisticLr : F := 0.08
def logisticL2 : F := 0.0001

def weightGrid : List F :=
  [0.0, 0.05, 0.1, 0.2, 0.4, 0.8, 1.2, 1.6, 2.0, 3.0, 4.0, 6.0, 8.0, 12.0]

def initialWeight (component : String) : F :=
  match component with
  | "markov_order2" => 1.2
  | "markov" => 0.8
  | "markov_context" => 0.5
  | "recency" => 0.45
  | "naive_bayes" => 0.6
  | "feature_lift" => 0.3
  | "popularity" => 0.05
  | _ => 0.2

def initialWeights : List F := ensembleComponentNames.map initialWeight

end

section
variable {F : Type}

def addNegative (label : String) (negatives : List String) (app : AppScore F) : List String :=
  if app.app = label ∨ app.app ∈ negatives then negatives else negatives ++ [app.app]

def hardNegatives (x : CachedExample F) : List String :=
  let negatives := x.rankings.foldl (fun negatives list =>
    (list.take logisticNegativesPerComponent).foldl (addNegative x.label) negatives) []
  if negatives.isEmpty then
    ((x.rows.entries.map Prod.fst).find? (· ≠ x.label)).toList
  else negatives

end

section
variable {F : Type} [Add F] [Sub F] [Mul F] [Div F] [Neg F] [NatCast F] [OfScientific F]
  [LE F] [LT F] [DecidableLE F] [DecidableLT F]

/-- The loop body over the held-out examples.  The model that ranks them was made of counts, so
no score is NaN and no sort can panic. -/
def cacheExample (m : ScoreMath F) (p : NextAppPredictor F) (e : NextAppTrainingExample) :
    Except Fault (Option (CachedExample F)) :=
  if e.labelApp = e.currentApp then return none
  else do
    let features := predictionFeaturesForExample e
    let rankings ← p.componentRankings m.ordered features
    let rows ← candidateFeatureRows rankings (some e.currentApp)
    if (rows.get e.labelApp).isNone then return none
    else return some {
      label := e.labelApp
      rankings := rankings.map fun scores => scores.filter (·.app ≠ e.currentApp)
      rows := rows }

def cacheValidationExamples (m : ScoreMath F) (p : NextAppPredictor F)
    (examples : List NextAppTrainingExample) : Except Fault (List (CachedExample F)) :=
  examples.filterMapM (cacheExample m p)

def fuseCached (weights : List F) (combined : SortedMap String F)
    (entry : List (AppScore F) × Nat) : Except Fault (SortedMap String F) := do
  let (list, componentIdx) := entry
  let weight ← readAt weights componentIdx
  if isZero weight then return combined else return fuseRanking weight list combined

def topCmp (a b : String × F) : Ordering :=
  ((partialCmp a.2 b.2).getD .eq).then (compare b.1 a.1)

def weightedTop (weights : List F) (rankings : List (List (AppScore F))) :
    Except Fault (Option String) := do
  let combined ← rankings.zipIdx.foldlM (fuseCached weights) .empty
  return (maxBy topCmp combined.entries).map Prod.fst

def countHit (top : CachedExample F → Except Fault (Option String)) (hits : Nat)
    (x : CachedExample F) : Except Fault Nat := do
  let app ← top x
  return if app = some x.label then hits + 1 else hits

def countHits (top : CachedExample F → Except Fault (Option String))
    (cached : List (CachedExample F)) : Except Fault Nat := cached.foldlM (countHit top) 0

def weightedHitAt1 (cached : List (CachedExample F)) (weights : List F) : Except Fault ℚ := do
  let hits ← countHits (fun x => weightedTop weights x.rankings) cached
  return (hits : ℚ) / (max cached.length 1 : Nat)

def logisticTop (m : ScoreMath F) (model : LogisticRerankerModel F) (x : CachedExample F) :
    Option String :=
  (maxBy topCmp (x.rows.entries.map fun (app, row) =>
    (app, sigmoid m (dot model.weights row)))).map Prod.fst

def logisticHitAt1 (m : ScoreMath F) (cached : List (CachedExample F))
    (model : LogisticRerankerModel F) : Except Fault ℚ :=
  if cached.isEmpty || model.isEmpty then return 0
  else do
    let hits ← countHits (fun x => return logisticTop m model x) cached
    return (hits : ℚ) / cached.length

structure Ascent (F : Type) where
  weights : List F
  bestHit : ℚ
  improved : Bool

def tryWeight (cached : List (CachedExample F)) (c : Nat) (original : F) (s : Ascent F × F)
    (candidate : F) : Except Fault (Ascent F × F) :=
  if partialCmp candidate original = some .eq then return s
  else do
    let (ascent, bestW) := s
    let weights ← writeAt ascent.weights c candidate
    let hit ← weightedHitAt1 cached weights
    if hit > ascent.bestHit then return (⟨weights, hit, true⟩, candidate)
    else return ({ ascent with weights := weights }, bestW)

def ascendAt (cached : List (CachedExample F)) (s : Ascent F) (c : Nat) :
    Except Fault (Ascent F) := do
  let original ← readAt s.weights c
  let (s, bestW) ← weightGrid.foldlM (tryWeight cached c original) (s, original)
  let weights ← writeAt s.weights c bestW
  return { s with weights := weights }

def sweeps (cached : List (CachedExample F)) : Nat → Ascent F → Except Fault (Ascent F)
  | 0, s => return s
  | n + 1, s => do
    let s ← (List.range s.weights.length).foldlM (ascendAt cached) { s with improved := false }
    if s.improved then sweeps cached n s else return s

def fitRrfCombiner (cached : List (CachedExample F)) : Except Fault (EnsembleCombiner F) :=
  if cached.isEmpty then return .default
  else do
    let bestHit ← weightedHitAt1 cached initialWeights
    let s ← sweeps cached maxAscentSweeps ⟨initialWeights, bestHit, false⟩
    return ⟨ensembleComponentNames, s.weights⟩

def adjustWeight (lr grad : F) (pos neg : List F) (weights : List F) (idx : Nat) :
    Except Fault (List F) := do
  let posValue ← readAt pos idx
  let negValue ← readAt neg idx
  let diff := posValue - negValue
  if isZero diff then return weights
  else
    let weight ← readAt weights idx
    writeAt weights idx (weight + lr * (grad * diff - logisticL2 * weight))

def learnNegative (m : ScoreMath F) (lr : F) (rows : SortedMap String (List F)) (pos : List F)
    (s : List F × Nat) (negApp : String) : Except Fault (List F × Nat) :=
  match rows.get negApp with
  | none => return s
  | some neg => do
    let (weights, updates) := s
    let logit := dotDiff weights pos neg
    let grad := 1.0 - sigmoid m logit
    let weights ← (List.range weights.length).foldlM (adjustWeight lr grad pos neg) weights
    return (weights, updates + 1)

def learnExample (m : ScoreMath F) (lr : F) (s : List F × Nat) (x : CachedExample F) :
    Except Fault (List F × Nat) :=
  match x.rows.get x.label with
  | none => return s
  | some pos => (hardNegatives x).foldlM (learnNegative m lr x.rows pos) s

def learnEpoch (m : ScoreMath F) (cached : List (CachedExample F)) (s : List F × Nat)
    (epoch : Nat) : Except Fault (List F × Nat) :=
  cached.foldlM (learnExample m (logisticLr / (1.0 + (epoch : F) * 0.5))) s

def fitLogisticReranker (m : ScoreMath F) (cached : List (CachedExample F)) :
    Except Fault (LogisticRerankerModel F) :=
  if cached.length < minLogisticCachedExamples then return .default
  else do
    let (weights, updates) ← (List.range logisticEpochs).foldlM (learnEpoch m cached)
      (List.replicate logisticFeatureNames.length 0.0, 0)
    if updates = 0 then return .default else return ⟨logisticFeatureNames, weights⟩

def splitCached (cached : List (CachedExample F)) :
    List (CachedExample F) × List (CachedExample F) :=
  let (fit, gate) := cached.zipIdx.partition fun (_, idx) => idx % 2 = 0
  (fit.map Prod.fst, gate.map Prod.fst)

/-- A reranker that does worse than the combiner on the examples kept back is dropped. -/
def gateLogistic (m : ScoreMath F) (gate : List (CachedExample F)) (rrf : EnsembleCombiner F)
    (logistic : LogisticRerankerModel F) : Except Fault (LogisticRerankerModel F) :=
  if logistic.isEmpty then return logistic
  else if gate.isEmpty then return .default
  else do
    let logisticHit ← logisticHitAt1 m gate logistic
    let weightedHit ← weightedHitAt1 gate rrf.weights
    if logisticHit < weightedHit then return .default else return logistic

def fitCached (m : ScoreMath F) (cached : List (CachedExample F)) :
    Except Fault (EnsembleModels F) := do
  let rrf ← fitRrfCombiner cached
  let (logisticFit, logisticGate) := splitCached cached
  let logistic ← fitLogisticReranker m logisticFit
  let logistic ← gateLogistic m logisticGate rrf logistic
  return ⟨rrf, logistic⟩

def fitEnsembleModels (m : ScoreMath F) (datasetId : String) (config : NextAppModelConfig)
    (examples : List NextAppTrainingExample) : Except Fault (EnsembleModels F) :=
  let (fitExamples, valExamples) := splitExamples examples
  if fitExamples.isEmpty || valExamples.isEmpty then return .default
  else match trainBaseArtifact m datasetId config fitExamples with
    | .error (.error _) => return .default
    | .error fault => .error fault
    | .ok fitArtifact =>
      match NextAppPredictor.new m fitArtifact with
      | .error _ => return .default
      | .ok fitPredictor => do
        let cached ← cacheValidationExamples m fitPredictor valExamples
        fitCached m cached

def trainNextAppArtifact (m : ScoreMath F) (datasetId : String) (config : NextAppModelConfig)
    (examples : List NextAppTrainingExample) : Except Fault (NextAppModelArtifact F) := do
  let artifact ← trainBaseArtifact m datasetId config examples
  let ensembleModels ← fitEnsembleModels m datasetId config examples
  return { artifact with
    ensembleCombiner := ensembleModels.rrf
    ensembleLogistic := ensembleModels.logistic }

end

end Dipecs.Agent.Predictive
