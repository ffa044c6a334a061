import Dipecs.Agent.Predictive.Components
import Dipecs.Library.MachineInt
import Dipecs.Library.Tally

/-! Offline training of the base models, in one pass over the examples.  Counters are of 32 bits
and wrap, as in a release build.  The scores are quotients of counts and logarithms of such, none
of them NaN, so sorting them cannot panic. -/

namespace Dipecs.Agent.Predictive

open Dipecs.Library

abbrev Transitions := SortedMap String (SortedMap String UInt32)

structure TrainingCounts where
  classCounts : List UInt32
  featureCounts : SortedMap String (List UInt32)
  featureFrequency : SortedMap String UInt32
  globalTransitions : Transitions
  userTransitions : Transitions
  globalTransitionsOrder2 : Transitions
  temporalTransitions : Transitions
  userFrequencyCounts : Transitions
  userRecency : SortedMap String String

def TrainingCounts.zero (classes : Nat) : TrainingCounts where
  classCounts := List.replicate classes 0
  featureCounts := .empty
  featureFrequency := .empty
  globalTransitions := .empty
  userTransitions := .empty
  globalTransitionsOrder2 := .empty
  temporalTransitions := .empty
  userFrequencyCounts := .empty
  userRecency := .empty

def addTransition (transitions : Transitions) (key label : String) : Transitions :=
  transitions.upsert key fun counts => (counts.getD .empty).count label

def addAt (counts : List UInt32) (i : Nat) : Except Fault (List UInt32) := do
  let count ← readAt counts i
  writeAt counts i (count + 1)

def addFeature (classes labelIdx : Nat) (featureCounts : SortedMap String (List UInt32))
    (feature : String) : Except Fault (SortedMap String (List UInt32)) := do
  let counts ← addAt ((featureCounts.get feature).getD (List.replicate classes 0)) labelIdx
  return featureCounts.upsert feature fun _ => counts

def trainingFeatures (e : NextAppTrainingExample) : List String :=
  featureKeys (predictionFeaturesForExample e)

def addExample (appIndex : SortedMap String Nat) (classes : Nat) (s : TrainingCounts)
    (e : NextAppTrainingExample) : Except Fault TrainingCounts :=
  match appIndex.get e.labelApp with
  | none => .error (.error ("label not in vocab: " ++ e.labelApp))
  | some labelIdx => do
    let features := trainingFeatures e
    let userKey := userTransitionKey e.userId e.currentApp
    let classCounts ← addAt s.classCounts labelIdx
    let featureCounts ← features.foldlM (addFeature classes labelIdx) s.featureCounts
    return {
      classCounts := classCounts
      featureCounts := featureCounts
      featureFrequency := features.foldl SortedMap.count s.featureFrequency
      globalTransitions := addTransition s.globalTransitions e.currentApp e.labelApp
      userTransitions := addTransition s.userTransitions userKey e.labelApp
      globalTransitionsOrder2 := match previousApp e.history e.currentApp with
        | some prev =>
          addTransition s.globalTransitionsOrder2 (order2Key prev e.currentApp) e.labelApp
        | none => s.globalTransitionsOrder2
      -- once under the hour, then under the weekday
      temporalTransitions :=
        addTransition
          (addTransition s.temporalTransitions (contextKey e.currentApp e.hourBucket) e.labelApp)
          (contextKey e.currentApp e.weekday) e.labelApp
      userFrequencyCounts := addTransition s.userFrequencyCounts e.userId e.labelApp
      userRecency := s.userRecency.upsert userKey fun _ => e.labelApp }

def countExamples (appVocab : List String) (examples : List NextAppTrainingExample) :
    Except Fault TrainingCounts :=
  examples.foldlM (addExample (appIndexOf appVocab) appVocab.length) (.zero appVocab.length)

def trainingVocab (examples : List NextAppTrainingExample) : List String :=
  SortedMap.setOf (examples.flatMap fun e => [e.currentApp, e.labelApp])

section
variable {F : Type} [Add F] [Div F] [NatCast F] [OfScientific F]

def transitionScore (total count : UInt32) : F := (count.toNat : F) / ((max total 1).toNat : F)

def popularityScore (classes total count : Nat) : F :=
  ((count : F) + 1.0) / ((total : F) + (classes : F))

section
variable [LE F] [DecidableLE F]

def countsToScores (counts : List UInt32) (appVocab : List String) : List (AppScore F) :=
  sortScores ((appVocab.zip counts).map fun (app, count) =>
    ⟨app, popularityScore appVocab.length (sum32 counts).toNat count.toNat⟩)

def distribution (counts : SortedMap String UInt32) : List (AppScore F) :=
  let total := sum32 (counts.entries.map Prod.snd)
  sortScores (counts.entries.map fun (app, count) => ⟨app, transitionScore total count⟩)

def transitionScores (transitions : Transitions) : SortedMap String (List (AppScore F)) :=
  transitions.map distribution

end

def logLiftScore (m : ScoreMath F) (featureCounts classCounts : List UInt32) (classes : Nat)
    (entry : String × Nat) : Except Fault (AppScore F) := do
  let (app, idx) := entry
  let featureCount ← readAt featureCounts idx
  let classCount ← readAt classCounts idx
  let pLabelGivenFeature : F :=
    popularityScore classes (sum32 featureCounts).toNat featureCount.toNat
  let pLabel := popularityScore classes (sum32 classCounts).toNat classCount.toNat
  return ⟨app, m.ln (pLabelGivenFeature / pLabel)⟩

def countsToLogLiftScores [LE F] [DecidableLE F] (m : ScoreMath F)
    (featureCounts classCounts : List UInt32) (appVocab : List String) :
    Except Fault (List (AppScore F)) := do
  let scores ← appVocab.zipIdx.mapM (logLiftScore m featureCounts classCounts appVocab.length)
  return sortScores scores

def featureLogProb (m : ScoreMath F) (classCounts : List UInt32) (entry : UInt32 × Nat) :
    Except Fault F := do
  let (count, idx) := entry
  let classCount ← readAt classCounts idx
  return m.ln (((count.toNat : F) + 1.0) / ((classCount.toNat : F) + 2.0))

def featureLogProbs (m : ScoreMath F) (classCounts : List UInt32) (entry : String × List UInt32) :
    Except Fault (String × List F) := do
  let (feature, counts) := entry
  let probs ← counts.zipIdx.mapM (featureLogProb m classCounts)
  return (feature, probs)

def trainTree [LE F] [DecidableLE F] (m : ScoreMath F) (s : TrainingCounts)
    (appVocab : List String) (entry : String × UInt32) :
    Except Fault (Option (FeatureLiftTree F)) :=
  match s.featureCounts.get entry.1 with
  | none => return none
  | some counts => do
    let yesScores ← countsToLogLiftScores m counts s.classCounts appVocab
    return some ⟨entry.1, yesScores⟩

def frequencyLe (a b : String × UInt32) : Bool :=
  ((compare b.2 a.2).then (compare a.1 b.1)) != .gt

variable [LE F] [DecidableLE F]

def trainTrees (m : ScoreMath F) (s : TrainingCounts) (appVocab : List String) :
    Except Fault (List (FeatureLiftTree F)) :=
  let featureOrder := s.featureFrequency.entries.mergeSort frequencyLe
  (featureOrder.take maxTrainedFeatures).filterMapM (trainTree m s appVocab)

def trainBaseArtifact (m : ScoreMath F) (datasetId : String) (config : NextAppModelConfig)
    (examples : List NextAppTrainingExample) : Except Fault (NextAppModelArtifact F) :=
  if examples.isEmpty then .error (.error "cannot train next-app model with zero examples")
  else do
    let appVocab := trainingVocab examples
    let classes := appVocab.length
    let s ← countExamples appVocab examples
    let totalExamples := examples.length
    let classLogPriors := s.classCounts.map fun count =>
      m.ln (popularityScore classes totalExamples count.toNat)
    let featureLogProbs ← s.featureCounts.entries.mapM (featureLogProbs m s.classCounts)
    let trees ← trainTrees m s appVocab
    return {
      schemaVersion := schemaVersion
      modelId := modelName
      datasetId := datasetId
      trainedAtMs := 0
      config := config
      appVocab := appVocab
      globalPopularity := countsToScores s.classCounts appVocab
      naiveBayes := {
        classLogPriors := classLogPriors
        unknownFeatureLogProbs := s.classCounts.map fun count =>
          m.ln (1.0 / ((count.toNat : F) + 2.0))
        featureLogProbs := SortedMap.ofList featureLogProbs }
      markov := {
        globalTransitions := transitionScores s.globalTransitions
        userTransitions := transitionScores s.userTransitions
        globalTransitionsOrder2 := transitionScores s.globalTransitionsOrder2 }
      featureLift := ⟨classLogPriors, trees⟩
      userFrequency := transitionScores s.userFrequencyCounts
      userRecency := s.userRecency
      markovContext := transitionScores s.temporalTransitions
      ensembleCombiner := .default
      ensembleLogistic := .default
      trainingSummary := {
        examples := examples.length
        users := (SortedMap.setOf (examples.map NextAppTrainingExample.userId)).length
        apps := classes } }

end

end Dipecs.Agent.Predictive
