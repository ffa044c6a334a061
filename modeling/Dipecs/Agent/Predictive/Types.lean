import Dipecs.Library.Checks
import Dipecs.Library.Comparison
import Dipecs.Library.SortBy
import Dipecs.Library.SortedMap
import Mathlib.Data.String.Basic

/-! The next-app model: the artifact that is trained offline and read back as JSON, the
examples it is trained on and the features it is asked about.  `F` carries `f32`. -/

namespace Dipecs.Agent.Predictive

open Dipecs.Library

structure NextAppModelConfig where
  horizonSecs : Nat := 30
  historyLen : Nat := 5

structure TrainingSummary where
  examples : Nat
  users : Nat
  apps : Nat

structure AppScore (F : Type) where
  app : String
  score : F
  deriving DecidableEq

structure NaiveBayesModel (F : Type) where
  classLogPriors : List F
  unknownFeatureLogProbs : List F
  featureLogProbs : SortedMap String (List F)

structure MarkovModel (F : Type) where
  globalTransitions : SortedMap String (List (AppScore F))
  userTransitions : SortedMap String (List (AppScore F))
  globalTransitionsOrder2 : SortedMap String (List (AppScore F))

structure EnsembleCombiner (F : Type) where
  components : List String
  weights : List F

structure LogisticRerankerModel (F : Type) where
  featureNames : List String
  weights : List F

structure FeatureLiftTree (F : Type) where
  featureKey : String
  yesScores : List (AppScore F)

structure FeatureLiftModel (F : Type) where
  baseScores : List F
  trees : List (FeatureLiftTree F)

structure NextAppModelArtifact (F : Type) where
  schemaVersion : String
  modelId : String
  datasetId : String
  trainedAtMs : Int
  config : NextAppModelConfig
  appVocab : List String
  globalPopularity : List (AppScore F)
  naiveBayes : NaiveBayesModel F
  markov : MarkovModel F
  featureLift : FeatureLiftModel F
  userFrequency : SortedMap String (List (AppScore F))
  userRecency : SortedMap String String
  markovContext : SortedMap String (List (AppScore F))
  ensembleCombiner : EnsembleCombiner F
  ensembleLogistic : LogisticRerankerModel F
  trainingSummary : TrainingSummary

inductive NextAppAlgorithm
  | naiveBayes
  | markov
  | featureLift
  | ensemble

structure NextAppTrainingExample where
  userId : String
  currentApp : String
  history : List String
  hourBucket : UInt8
  weekday : UInt8
  eventType : String
  labelApp : String
  deriving DecidableEq

structure PredictionFeatures where
  userId : Option String
  currentApp : Option String
  history : List String
  hourBucket : Option UInt8
  weekday : Option UInt8
  eventType : Option String

/-- What the model asks of `f32` beyond arithmetic and comparison, and of sorting where scores
that cannot be compared leave no total order. -/
structure ScoreMath (F : Type) where
  exp : F → F
  ln : F → F
  negInfinity : F
  isFinite : F → Bool
  unordered : Unordered (AppScore F)

def schemaVersion : String := "dipecs.next_app_model.v1"
def modelName : String := "predictive-local-v0.1"
def maxBackendIntents : Nat := 5
def maxTrainedFeatures : Nat := 128

def predictionFeaturesForExample (e : NextAppTrainingExample) : PredictionFeatures where
  userId := some e.userId
  currentApp := some e.currentApp
  history := e.history
  hourBucket := some e.hourBucket
  weekday := some e.weekday
  eventType := some e.eventType

def hourBucket (timestampMs : Int) : UInt8 :=
  UInt8.ofNat (timestampMs.fdiv 1000 |>.fdiv 3600 |>.fmod 24).toNat

def weekday (timestampMs : Int) : UInt8 :=
  UInt8.ofNat ((timestampMs.fdiv 86400000 + 4).fmod 7).toNat

def userTransitionKey (userId currentApp : String) : String := userId ++ "\t" ++ currentApp

def order2Key (prevApp currentApp : String) : String := prevApp ++ "\t" ++ currentApp

def contextKey (currentApp : String) (n : UInt8) : String := currentApp ++ "\t" ++ toString n

/-- The most recent entry that is not the current app. -/
def previousApp (history : List String) (currentApp : String) : Option String :=
  history.reverse.find? (· ≠ currentApp)

namespace EnsembleCombiner
variable {F : Type}

def default : EnsembleCombiner F := ⟨[], []⟩

def isEmpty (c : EnsembleCombiner F) : Bool :=
  c.components.isEmpty || c.components.length != c.weights.length

def weightOf (c : EnsembleCombiner F) (component : String) : Except Fault (Option F) :=
  match c.components.idxOf? component with
  | some i => (readAt c.weights i).map some
  | none => .ok none

end EnsembleCombiner

namespace LogisticRerankerModel
variable {F : Type}

def default : LogisticRerankerModel F := ⟨[], []⟩

def isEmpty (l : LogisticRerankerModel F) : Bool :=
  l.featureNames.isEmpty || l.featureNames.length != l.weights.length

end LogisticRerankerModel

section
variable {F : Type} [LE F] [DecidableLE F]

def scoreOrder (a b : F) : Ordering := (partialCmp b a).getD .eq

def rankCmp (a b : AppScore F) : Ordering :=
  (scoreOrder a.score b.score).then (compare a.app b.app)

def rankLe (a b : AppScore F) : Bool := rankCmp a b != .gt

/-- The scores in order, for those that can be compared. -/
def sortScores (scores : List (AppScore F)) : List (AppScore F) := scores.mergeSort rankLe

theorem perm_sortScores (scores : List (AppScore F)) : (sortScores scores).Perm scores :=
  List.mergeSort_perm scores rankLe

namespace ScoreMath
variable (m : ScoreMath F) {scores sorted : List (AppScore F)}

/-- Sorting any scores, some of which may be no number. -/
def sortScores (scores : List (AppScore F)) : Except Fault (List (AppScore F)) :=
  sortBy rankCmp m.unordered scores

def Stops (fault : Fault) : Prop := ∃ scores, m.sortScores scores = .error fault

def ordered : ScoreMath F :=
  { m with unordered := fun scores => some ⟨Predictive.sortScores scores, perm_sortScores scores⟩ }

variable {m}

theorem sortScores_of_total (h : TotalOn rankCmp scores) :
    m.sortScores scores = .ok (Predictive.sortScores scores) := sortBy_of_total h

theorem perm_of_sortScores (h : m.sortScores scores = .ok sorted) : sorted.Perm scores :=
  perm_of_sortBy h

variable (m) in
@[simp] theorem sortScores_ordered (scores : List (AppScore F)) :
    m.ordered.sortScores scores = .ok (Predictive.sortScores scores) := by
  by_cases h : TotalOn rankCmp scores
  · exact sortScores_of_total h
  · exact if_neg h

theorem not_stops_ordered (fault : Fault) : ¬m.ordered.Stops fault := by
  rintro ⟨scores, h⟩
  rw [sortScores_ordered] at h
  cases h

end ScoreMath

end

end Dipecs.Agent.Predictive
