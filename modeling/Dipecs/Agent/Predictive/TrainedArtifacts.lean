import Dipecs.Agent.Predictive.Fusion
import Dipecs.Library.Keyed
import Mathlib.Analysis.SpecialFunctions.Log.Basic

/-! Training ends in an artifact that passes validation: the tables name apps of the
vocabulary, and the vectors are as long as it is. -/

namespace Dipecs.Agent.Predictive

open Dipecs.Library

section
variable {appVocab : List String}

def TransitionsIn (ok : String → Prop) (appVocab : List String) (transitions : Transitions) :
    Prop :=
  ∀ x ∈ transitions.entries, ok x.1 ∧ KeysIn appVocab x.2

theorem TransitionsIn.add {ok : String → Prop} {transitions : Transitions}
    (h : TransitionsIn ok appVocab transitions) {key label : String} (hkey : ok key)
    (hlabel : label ∈ appVocab) :
    TransitionsIn ok appVocab (addTransition transitions key label) := by
  intro x hx
  rcases SortedMap.mem_upsert hx with rfl | hmem
  · refine ⟨hkey, KeysIn.upsert ?_ hlabel _⟩
    cases hget : transitions.get key with
    | none => exact .empty
    | some counts => exact (h _ (SortedMap.mem_of_get hget)).2
  · exact h x hmem

theorem addAt_eq_ok {counts : List UInt32} {i : Nat} (h : i < counts.length) :
    ∃ counts', addAt counts i = .ok counts' ∧ counts'.length = counts.length := by
  rw [addAt, readAt_eq_ok h, ok_bind]
  exact ⟨_, writeAt_eq_ok h _, List.length_set⟩

def FeaturesSized (classes : Nat) (featureCounts : SortedMap String (List UInt32)) : Prop :=
  ∀ x ∈ featureCounts.entries, x.2.length = classes

theorem addFeature_eq_ok {classes labelIdx : Nat} (hlt : labelIdx < classes)
    {featureCounts : SortedMap String (List UInt32)} (h : FeaturesSized classes featureCounts)
    (feature : String) :
    ∃ featureCounts', addFeature classes labelIdx featureCounts feature = .ok featureCounts' ∧
      FeaturesSized classes featureCounts' := by
  have hlen : ((featureCounts.get feature).getD (List.replicate classes 0)).length = classes := by
    cases hget : featureCounts.get feature with
    | none => exact List.length_replicate
    | some counts => exact h _ (SortedMap.mem_of_get hget)
  obtain ⟨counts, hcounts, hlen'⟩ := addAt_eq_ok (hlen.symm ▸ hlt)
  rw [addFeature, hcounts, ok_bind]
  refine ⟨_, rfl, fun x hx => ?_⟩
  rcases SortedMap.mem_upsert hx with rfl | hmem
  · exact hlen'.trans hlen
  · exact h x hmem

structure CountsIn (appVocab : List String) (s : TrainingCounts) : Prop where
  classes : s.classCounts.length = appVocab.length
  features : FeaturesSized appVocab.length s.featureCounts
  globalTransitions : TransitionsIn (· ∈ appVocab) appVocab s.globalTransitions
  userTransitions : TransitionsIn (KeyedBy appVocab) appVocab s.userTransitions
  order2 : TransitionsIn (KeyedBy appVocab) appVocab s.globalTransitionsOrder2
  temporal : TransitionsIn (fun _ => True) appVocab s.temporalTransitions
  userFrequency : TransitionsIn (fun _ => True) appVocab s.userFrequencyCounts
  userRecency : ∀ x ∈ s.userRecency.entries, KeyedBy appVocab x.1 ∧ x.2 ∈ appVocab

theorem CountsIn.zero (appVocab : List String) : CountsIn appVocab (.zero appVocab.length) where
  classes := List.length_replicate
  features _ hx := absurd hx List.not_mem_nil
  globalTransitions _ hx := absurd hx List.not_mem_nil
  userTransitions _ hx := absurd hx List.not_mem_nil
  order2 _ hx := absurd hx List.not_mem_nil
  temporal _ hx := absurd hx List.not_mem_nil
  userFrequency _ hx := absurd hx List.not_mem_nil
  userRecency _ hx := absurd hx List.not_mem_nil

theorem keyedBy_append {app : String} (happ : app ∈ appVocab) (htab : '\t' ∉ app.toList)
    (before : String) : KeyedBy appVocab (before ++ "\t" ++ app) :=
  ⟨before, app, happ, Text.rsplitOnce_append htab⟩

structure Known (appVocab : List String) (e : NextAppTrainingExample) : Prop where
  current : e.currentApp ∈ appVocab
  label : e.labelApp ∈ appVocab
  tab : '\t' ∉ e.currentApp.toList

theorem isSome_appIndexOf {app : String} (h : app ∈ appVocab) :
    ((appIndexOf appVocab).get app).isSome := by
  rw [appIndexOf, SortedMap.isSome_get_ofList, List.zipIdx_map_fst]
  exact h

theorem addExample_eq_ok {s : TrainingCounts} (h : CountsIn appVocab s)
    {e : NextAppTrainingExample} (he : Known appVocab e) :
    ∃ s', addExample (appIndexOf appVocab) appVocab.length s e = .ok s' ∧ CountsIn appVocab s' := by
  obtain ⟨labelIdx, hidx⟩ := Option.isSome_iff_exists.mp (isSome_appIndexOf he.label)
  have hlt := appIndexOf_lt hidx
  obtain ⟨classCounts, hclass, hclasses⟩ := addAt_eq_ok (h.classes.symm ▸ hlt)
  obtain ⟨featureCounts, hfeature, hfeatures⟩ := foldlM_eq_ok
    (l := trainingFeatures e) (fun _ hs feature _ => addFeature_eq_ok hlt hs feature) h.features
  have huser := keyedBy_append he.current he.tab e.userId
  rw [addExample, hidx]
  simp only [hclass, hfeature, ok_bind]
  refine ⟨_, rfl, ?_⟩
  exact {
    classes := hclasses.trans h.classes
    features := hfeatures
    globalTransitions := h.globalTransitions.add he.current he.label
    userTransitions := h.userTransitions.add huser he.label
    order2 := by
      dsimp only
      split
      · exact h.order2.add (keyedBy_append he.current he.tab _) he.label
      · exact h.order2
    temporal := (h.temporal.add trivial he.label).add trivial he.label
    userFrequency := h.userFrequency.add trivial he.label
    userRecency := by
      intro x hx
      rcases SortedMap.mem_upsert hx with rfl | hmem
      · exact ⟨huser, he.label⟩
      · exact h.userRecency x hmem }

theorem countExamples_eq_ok {examples : List NextAppTrainingExample}
    (h : ∀ e ∈ examples, Known appVocab e) :
    ∃ s, countExamples appVocab examples = .ok s ∧ CountsIn appVocab s :=
  foldlM_eq_ok (fun _ hs e he => addExample_eq_ok hs (h e he)) (.zero appVocab)

end

theorem known_trainingVocab {examples : List NextAppTrainingExample}
    (h : ∀ e ∈ examples, '\t' ∉ e.currentApp.toList) :
    ∀ e ∈ examples, Known (trainingVocab examples) e := by
  intro e he
  refine ⟨?_, ?_, h e he⟩
  all_goals
    rw [trainingVocab, SortedMap.mem_setOf, List.mem_flatMap]
    exact ⟨e, he, by simp⟩

section
variable {F : Type} [Div F] [NatCast F] [LE F] [DecidableLE F] {appVocab : List String}

theorem scored_distribution {counts : SortedMap String UInt32} (h : KeysIn appVocab counts) :
    Scored (F := F) appVocab (distribution counts) :=
  (h.scored fun _ count => transitionScore (sum32 (counts.entries.map Prod.snd)) count).sort

theorem scored_transitionScores {ok : String → Prop} {transitions : Transitions}
    (h : TransitionsIn ok appVocab transitions) :
    ∀ x ∈ (transitionScores (F := F) transitions).entries, ok x.1 ∧ Scored appVocab x.2 := by
  intro x hx
  obtain ⟨y, hy, rfl⟩ := List.mem_map.mp hx
  exact ⟨(h y hy).1, scored_distribution (h y hy).2⟩

omit [Div F] [NatCast F] in
theorem scored_of_map_app {scores : List (AppScore F)} (hvocab : appVocab.Nodup)
    (h : scores.map AppScore.app = appVocab) :
    (sortScores scores).length = appVocab.length ∧ Scored appVocab (sortScores scores) := by
  constructor
  · rw [(perm_sortScores scores).length_eq, ← h, List.length_map]
  · refine Scored.sort ⟨fun s hs => ?_, h ▸ hvocab⟩
    rw [← h]
    exact List.mem_map_of_mem hs

variable [Add F] [OfScientific F]

theorem scored_countsToScores {counts : List UInt32} (hvocab : appVocab.Nodup)
    (h : counts.length = appVocab.length) :
    (countsToScores (F := F) counts appVocab).length = appVocab.length ∧
      Scored (F := F) appVocab (countsToScores counts appVocab) := by
  refine scored_of_map_app hvocab ?_
  rw [List.map_map]
  exact List.map_fst_zip h.ge

theorem countsToLogLiftScores_eq_ok (m : ScoreMath F) {featureCounts classCounts : List UInt32}
    (hvocab : appVocab.Nodup) (hfeature : featureCounts.length = appVocab.length)
    (hclass : classCounts.length = appVocab.length) :
    ∃ scores, countsToLogLiftScores m featureCounts classCounts appVocab = .ok scores ∧
      scores.length = appVocab.length ∧ Scored appVocab scores := by
  have hscore : ∀ x ∈ appVocab.zipIdx, ∃ s,
      logLiftScore m featureCounts classCounts appVocab.length x = .ok s ∧ x.1 = s.app := by
    intro x hx
    have hidx : x.2 < appVocab.length := by simpa using List.snd_lt_of_mem_zipIdx hx
    rw [logLiftScore, readAt_eq_ok (hfeature ▸ hidx), ok_bind, readAt_eq_ok (hclass ▸ hidx)]
    exact ⟨_, rfl, rfl⟩
  obtain ⟨scores, heq, hall⟩ := mapM_forall₂ hscore
  rw [countsToLogLiftScores, heq]
  refine ⟨_, rfl, scored_of_map_app hvocab ?_⟩
  rw [← map_eq_map_of_forall₂ hall, List.zipIdx_map_fst]

omit [LE F] [DecidableLE F] in
theorem featureLogProbs_eq_ok (m : ScoreMath F) {classCounts : List UInt32}
    {entry : String × List UInt32} (h : entry.2.length = classCounts.length) :
    ∃ probs, featureLogProbs (F := F) m classCounts entry = .ok probs ∧
      probs.2.length = classCounts.length := by
  have hprob : ∀ x ∈ entry.2.zipIdx, ∃ prob : F,
      featureLogProb m classCounts x = .ok prob ∧ True := by
    intro x hx
    have hidx : x.2 < entry.2.length := by simpa using List.snd_lt_of_mem_zipIdx hx
    rw [featureLogProb, readAt_eq_ok (h ▸ hidx)]
    exact ⟨_, rfl, trivial⟩
  obtain ⟨probs, heq, hlen, -⟩ := mapM_eq_ok hprob
  rw [featureLogProbs, heq]
  exact ⟨_, rfl, by simpa [h] using hlen⟩

theorem trainTrees_eq_ok (m : ScoreMath F) {s : TrainingCounts} (hvocab : appVocab.Nodup)
    (h : CountsIn appVocab s) :
    ∃ trees, trainTrees m s appVocab = .ok trees ∧
      ∀ tree ∈ trees, tree.yesScores.length = appVocab.length ∧
        Scored (F := F) appVocab tree.yesScores := by
  refine filterMapM_eq_ok fun x _ => ?_
  rw [trainTree]
  cases hget : s.featureCounts.get x.1 with
  | none => exact ⟨none, rfl, fun tree htree => by cases htree⟩
  | some counts =>
    obtain ⟨scores, heq, hlen, hscored⟩ := countsToLogLiftScores_eq_ok m hvocab
      (h.features _ (SortedMap.mem_of_get hget)) h.classes
    simp only [heq]
    refine ⟨_, rfl, fun tree htree => ?_⟩
    cases htree
    exact ⟨hlen, hscored⟩

end

section
variable {F : Type} [Add F] [Div F] [NatCast F] [OfScientific F] [LE F] [LT F] [DecidableLE F]

omit [Add F] [Div F] [NatCast F] [LE F] [DecidableLE F] in
theorem combinerAccepted_default (m : ScoreMath F) : CombinerAccepted m .default :=
  ⟨rfl, List.nodup_nil, by simp [EnsembleCombiner.default], by simp [EnsembleCombiner.default]⟩

theorem trainBaseArtifact_eq_ok (m : ScoreMath F) (datasetId : String)
    (config : NextAppModelConfig) {examples : List NextAppTrainingExample} (hne : examples ≠ [])
    (htab : ∀ e ∈ examples, '\t' ∉ e.currentApp.toList) :
    ∃ a, trainBaseArtifact m datasetId config examples = .ok a ∧ Accepted m a := by
  have hvocab : (trainingVocab examples).Nodup := SortedMap.nodup_setOf _
  obtain ⟨s, hs, hin⟩ := countExamples_eq_ok (known_trainingVocab htab)
  obtain ⟨probs, hprobs, -, hsized⟩ := mapM_eq_ok fun x hx =>
    featureLogProbs_eq_ok (F := F) m ((hin.features x hx).trans hin.classes.symm)
  obtain ⟨trees, htrees, hyes⟩ := trainTrees_eq_ok m hvocab hin
  rw [trainBaseArtifact, if_neg (by simpa using hne)]
  simp only [hs, hprobs, htrees, ok_bind]
  refine ⟨_, rfl, ?_⟩
  exact {
    schema := rfl
    nonempty := by
      obtain ⟨e, he⟩ := List.exists_mem_of_ne_nil _ hne
      exact List.ne_nil_of_mem (known_trainingVocab htab e he).current
    nodup := hvocab
    classLogPriors := by simpa using hin.classes
    unknownFeatureLogProbs := by simpa using hin.classes
    featureLogProbs := fun x hx =>
      (hsized x (SortedMap.mem_of_mem_ofList hx)).trans hin.classes
    baseScores := by simpa using hin.classes
    yesScores := hyes
    popularity := scored_countsToScores hvocab hin.classes
    globalTransitions := scored_transitionScores hin.globalTransitions
    userTransitions := scored_transitionScores hin.userTransitions
    order2 := scored_transitionScores hin.order2
    markovContext := fun x hx => (scored_transitionScores hin.temporal x hx).2
    userFrequency := fun x hx => (scored_transitionScores hin.userFrequency x hx).2
    userRecency := hin.userRecency
    combiner := combinerAccepted_default m
    logistic := .inl ⟨rfl, rfl⟩ }

end

/-! The search for weights stays within its vectors, and ends in weights that it was given. -/

/-- What the format makes of the weights written in the code. -/
def FiniteWeights {F : Type} [OfScientific F] [LT F] (m : ScoreMath F) : Prop :=
  ∀ weight ∈ (initialWeights ++ weightGrid : List F), m.isFinite weight = true ∧ ¬weight < 0.0

/-- Rankings and rows that the search may index. -/
structure CachedIn {F : Type} (x : CachedExample F) : Prop where
  rankings : x.rankings.length = ensembleComponentNames.length
  rows : ∀ y ∈ x.rows.entries, y.2.length = logisticFeatureNames.length

theorem mem_of_mem_picked {α : Type} {l : List α} {pick : α × Nat → Bool} {a : α}
    (h : a ∈ (l.zipIdx.filter pick).map Prod.fst) : a ∈ l := by
  obtain ⟨x, hx, rfl⟩ := List.mem_map.mp h
  exact List.fst_mem_of_mem_zipIdx (List.mem_filter.mp hx).1

theorem mem_splitCached {F : Type} {cached : List (CachedExample F)} {x : CachedExample F}
    (h : x ∈ (splitCached cached).1 ∨ x ∈ (splitCached cached).2) : x ∈ cached := by
  simp only [splitCached, List.partition_eq_filter_filter] at h
  exact h.elim mem_of_mem_picked mem_of_mem_picked

theorem mem_splitExamples {examples : List NextAppTrainingExample} {e : NextAppTrainingExample}
    (h : e ∈ (splitExamples examples).1) : e ∈ examples := by
  simp only [splitExamples, List.partition_eq_filter_filter] at h
  exact mem_of_mem_picked h

theorem countHits_eq_ok {F : Type} {top : CachedExample F → Except Fault (Option String)}
    {cached : List (CachedExample F)} (h : ∀ x ∈ cached, ∃ app, top x = .ok app) :
    ∃ hits, countHits top cached = .ok hits := by
  have hstep : ∀ hits : Nat, True → ∀ x ∈ cached, ∃ hits', countHit top hits x = .ok hits' ∧
      True := by
    intro hits _ x hx
    obtain ⟨app, happ⟩ := h x hx
    rw [countHit, happ]
    exact ⟨_, rfl, trivial⟩
  obtain ⟨hits, heq, -⟩ := foldlM_eq_ok hstep (s := 0) trivial
  exact ⟨hits, heq⟩

section
variable {F : Type} [Add F] [Mul F] [Div F] [NatCast F] [OfScientific F] [LE F] [DecidableLE F]

theorem weightedHitAt1_eq_ok {cached : List (CachedExample F)} (h : ∀ x ∈ cached, CachedIn x)
    {weights : List F} (hlen : weights.length = ensembleComponentNames.length) :
    ∃ hit, weightedHitAt1 cached weights = .ok hit := by
  obtain ⟨hits, heq⟩ := countHits_eq_ok fun x hx =>
    ⟨_, weightedTop_eq weights ((h x hx).rankings.trans hlen.symm)⟩
  rw [weightedHitAt1, heq]
  exact ⟨_, rfl⟩

structure AscentIn (s : Ascent F) : Prop where
  length : s.weights.length = ensembleComponentNames.length
  given : ∀ weight ∈ s.weights, weight ∈ (initialWeights ++ weightGrid : List F)

omit [Add F] [Mul F] [Div F] [NatCast F] [LE F] [DecidableLE F] in
theorem AscentIn.set {s : Ascent F} (h : AscentIn s) (c : Nat) {weight : F}
    (hweight : weight ∈ (initialWeights ++ weightGrid : List F)) (bestHit : ℚ)
    (improved : Bool) : AscentIn ⟨s.weights.set c weight, bestHit, improved⟩ := by
  refine ⟨by simpa using h.length, fun w hw => ?_⟩
  rcases List.mem_or_eq_of_mem_set hw with hmem | rfl
  · exact h.given w hmem
  · exact hweight

theorem tryWeight_eq_ok {cached : List (CachedExample F)} (hcached : ∀ x ∈ cached, CachedIn x)
    {c : Nat} (hc : c < ensembleComponentNames.length) (original : F) {s : Ascent F × F}
    (h : AscentIn s.1 ∧ s.2 ∈ (initialWeights ++ weightGrid : List F)) {candidate : F}
    (hcandidate : candidate ∈ (weightGrid : List F)) :
    ∃ s', tryWeight cached c original s candidate = .ok s' ∧
      AscentIn s'.1 ∧ s'.2 ∈ (initialWeights ++ weightGrid : List F) := by
  have hgiven : candidate ∈ (initialWeights ++ weightGrid : List F) :=
    List.mem_append_right _ hcandidate
  rw [tryWeight]
  split
  · exact ⟨s, rfl, h⟩
  · have hlen : (s.1.weights.set c candidate).length = ensembleComponentNames.length := by
      simpa using h.1.length
    obtain ⟨hit, hhit⟩ := weightedHitAt1_eq_ok hcached hlen
    rw [writeAt_eq_ok (h.1.length ▸ hc), ok_bind, hhit, ok_bind]
    split
    · exact ⟨_, rfl, h.1.set c hgiven hit true, hgiven⟩
    · exact ⟨_, rfl, h.1.set c hgiven s.1.bestHit s.1.improved, h.2⟩

theorem ascendAt_eq_ok {cached : List (CachedExample F)} (hcached : ∀ x ∈ cached, CachedIn x)
    {s : Ascent F} (h : AscentIn s) {c : Nat} (hc : c < ensembleComponentNames.length) :
    ∃ s', ascendAt cached s c = .ok s' ∧ AscentIn s' := by
  have hlt : c < s.weights.length := h.length ▸ hc
  obtain ⟨⟨s', bestW⟩, heq, hs', hbest⟩ := foldlM_eq_ok (s := (s, s.weights[c]))
    (fun _ hs candidate hmem => tryWeight_eq_ok hcached hc s.weights[c] hs hmem)
    ⟨h, h.given _ (List.getElem_mem hlt)⟩
  rw [ascendAt, readAt_eq_ok hlt, ok_bind, heq, ok_bind]
  dsimp only
  rw [writeAt_eq_ok (hs'.length ▸ hc), ok_bind]
  exact ⟨_, rfl, hs'.set c hbest s'.bestHit s'.improved⟩

theorem sweeps_eq_ok {cached : List (CachedExample F)} (hcached : ∀ x ∈ cached, CachedIn x)
    (n : Nat) {s : Ascent F} (h : AscentIn s) :
    ∃ s', sweeps cached n s = .ok s' ∧ AscentIn s' := by
  induction n generalizing s with
  | zero => exact ⟨s, rfl, h⟩
  | succ n ih =>
    obtain ⟨s', heq, hs'⟩ := foldlM_eq_ok (l := List.range s.weights.length)
      (fun _ hs c hc => ascendAt_eq_ok hcached hs (h.length ▸ List.mem_range.mp hc))
      (s := { s with improved := false }) ⟨h.length, h.given⟩
    rw [sweeps, heq, ok_bind]
    split
    · exact ih hs'
    · exact ⟨s', rfl, hs'⟩

theorem fitRrfCombiner_eq_ok [LT F] {m : ScoreMath F} (hfinite : FiniteWeights m)
    {cached : List (CachedExample F)} (hcached : ∀ x ∈ cached, CachedIn x) :
    ∃ combiner, fitRrfCombiner cached = .ok combiner ∧ CombinerAccepted m combiner ∧
      (cached ≠ [] → combiner.weights.length = ensembleComponentNames.length) := by
  rw [fitRrfCombiner]
  split
  · rename_i hempty
    exact ⟨_, rfl, combinerAccepted_default m, fun hne => absurd (List.isEmpty_iff.mp hempty) hne⟩
  · have hlen : (initialWeights : List F).length = ensembleComponentNames.length := rfl
    obtain ⟨hit, hhit⟩ := weightedHitAt1_eq_ok hcached hlen
    have hstart : AscentIn ⟨(initialWeights : List F), hit, false⟩ :=
      ⟨hlen, fun w hw => List.mem_append_left _ hw⟩
    obtain ⟨s, hs, hin⟩ := sweeps_eq_ok hcached maxAscentSweeps hstart
    rw [hhit, ok_bind, hs]
    have hnodup : ensembleComponentNames.Nodup := by decide
    refine ⟨_, rfl, ⟨hin.length.symm, hnodup, fun c hc => hc, fun w hw => ?_⟩,
      fun _ => hin.length⟩
    exact hfinite w (hin.given w hw)

end

section
variable {F : Type} [Add F] [Sub F] [Mul F] [OfScientific F] [LE F] [DecidableLE F]

theorem adjustWeight_eq_ok (lr grad : F) {pos neg weights : List F} {idx : Nat}
    (hpos : idx < pos.length) (hneg : idx < neg.length) (hidx : idx < weights.length) :
    ∃ weights', adjustWeight lr grad pos neg weights idx = .ok weights' ∧
      weights'.length = weights.length := by
  rw [adjustWeight, readAt_eq_ok hpos, ok_bind, readAt_eq_ok hneg, ok_bind]
  dsimp only
  split
  · exact ⟨weights, rfl, rfl⟩
  · rw [readAt_eq_ok hidx, ok_bind]
    exact ⟨_, writeAt_eq_ok hidx _, List.length_set⟩

variable [Div F] [Neg F]

theorem learnNegative_eq_ok (m : ScoreMath F) (lr : F) {rows : SortedMap String (List F)}
    (hrows : ∀ y ∈ rows.entries, y.2.length = logisticFeatureNames.length) {pos : List F}
    (hpos : pos.length = logisticFeatureNames.length) {s : List F × Nat}
    (h : s.1.length = logisticFeatureNames.length) (negApp : String) :
    ∃ s', learnNegative m lr rows pos s negApp = .ok s' ∧
      s'.1.length = logisticFeatureNames.length := by
  rw [learnNegative]
  cases hget : rows.get negApp with
  | none => exact ⟨s, rfl, h⟩
  | some neg =>
    have hneg := hrows _ (SortedMap.mem_of_get hget)
    obtain ⟨weights, heq, hlen⟩ := foldlM_eq_ok (l := List.range s.1.length)
      (P := fun weights : List F => weights.length = logisticFeatureNames.length)
      (fun weights hweights idx hmem => by
        have hidx : idx < logisticFeatureNames.length := h ▸ List.mem_range.mp hmem
        obtain ⟨weights', heq, hlen⟩ := adjustWeight_eq_ok lr
          (1.0 - sigmoid m (dotDiff s.1 pos neg)) (hpos ▸ hidx) (hneg ▸ hidx) (hweights ▸ hidx)
        exact ⟨weights', heq, hlen.trans hweights⟩) h
    simp only [heq, ok_bind]
    exact ⟨_, rfl, hlen⟩

theorem learnExample_eq_ok (m : ScoreMath F) (lr : F) {s : List F × Nat}
    (h : s.1.length = logisticFeatureNames.length) {x : CachedExample F} (hx : CachedIn x) :
    ∃ s', learnExample m lr s x = .ok s' ∧ s'.1.length = logisticFeatureNames.length := by
  rw [learnExample]
  cases hget : x.rows.get x.label with
  | none => exact ⟨s, rfl, h⟩
  | some pos =>
    have hpos := hx.rows _ (SortedMap.mem_of_get hget)
    exact foldlM_eq_ok (fun _ hs negApp _ => learnNegative_eq_ok m lr hx.rows hpos hs negApp) h

theorem fitLogisticReranker_eq_ok [NatCast F] (m : ScoreMath F) {cached : List (CachedExample F)}
    (hcached : ∀ x ∈ cached, CachedIn x) :
    ∃ model, fitLogisticReranker m cached = .ok model ∧ LogisticAccepted model := by
  rw [fitLogisticReranker]
  split
  · exact ⟨_, rfl, .inl ⟨rfl, rfl⟩⟩
  · have hepoch : ∀ s : List F × Nat, s.1.length = logisticFeatureNames.length →
        ∀ epoch ∈ List.range logisticEpochs, ∃ s', learnEpoch m cached s epoch = .ok s' ∧
          s'.1.length = logisticFeatureNames.length := fun _ hs _ _ =>
      foldlM_eq_ok (fun _ hs x hx => learnExample_eq_ok m _ hs (hcached x hx)) hs
    obtain ⟨s, hs, hlen⟩ := foldlM_eq_ok hepoch
      (s := (List.replicate logisticFeatureNames.length 0.0, 0)) List.length_replicate
    rw [hs, ok_bind]
    dsimp only
    split
    · exact ⟨_, rfl, .inl ⟨rfl, rfl⟩⟩
    · exact ⟨_, rfl, .inr ⟨rfl, hlen⟩⟩

end

theorem cacheExample_eq_ok {F : Type} [Add F] [Sub F] [Div F] [NatCast F] [OfScientific F]
    [LE F] [LT F] [DecidableLE F] [DecidableLT F] {m : ScoreMath F} {p : NextAppPredictor F}
    (h : Built m p) (e : NextAppTrainingExample) :
    ∃ x, cacheExample m p e = .ok x ∧ ∀ y ∈ x, CachedIn y := by
  rw [cacheExample]
  split
  · exact ⟨none, rfl, fun y hy => by cases hy⟩
  · obtain ⟨rankings, hrankings, hlen, hscored⟩ :=
      h.componentRankings_ordered (predictionFeaturesForExample e)
    obtain ⟨rows, hrows, hin⟩ := candidateFeatureRows_eq_ok hlen hscored (some e.currentApp)
    simp only [hrankings, hrows, ok_bind]
    split
    · exact ⟨none, rfl, fun y hy => by cases hy⟩
    · refine ⟨_, rfl, fun y hy => ?_⟩
      cases hy
      exact ⟨by simpa using hlen, hin.2⟩

section
variable {F : Type} [Add F] [Mul F] [Div F] [Neg F] [NatCast F] [OfScientific F] [LE F]
  [DecidableLE F]

omit [NatCast F] in
theorem logisticHitAt1_eq_ok (m : ScoreMath F) (gate : List (CachedExample F))
    (logistic : LogisticRerankerModel F) : ∃ hit, logisticHitAt1 m gate logistic = .ok hit := by
  rw [logisticHitAt1]
  split
  · exact ⟨_, rfl⟩
  · have htop : ∀ x ∈ gate, ∃ app,
        (pure (logisticTop m logistic x) : Except Fault _) = .ok app := fun x _ => ⟨_, rfl⟩
    obtain ⟨hits, hhits⟩ := countHits_eq_ok htop
    rw [hhits]
    exact ⟨_, rfl⟩

theorem gateLogistic_eq_ok (m : ScoreMath F) {gate : List (CachedExample F)}
    (hgate : ∀ x ∈ gate, CachedIn x) {rrf : EnsembleCombiner F}
    (hrrf : gate ≠ [] → rrf.weights.length = ensembleComponentNames.length)
    {logistic : LogisticRerankerModel F} (h : LogisticAccepted logistic) :
    ∃ model, gateLogistic m gate rrf logistic = .ok model ∧ LogisticAccepted model := by
  rw [gateLogistic]
  split
  · exact ⟨_, rfl, h⟩
  · split
    · exact ⟨_, rfl, .inl ⟨rfl, rfl⟩⟩
    · rename_i hne
      obtain ⟨weightedHit, hweighted⟩ := weightedHitAt1_eq_ok hgate (hrrf (by simpa using hne))
      obtain ⟨logisticHit, hhit⟩ := logisticHitAt1_eq_ok m gate logistic
      rw [hhit, ok_bind, hweighted, ok_bind]
      split
      · exact ⟨_, rfl, .inl ⟨rfl, rfl⟩⟩
      · exact ⟨_, rfl, h⟩

variable [Sub F] [LT F]

theorem fitCached_eq_ok {m : ScoreMath F} (hfinite : FiniteWeights m)
    {cached : List (CachedExample F)} (hcached : ∀ x ∈ cached, CachedIn x) :
    ∃ models, fitCached m cached = .ok models ∧ CombinerAccepted m models.rrf ∧
      LogisticAccepted models.logistic := by
  obtain ⟨rrf, hrrf, hcombiner, hlen⟩ := fitRrfCombiner_eq_ok hfinite hcached
  obtain ⟨model, hmodel, haccepted⟩ := fitLogisticReranker_eq_ok m fun x hx =>
    hcached x (mem_splitCached (.inl hx))
  have hgate : (splitCached cached).2 ≠ [] → rrf.weights.length = ensembleComponentNames.length :=
    fun hne => hlen fun hnil => hne (by rw [hnil]; rfl)
  obtain ⟨logistic, hlogistic, haccepted'⟩ := gateLogistic_eq_ok m
    (fun x hx => hcached x (mem_splitCached (.inr hx))) hgate haccepted
  rw [fitCached, hrrf, ok_bind]
  dsimp only
  rw [hmodel, ok_bind, hlogistic]
  exact ⟨_, rfl, hcombiner, haccepted'⟩

variable [DecidableLT F]

theorem fitEnsembleModels_eq_ok {m : ScoreMath F} (hfinite : FiniteWeights m) (datasetId : String)
    (config : NextAppModelConfig) {examples : List NextAppTrainingExample}
    (htab : ∀ e ∈ examples, '\t' ∉ e.currentApp.toList) :
    ∃ models, fitEnsembleModels m datasetId config examples = .ok models ∧
      CombinerAccepted m models.rrf ∧ LogisticAccepted models.logistic := by
  have hdefault : CombinerAccepted m (EnsembleModels.default : EnsembleModels F).rrf ∧
      LogisticAccepted (EnsembleModels.default : EnsembleModels F).logistic :=
    ⟨combinerAccepted_default m, .inl ⟨rfl, rfl⟩⟩
  rw [fitEnsembleModels]
  dsimp only
  split
  · exact ⟨_, rfl, hdefault⟩
  · rename_i hparts
    have hne : (splitExamples examples).1 ≠ [] := fun hnil => hparts (by rw [hnil]; rfl)
    obtain ⟨fitArtifact, hfit, haccepted⟩ := trainBaseArtifact_eq_ok m datasetId config hne
      fun e he => htab e (mem_splitExamples he)
    simp only [hfit]
    split
    · exact ⟨_, rfl, hdefault⟩
    · rename_i predictor hnew
      obtain ⟨cached, hcached, hin⟩ := filterMapM_eq_ok (l := (splitExamples examples).2)
        fun e _ => cacheExample_eq_ok (NextAppPredictor.built_of_new hnew).1 e
      rw [cacheValidationExamples, hcached, ok_bind]
      exact fitCached_eq_ok hfinite hin

/-- Whatever the examples, training ends in an artifact that a predictor is built on. -/
theorem trainNextAppArtifact_validates (m : ScoreMath F) (hfinite : FiniteWeights m)
    (datasetId : String) (config : NextAppModelConfig) (examples : List NextAppTrainingExample)
    (hne : examples ≠ []) (htab : ∀ e ∈ examples, '\t' ∉ e.currentApp.toList) :
    ∃ artifact predictor, trainNextAppArtifact m datasetId config examples = .ok artifact ∧
      NextAppPredictor.new m artifact = .ok predictor := by
  obtain ⟨base, hbase, haccepted⟩ := trainBaseArtifact_eq_ok m datasetId config hne htab
  obtain ⟨models, hmodels, hcombiner, hlogistic⟩ :=
    fitEnsembleModels_eq_ok hfinite datasetId config htab
  rw [trainNextAppArtifact, hbase, ok_bind, hmodels]
  exact ⟨_, _, rfl, NextAppPredictor.new_eq_ok
    { haccepted with combiner := hcombiner, logistic := hlogistic }⟩

end

/-- The model over the reals; the softmax does not depend on where its maximum starts, and every
list of scores can be sorted. -/
noncomputable def realMath : ScoreMath ℝ where
  exp := Real.exp
  ln := Real.log
  negInfinity := 0
  isFinite _ := true
  unordered _ := none

theorem finiteWeights_realMath : FiniteWeights realMath := by
  intro weight hmem
  refine ⟨rfl, ?_⟩
  have hnonneg : ∀ weight ∈ (initialWeights ++ weightGrid : List ℝ), (0 : ℝ) ≤ weight := by
    have hinitial : (initialWeights : List ℝ) = [0.6, 1.2, 0.8, 0.5, 0.3, 0.45, 0.2, 0.2, 0.05] :=
      rfl
    simp only [hinitial, weightGrid, List.cons_append, List.nil_append, List.forall_mem_cons]
    norm_num
  have := hnonneg weight hmem
  norm_num
  exact this

/-- A day of one user: the first three examples are held out, and on the others the ensemble is
fitted. -/
def trainingDay : List NextAppTrainingExample :=
  [⟨"u", "chat", ["mail"], 9, 1, "app_transition", "mail"⟩,
    ⟨"u", "mail", ["chat"], 9, 1, "app_transition", "maps"⟩,
    ⟨"u", "maps", ["mail", "chat"], 10, 1, "app_transition", "chat"⟩,
    ⟨"u", "chat", ["maps"], 12, 1, "notification", "mail"⟩,
    ⟨"u", "mail", ["chat", "maps"], 18, 1, "app_transition", "chat"⟩]

theorem trainNextAppArtifact_validates_day :
    ((splitExamples trainingDay).1 ≠ [] ∧ (splitExamples trainingDay).2 ≠ []) ∧
    ∃ artifact predictor, trainNextAppArtifact realMath "day" {} trainingDay = .ok artifact ∧
      NextAppPredictor.new realMath artifact = .ok predictor :=
  ⟨by decide, trainNextAppArtifact_validates realMath finiteWeights_realMath "day" {} trainingDay
    (List.cons_ne_nil _ _) (by decide)⟩

end Dipecs.Agent.Predictive
