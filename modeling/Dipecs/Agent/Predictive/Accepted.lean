import Dipecs.Agent.Predictive.Validation

/-! What an artifact that passes validation promises. -/

namespace Dipecs.Agent.Predictive

open Dipecs.Library

section
variable {F : Type}

/-- A score list names apps of the vocabulary, each once. -/
structure Scored (appVocab : List String) (scores : List (AppScore F)) : Prop where
  known : ∀ s ∈ scores, s.app ∈ appVocab
  nodup : (scores.map AppScore.app).Nodup

def KeyedBy (appVocab : List String) (key : String) : Prop :=
  ∃ before, ∃ currentApp ∈ appVocab, Text.rsplitOnce '\t' key = some (before, currentApp)

def CombinerAccepted [OfScientific F] [LT F] (m : ScoreMath F) (c : EnsembleCombiner F) : Prop :=
  c.components.length = c.weights.length ∧ c.components.Nodup ∧
    (∀ component ∈ c.components, component ∈ ensembleComponentNames) ∧
    ∀ weight ∈ c.weights, m.isFinite weight = true ∧ ¬weight < 0.0

def LogisticAccepted (l : LogisticRerankerModel F) : Prop :=
  (l.featureNames = [] ∧ l.weights = []) ∨
    (l.featureNames = logisticFeatureNames ∧ l.weights.length = logisticFeatureNames.length)

structure Accepted [OfScientific F] [LT F] (m : ScoreMath F) (a : NextAppModelArtifact F) :
    Prop where
  schema : a.schemaVersion = schemaVersion
  nonempty : a.appVocab ≠ []
  nodup : a.appVocab.Nodup
  classLogPriors : a.naiveBayes.classLogPriors.length = a.appVocab.length
  unknownFeatureLogProbs : a.naiveBayes.unknownFeatureLogProbs.length = a.appVocab.length
  featureLogProbs : ∀ x ∈ a.naiveBayes.featureLogProbs.entries, x.2.length = a.appVocab.length
  baseScores : a.featureLift.baseScores.length = a.appVocab.length
  yesScores : ∀ tree ∈ a.featureLift.trees,
    tree.yesScores.length = a.appVocab.length ∧ Scored a.appVocab tree.yesScores
  popularity : a.globalPopularity.length = a.appVocab.length ∧
    Scored a.appVocab a.globalPopularity
  globalTransitions : ∀ x ∈ a.markov.globalTransitions.entries,
    x.1 ∈ a.appVocab ∧ Scored a.appVocab x.2
  userTransitions : ∀ x ∈ a.markov.userTransitions.entries,
    KeyedBy a.appVocab x.1 ∧ Scored a.appVocab x.2
  order2 : ∀ x ∈ a.markov.globalTransitionsOrder2.entries,
    KeyedBy a.appVocab x.1 ∧ Scored a.appVocab x.2
  markovContext : ∀ x ∈ a.markovContext.entries, Scored a.appVocab x.2
  userFrequency : ∀ x ∈ a.userFrequency.entries, Scored a.appVocab x.2
  userRecency : ∀ x ∈ a.userRecency.entries, KeyedBy a.appVocab x.1 ∧ x.2 ∈ a.appVocab
  combiner : CombinerAccepted m a.ensembleCombiner
  logistic : LogisticAccepted a.ensembleLogistic

theorem validateScoreList_eq_ok {label : String} {scores : List (AppScore F)}
    {appVocab : List String} {full : Bool} :
    validateScoreList label scores appVocab full = .ok () ↔
      (full = true → scores.length = appVocab.length) ∧ Scored appVocab scores := by
  simp only [validateScoreList, bind_eq_ok, require_eq_ok, requireInVocab, requireEach_eq_ok]
  constructor
  · rintro ⟨hfull, hknown, hnodup⟩
    refine ⟨fun h => by simpa [h] using hfull, fun s hs => ?_, hnodup⟩
    simpa using (hknown s hs).1
  · rintro ⟨hfull, hscored⟩
    refine ⟨?_, fun s hs => ?_, hscored.nodup⟩
    · cases full with
      | false => rfl
      | true => simpa using hfull rfl
    · simpa using hscored.known s hs

theorem validateKey_eq_ok {appVocab : List String} {key malformed : String}
    {unknown : String → String} :
    validateKey appVocab key malformed unknown = .ok () ↔ KeyedBy appVocab key := by
  unfold validateKey KeyedBy
  cases h : Text.rsplitOnce '\t' key with
  | none => simp
  | some parts =>
    obtain ⟨before, currentApp⟩ := parts
    simp [requireInVocab]

theorem validateVocab_eq_ok {appVocab : List String} :
    validateVocab appVocab = .ok () ↔ appVocab ≠ [] ∧ appVocab.Nodup := by
  simp [validateVocab, requireEach_eq_ok]

theorem validateLogistic_eq_ok {l : LogisticRerankerModel F} :
    validateLogistic l = .ok () ↔ LogisticAccepted l := by
  unfold validateLogistic LogisticAccepted
  have hnames : logisticFeatureNames.length = 27 := rfl
  split
  · rename_i h
    simp only [Bool.and_eq_true, List.isEmpty_iff] at h
    simp [h.1, h.2]
  · rename_i h
    simp only [Bool.and_eq_true, List.isEmpty_iff] at h
    simp only [bind_eq_ok, require_eq_ok, Bool.and_eq_true, Bool.not_eq_true', beq_iff_eq,
      List.isEmpty_eq_false_iff, decide_eq_true_eq, h, false_or]
    constructor
    · rintro ⟨-, heq, hlen⟩
      exact ⟨heq, hlen⟩
    · rintro ⟨heq, hlen⟩
      refine ⟨⟨⟨?_, ?_⟩, by rw [heq, hlen]⟩, heq, hlen⟩
      · exact List.ne_nil_of_length_pos (by rw [heq, hnames]; decide)
      · exact List.ne_nil_of_length_pos (by rw [hlen, hnames]; decide)

end

section
variable {F : Type} [OfScientific F] [LT F] [DecidableLT F] {m : ScoreMath F}

theorem validateCombiner_eq_ok {c : EnsembleCombiner F} :
    validateCombiner m c = .ok () ↔ CombinerAccepted m c := by
  unfold validateCombiner CombinerAccepted
  split
  · rename_i h
    simp only [Bool.and_eq_true, List.isEmpty_iff] at h
    simp [h.1, h.2]
  · rename_i h
    simp only [bind_eq_ok, require_eq_ok, requireEach_eq_ok, Bool.and_eq_true, Bool.not_eq_true',
      beq_iff_eq, List.isEmpty_eq_false_iff, decide_eq_true_eq, decide_eq_false_iff_not]
    constructor
    · rintro ⟨⟨-, hlen⟩, heach, hnodup⟩
      rw [List.map_fst_zip hlen.le] at hnodup
      refine ⟨hlen, hnodup, fun component hmem => ?_, fun weight hmem => ?_⟩
      · rw [← List.map_fst_zip hlen.le] at hmem
        obtain ⟨x, hx, rfl⟩ := List.mem_map.mp hmem
        exact (heach x hx).1
      · rw [← List.map_snd_zip hlen.ge] at hmem
        obtain ⟨x, hx, rfl⟩ := List.mem_map.mp hmem
        exact (heach x hx).2.1
    · rintro ⟨hlen, hnodup, hknown, hweights⟩
      have hnil : c.components = [] ↔ c.weights = [] := by
        rw [← List.length_eq_zero_iff, hlen, List.length_eq_zero_iff]
      refine ⟨⟨⟨fun hc => h ?_, fun hw => h ?_⟩, hlen⟩, fun x hx => ?_, ?_⟩
      · simp [hc, hnil.mp hc]
      · simp [hw, hnil.mpr hw]
      · exact ⟨hknown _ (List.of_mem_zip hx).1, hweights _ (List.of_mem_zip hx).2,
          List.not_mem_nil⟩
      · rwa [List.map_fst_zip hlen.le]

theorem validateArtifact_eq_ok {a : NextAppModelArtifact F} :
    validateArtifact m a = .ok () ↔ Accepted m a := by
  simp only [validateArtifact, validateSizes, validateMarkov, validateUserRecency, bind_eq_ok,
    require_eq_ok, requireAll_eq_ok, validateVocab_eq_ok, validateScoreList_eq_ok,
    validateKey_eq_ok, validateCombiner_eq_ok, validateLogistic_eq_ok, requireInVocab,
    Bool.and_eq_true, beq_iff_eq, List.all_eq_true, decide_eq_true_eq, forall_const,
    Bool.false_eq_true, false_implies, true_and]
  constructor
  · rintro ⟨hschema, ⟨hnonempty, hnodup⟩, ⟨⟨⟨⟨hpriors, hunknown⟩, hbase⟩, hsizes⟩, hfeatures⟩,
      hpopularity, ⟨hglobal, huser, horder2⟩, htrees, hcontext, hfrequency, hrecency, hcombiner,
      hlogistic⟩
    exact ⟨hschema, hnonempty, hnodup, hpriors, hunknown, hfeatures, hbase, htrees, hpopularity,
      hglobal, huser, horder2, hcontext, hfrequency, hrecency, hcombiner, hlogistic⟩
  · rintro ⟨hschema, hnonempty, hnodup, hpriors, hunknown, hfeatures, hbase, htrees, hpopularity,
      hglobal, huser, horder2, hcontext, hfrequency, hrecency, hcombiner, hlogistic⟩
    exact ⟨hschema, ⟨hnonempty, hnodup⟩, ⟨⟨⟨⟨hpriors, hunknown⟩, hbase⟩,
        fun tree hmem => (htrees tree hmem).1⟩, hfeatures⟩,
      hpopularity, ⟨hglobal, huser, horder2⟩, htrees, hcontext, hfrequency, hrecency, hcombiner,
      hlogistic⟩

theorem NextAppPredictor.new_eq_ok {a : NextAppModelArtifact F} (h : Accepted m a) :
    NextAppPredictor.new m a = .ok ⟨a, appIndexOf a.appVocab⟩ := by
  rw [NextAppPredictor.new, validateArtifact_eq_ok.mpr h]
  rfl

end

end Dipecs.Agent.Predictive
