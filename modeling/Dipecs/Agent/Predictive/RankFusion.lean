import Dipecs.Agent.Predictive.TrainedArtifacts

/-! The weights of the ensemble are fitted to rankings from which the current app was taken out
before ranks were given, and serve on rankings that still hold it.  The two score alike exactly
when the current app stands ahead of no other one. -/

namespace Dipecs.Agent.Predictive

open Dipecs.Library

/-! An example is kept for fitting when its label is in some ranking. -/

section
variable {F : Type} [Field F] [LinearOrder F] [IsStrictOrderedRing F]

omit [LinearOrder F] [IsStrictOrderedRing F] in
theorem length_combinerWeights (c : EnsembleCombiner F) :
    (combinerWeights c).length = ensembleComponentNames.length := List.length_map _

theorem weightFor_nonneg {m : ScoreMath F} {c : EnsembleCombiner F} (h : CombinerAccepted m c)
    (component : String) : 0 ≤ c.weightFor component := by
  rw [EnsembleCombiner.weightFor, EnsembleCombiner.weightOf]
  cases hidx : c.components.idxOf? component with
  | none => exact zero_literal.ge
  | some i =>
    have hi : i < c.weights.length := h.1 ▸ (List.idxOf?_eq_some_iff.mp hidx).1
    have hweight := (h.2.2.2 c.weights[i] (List.getElem_mem hi)).2
    simp only [readAt_eq_ok hi]
    exact zero_literal (F := F) ▸ not_lt.mp hweight

omit [IsStrictOrderedRing F] in
theorem cacheExample_eq {m : ScoreMath F} {p : NextAppPredictor F} (h : Built m p)
    {e : NextAppTrainingExample} (hlabel : e.labelApp ≠ e.currentApp)
    {rankings : List (List (AppScore F))}
    (hrankings : p.componentRankings m (predictionFeaturesForExample e) = .ok rankings)
    (hsome : ∃ scores ∈ rankings, ∃ s ∈ scores, s.app = e.labelApp) :
    ∃ x, cacheExample m p e = .ok (some x) ∧
      x.rankings = rankings.map (without e.currentApp) := by
  have hordered := (componentRankings_eq_ordered m p _).symm.trans hrankings
  obtain ⟨hlen, hscored⟩ := (h.scored_componentRankings _).of_ok hrankings
  obtain ⟨rows, hrows, -⟩ := candidateFeatureRows_eq_ok hlen hscored (some e.currentApp)
  have hget := (isSome_candidateFeatureRows
    (fun heq => hlabel (Option.some.inj heq).symm) hrows).mpr hsome
  rw [cacheExample, if_neg hlabel]
  dsimp only
  rw [hordered, ok_bind, hrows, ok_bind,
    if_neg (by simpa [Option.isNone_iff_eq_none] using Option.isSome_iff_ne_none.mp hget)]
  exact ⟨_, rfl, rfl⟩

omit [IsStrictOrderedRing F] in
theorem rank_ensemble_head {m : ScoreMath F} {p : NextAppPredictor F}
    {features : PredictionFeatures} {scores : List (AppScore F)} {s : AppScore F}
    (hrank : p.rankBy m features .ensemble = .ok scores)
    (hhead : (filterCurrentApp scores features.currentApp).head? = some s) :
    p.rank m features .ensemble 1 = .ok [s] := by
  obtain ⟨rest, hrest⟩ := List.head?_eq_some_iff.mp hhead
  rw [NextAppPredictor.rank, hrank, ok_bind, hrest]
  rfl

/-- Fitting scores the other apps as serving does exactly when the current app stands ahead of no
other one where it counts, and then both put the same app on top. -/
theorem weightedTop_serves {m : ScoreMath F} {a : NextAppModelArtifact F} {p : NextAppPredictor F}
    (h : NextAppPredictor.new m a = .ok p) (hlogistic : a.ensembleLogistic.isEmpty = true)
    (hcombiner : a.ensembleCombiner.isEmpty = false) {e : NextAppTrainingExample}
    (hlabel : e.labelApp ≠ e.currentApp) {rankings : List (List (AppScore F))}
    (hrankings : p.componentRankings m (predictionFeaturesForExample e) = .ok rankings)
    (hsome : ∃ scores ∈ rankings, ∃ s ∈ scores, s.app = e.labelApp) :
    ∃ x fitting serving, cacheExample m p e = .ok (some x) ∧
      fittingScores (combinerWeights a.ensembleCombiner) x = .ok fitting ∧
      servingScores m p (predictionFeaturesForExample e) a.ensembleCombiner = .ok serving ∧
      ((∀ app ≠ e.currentApp, fitting.get app = serving.get app) ↔
        Unshifted e.currentApp ((combinerWeights a.ensembleCombiner).zip rankings)) ∧
      (Unshifted e.currentApp ((combinerWeights a.ensembleCombiner).zip rankings) →
        ∀ top, weightedTop (combinerWeights a.ensembleCombiner) x.rankings = .ok (some top) →
          ∃ score, p.rank m (predictionFeaturesForExample e) .ensemble 1 =
            .ok [⟨top, score⟩]) := by
  obtain ⟨hbuilt, rfl⟩ := NextAppPredictor.built_of_new h
  have hc := hbuilt.accepted.combiner
  obtain ⟨x, hx, hxrankings⟩ := cacheExample_eq hbuilt hlabel hrankings hsome
  have hlen : rankings.length = (combinerWeights p.artifact.ensembleCombiner).length :=
    ((hbuilt.scored_componentRankings _).of_ok hrankings).1.trans (length_combinerWeights _).symm
  have hzip : (combinerWeights p.artifact.ensembleCombiner).zip x.rankings =
      allWithout e.currentApp ((combinerWeights p.artifact.ensembleCombiner).zip rankings) := by
    rw [hxrankings, List.zip_map_right]
    rfl
  have hweights : ∀ y ∈ (combinerWeights p.artifact.ensembleCombiner).zip rankings,
      0 ≤ y.1 := by
    intro y hy
    obtain ⟨component, -, heq⟩ := List.mem_map.mp (List.of_mem_zip hy).1
    exact heq ▸ weightFor_nonneg hc component
  have hagree := get_fused_agree_iff e.currentApp hweights
  have hlen' : x.rankings.length = (combinerWeights p.artifact.ensembleCombiner).length := by
    rw [hxrankings, List.length_map, hlen]
  refine ⟨x, _, _, hx, fittingScores_eq _ hlen',
    servingScores_eq hc.1 (isZero_iff.mpr zero_literal) hrankings, hzip ▸ hagree, ?_⟩
  · intro hunshifted top htop
    rw [weightedTop_eq _ hlen', hzip, Except.ok.injEq,
      Option.map_eq_some_iff] at htop
    obtain ⟨⟨app, score⟩, hmax, rfl⟩ := htop
    have hhead := head_of_maxBy (hagree.mpr hunshifted) (get_allWithout_current _ _) hmax
    refine ⟨score, rank_ensemble_head ?_ hhead⟩
    rw [NextAppPredictor.rankBy, NextAppPredictor.rankEnsemble, hlogistic, hcombiner,
      rankEnsembleRrf_eq hc.1 (isZero_iff.mpr zero_literal) hrankings, m.sortScores_eq_ok]
    rfl

end

/-- Chat is open; popularity has mail before maps, and the user went on to maps last time. -/
noncomputable def shiftedArtifact : NextAppModelArtifact ℝ where
  schemaVersion := schemaVersion
  modelId := modelName
  datasetId := "shifted"
  trainedAtMs := 0
  config := {}
  appVocab := ["chat", "mail", "maps"]
  globalPopularity := [⟨"chat", 1 / 2⟩, ⟨"mail", 3 / 10⟩, ⟨"maps", 1 / 5⟩]
  naiveBayes := ⟨[0, 0, 0], [0, 0, 0], .empty⟩
  markov := ⟨.empty, .empty, .empty⟩
  featureLift := ⟨[0, 0, 0], []⟩
  userFrequency := .empty
  userRecency := SortedMap.empty.upsert "u\tchat" fun _ => "maps"
  markovContext := .empty
  ensembleCombiner := ⟨["user_recency", "popularity"], [1 / 5, 1]⟩
  ensembleLogistic := .default
  trainingSummary := ⟨10, 1, 3⟩

noncomputable def shiftedPredictor : NextAppPredictor ℝ :=
  ⟨shiftedArtifact, appIndexOf shiftedArtifact.appVocab⟩

def shiftedExample : NextAppTrainingExample :=
  ⟨"u", "chat", [], 9, 2, "open", "mail"⟩

theorem scored_shifted :
    Scored shiftedArtifact.appVocab shiftedArtifact.globalPopularity := by
  constructor
  · simp [shiftedArtifact]
  · simp [shiftedArtifact]

theorem accepted_shiftedArtifact : Accepted realMath shiftedArtifact where
  schema := rfl
  nonempty := by simp [shiftedArtifact]
  nodup := by simp [shiftedArtifact]
  classLogPriors := rfl
  unknownFeatureLogProbs := rfl
  featureLogProbs _ hx := absurd hx List.not_mem_nil
  baseScores := rfl
  yesScores _ hx := absurd hx List.not_mem_nil
  popularity := ⟨rfl, scored_shifted⟩
  globalTransitions _ hx := absurd hx List.not_mem_nil
  userTransitions _ hx := absurd hx List.not_mem_nil
  order2 _ hx := absurd hx List.not_mem_nil
  markovContext _ hx := absurd hx List.not_mem_nil
  userFrequency _ hx := absurd hx List.not_mem_nil
  userRecency x hx := by
    have heq : x = ("u\tchat", "maps") := List.mem_singleton.mp hx
    rw [heq]
    exact ⟨⟨"u", "chat", by simp [shiftedArtifact], by decide⟩, by simp [shiftedArtifact]⟩
  combiner := by
    refine ⟨rfl, by decide, by decide, ?_⟩
    simp [shiftedArtifact, realMath]
    norm_num
  logistic := .inl ⟨rfl, rfl⟩

noncomputable def shiftedRankings (e : NextAppTrainingExample) (recent : List (AppScore ℝ)) :
    List (List (AppScore ℝ)) :=
  [sortScores (softmax realMath shiftedArtifact.appVocab
      (shiftedPredictor.naiveBayesLogits (predictionFeaturesForExample e))), [],
    shiftedArtifact.globalPopularity, [],
    sortScores (softmax realMath shiftedArtifact.appVocab shiftedArtifact.featureLift.baseScores),
    [], [], recent, shiftedArtifact.globalPopularity]

theorem sortScores_realMath (scores : List (AppScore ℝ)) :
    realMath.sortScores scores = .ok (sortScores scores) :=
  realMath.sortScores_eq_ok scores

theorem componentRankings_shifted {e : NextAppTrainingExample} (he : e.history = [])
    {recent : List (AppScore ℝ)}
    (hrecent : shiftedPredictor.rankUserRecency (predictionFeaturesForExample e) = recent) :
    shiftedPredictor.componentRankings realMath (predictionFeaturesForExample e) =
      .ok (shiftedRankings e recent) := by
  obtain ⟨user, current, history, hour, weekday, event, label⟩ := e
  subst he hrecent
  refine mapM_eq_ok_iff.mpr (.cons ?_ (.cons rfl (.cons rfl (.cons rfl (.cons ?_ ?_)))))
  · apply sortScores_realMath
  · apply sortScores_realMath
  · exact .cons rfl (.cons rfl (.cons rfl (.cons rfl .nil)))

noncomputable def shiftedWeighted (e : NextAppTrainingExample) (recent : List (AppScore ℝ)) :
    List (ℝ × List (AppScore ℝ)) :=
  ((shiftedRankings e recent).take 7).map (fun ranking => (0, ranking)) ++
    [(1 / 5, recent), (1, shiftedArtifact.globalPopularity)]

theorem zip_shiftedRankings (e : NextAppTrainingExample) (recent : List (AppScore ℝ)) :
    (combinerWeights shiftedArtifact.ensembleCombiner).zip (shiftedRankings e recent) =
      shiftedWeighted e recent := by
  have hweights : combinerWeights shiftedArtifact.ensembleCombiner =
      [0.0, 0.0, 0.0, 0.0, 0.0, 0.0, 0.0, 1 / 5, 1] := rfl
  rw [hweights, zero_literal]
  rfl

theorem mail_mem_popularity : ⟨"mail", 3 / 10⟩ ∈ shiftedArtifact.globalPopularity :=
  List.mem_cons_of_mem _ List.mem_cons_self

theorem exists_mail (e : NextAppTrainingExample) (recent : List (AppScore ℝ)) :
    ∃ scores ∈ shiftedRankings e recent, ∃ s ∈ scores, s.app = "mail" :=
  ⟨shiftedArtifact.globalPopularity, by simp [shiftedRankings], _, mail_mem_popularity, rfl⟩

theorem mem_shiftedWeighted {e : NextAppTrainingExample} {recent : List (AppScore ℝ)}
    {x : ℝ × List (AppScore ℝ)} (hx : x ∈ shiftedWeighted e recent) (hweight : x.1 ≠ 0) :
    x = (1 / 5, recent) ∨ x = (1, shiftedArtifact.globalPopularity) := by
  rcases List.mem_append.mp hx with hzero | hx
  · obtain ⟨ranking, -, rfl⟩ := List.mem_map.mp hzero
    exact absurd rfl hweight
  · simpa using hx

/-! After chat. -/

noncomputable def afterChat : List (ℝ × List (AppScore ℝ)) :=
  shiftedWeighted shiftedExample [⟨"maps", 1.0⟩]

theorem named_afterChat {app : String} (h : Named afterChat app) :
    app = "chat" ∨ app = "mail" ∨ app = "maps" := by
  obtain ⟨x, hx, hweight, s, hs, rfl⟩ := h
  rcases mem_shiftedWeighted hx hweight with rfl | rfl
  · rw [List.mem_singleton.mp hs]
    simp
  · exact by simpa [shiftedArtifact] using scored_shifted.known s hs

theorem valueOf_afterChat :
    valueOf (fused afterChat) "mail" = 13 / 20 ∧
      valueOf (fused afterChat) "maps" = 11 / 15 := by
  rw [valueOf_fused, valueOf_fused, afterChat, shiftedWeighted]
  constructor
  · simp [gain, shiftedArtifact, Function.comp_def]
    norm_num
  · simp [gain, shiftedArtifact, Function.comp_def]
    norm_num

theorem valueOf_allWithout_afterChat :
    valueOf (fused (allWithout "chat" afterChat)) "mail" = 23 / 20 ∧
      valueOf (fused (allWithout "chat" afterChat)) "maps" = 9 / 10 := by
  rw [valueOf_fused, valueOf_fused, allWithout, afterChat, shiftedWeighted]
  constructor
  · simp [gain, without, shiftedArtifact, Function.comp_def]
    norm_num
  · simp [gain, without, shiftedArtifact, Function.comp_def]
    norm_num

theorem maxBy_fitting_shifted :
    maxBy topCmp (fused (allWithout "chat" afterChat)).entries = some ("mail", 23 / 20) := by
  have hmail : Named (allWithout "chat" afterChat) "mail" :=
    (named_allWithout _).mpr ⟨by decide, _, List.mem_append_right _
      (List.mem_cons_of_mem _ List.mem_cons_self), one_ne_zero, ⟨"mail", 3 / 10⟩,
      mail_mem_popularity, rfl⟩
  refine maxBy_entries ?_ fun app score hget => ?_
  · rw [get_fused hmail, valueOf_allWithout_afterChat.1]
  · obtain ⟨hne, hnamed⟩ := (named_allWithout _).mp
      ((isSome_fused _ _).mp (Option.isSome_of_eq_some hget))
    have hscore : valueOf (fused (allWithout "chat" afterChat)) app = score := by
      rw [valueOf, hget, Option.getD_some]
    rcases named_afterChat hnamed with rfl | rfl | rfl
    · exact absurd rfl hne
    · rw [← hscore, valueOf_allWithout_afterChat.1]
    · rw [← hscore, valueOf_allWithout_afterChat.2]
      exact Prod.Lex.toLex_le_toLex.mpr (.inl (by norm_num))

theorem head_serving_shifted :
    (filterCurrentApp (sortScores (scoresOf (fused afterChat))) (some "chat")).head? =
      some ⟨"maps", 11 / 15⟩ := by
  have hmaps : Named afterChat "maps" :=
    ⟨_, List.mem_append_right _ (List.mem_cons_of_mem _ List.mem_cons_self), one_ne_zero,
      ⟨"maps", 1 / 5⟩, by simp [shiftedArtifact], rfl⟩
  refine head_serving ?_ (by decide) fun app happ score hget => ?_
  · rw [get_fused hmaps, valueOf_afterChat.2]
  · have hnamed := (isSome_fused _ _).mp (Option.isSome_of_eq_some hget)
    have hscore : valueOf (fused afterChat) app = score := by
      rw [valueOf, hget, Option.getD_some]
    rcases named_afterChat hnamed with rfl | rfl | rfl
    · exact absurd rfl happ
    · rw [← hscore, valueOf_afterChat.1]
      exact Prod.Lex.toLex_le_toLex.mpr (.inl (by norm_num))
    · rw [← hscore, valueOf_afterChat.2]

theorem new_shifted : NextAppPredictor.new realMath shiftedArtifact = .ok shiftedPredictor :=
  NextAppPredictor.new_eq_ok accepted_shiftedArtifact

theorem built_shifted : Built realMath shiftedPredictor :=
  (NextAppPredictor.built_of_new new_shifted).1

/-- The weights are fitted as if mail came out on top, and serve maps. -/
theorem weightedTop_shifted : ∃ x,
    NextAppPredictor.new realMath shiftedArtifact = .ok shiftedPredictor ∧
      shiftedArtifact.ensembleLogistic.isEmpty = true ∧
      shiftedArtifact.ensembleCombiner.isEmpty = false ∧
      shiftedExample.labelApp ≠ shiftedExample.currentApp ∧
      cacheExample realMath shiftedPredictor shiftedExample = .ok (some x) ∧
      weightedTop (combinerWeights shiftedArtifact.ensembleCombiner) x.rankings =
        .ok (some "mail") ∧
      shiftedPredictor.rank realMath (predictionFeaturesForExample shiftedExample) .ensemble 1 =
        .ok [⟨"maps", 11 / 15⟩] := by
  have hlabel : shiftedExample.labelApp ≠ shiftedExample.currentApp := by decide
  have hcomponents : shiftedPredictor.componentRankings realMath
      (predictionFeaturesForExample shiftedExample) =
        .ok (shiftedRankings shiftedExample [⟨"maps", 1.0⟩]) := componentRankings_shifted rfl rfl
  obtain ⟨x, hx, hrankings⟩ := cacheExample_eq built_shifted hlabel hcomponents
    (exists_mail _ _)
  refine ⟨x, new_shifted, rfl, rfl, hlabel, hx, ?_, rank_ensemble_head ?_ head_serving_shifted⟩
  · have hzip : (combinerWeights shiftedArtifact.ensembleCombiner).zip x.rankings =
        allWithout "chat" afterChat := by
      rw [hrankings, List.zip_map_right, zip_shiftedRankings]
      rfl
    rw [weightedTop_eq _ (by rw [hrankings]; rfl), hzip, maxBy_fitting_shifted]
    rfl
  · rw [NextAppPredictor.rankBy, NextAppPredictor.rankEnsemble, if_neg (by decide),
      if_neg (by decide)]
    have hserves := rankEnsembleRrf_eq accepted_shiftedArtifact.combiner.1
      (isZero_iff.mpr zero_literal) hcomponents
    rwa [zip_shiftedRankings, sortScores_realMath] at hserves

theorem weightedTop_serves_last : ∃ x fitting serving,
    cacheExample realMath shiftedPredictor ⟨"u", "maps", [], 9, 2, "open", "mail"⟩ =
        .ok (some x) ∧
      fittingScores (combinerWeights shiftedArtifact.ensembleCombiner) x = .ok fitting ∧
      servingScores realMath shiftedPredictor
        (predictionFeaturesForExample ⟨"u", "maps", [], 9, 2, "open", "mail"⟩)
        shiftedArtifact.ensembleCombiner = .ok serving ∧
      ∀ app ≠ "maps", fitting.get app = serving.get app := by
  have hcomponents : shiftedPredictor.componentRankings realMath
      (predictionFeaturesForExample ⟨"u", "maps", [], 9, 2, "open", "mail"⟩) =
        .ok (shiftedRankings ⟨"u", "maps", [], 9, 2, "open", "mail"⟩ []) :=
    componentRankings_shifted rfl rfl
  obtain ⟨x, fitting, serving, hx, hfitting, hserving, hagree, -⟩ :=
    weightedTop_serves new_shifted rfl rfl (e := ⟨"u", "maps", [], 9, 2, "open", "mail"⟩)
      (by decide) hcomponents (exists_mail _ _)
  refine ⟨x, fitting, serving, hx, hfitting, hserving, hagree.mpr fun y hy hweight => ?_⟩
  rw [zip_shiftedRankings] at hy
  rcases mem_shiftedWeighted hy hweight with rfl | rfl
  · exact List.nil_prefix
  · exact ⟨[⟨"maps", 1 / 5⟩], by simp [without, shiftedArtifact]⟩

end Dipecs.Agent.Predictive
