import Dipecs.Agent.Predictive.RankingSafety
import Dipecs.Library.Ieee
import Mathlib.Data.Prod.Lex

/-! The lists of scores that a ranking sorts.  A sort may panic or leave any order where there is no
total one, so ranking goes well whatever it does exactly when each of these lists has one. -/

namespace Dipecs.Agent.Predictive

open Dipecs.Library

namespace ScoreMath
variable {F : Type} [LE F] [DecidableLE F] (m : ScoreMath F)

/-- The same where every sort panics that may. -/
def strict : ScoreMath F := { m with unordered := fun _ => none }

variable {m} {scores sorted : List (AppScore F)}

theorem total_of_strict (h : m.strict.sortScores scores = .ok sorted) :
    TotalOn rankCmp scores := by
  by_contra hnot
  rw [sortScores, sortBy_of_not_total hnot rfl] at h
  cases h

theorem sortScores_congr (h : TotalOn rankCmp scores) (u : Unordered (AppScore F)) :
    { m with unordered := u }.sortScores scores = m.ordered.sortScores scores := by
  rw [sortScores_ordered, sortScores_of_total h]

theorem eq_unordered_of_stops {fault : Fault} (h : m.Stops fault) : fault = .unordered := by
  obtain ⟨scores, h⟩ := h
  unfold sortScores sortBy at h
  split at h
  · cases h
  · split at h
    · cases h
    · exact (Except.error.inj h).symm

end ScoreMath

section
variable {F : Type} [Add F] [Sub F] [Mul F] [Div F] [Neg F] [NatCast F] [OfScientific F]
  [LE F] [LT F] [DecidableLE F] [DecidableLT F]

/-- The scores come out in a total order, if they come out. -/
def Comparable (scores : Except Fault (List (AppScore F))) : Prop :=
  ∀ found, scores = .ok found → TotalOn rankCmp found

namespace NextAppPredictor
variable (m : ScoreMath F) (p : NextAppPredictor F) (features : PredictionFeatures)

/-- What the component of this name sorts, if anything. -/
def unsorted (component : String) : Except Fault (List (AppScore F)) :=
  match component with
  | "naive_bayes" => .ok (softmax m p.artifact.appVocab (p.naiveBayesLogits features))
  | "markov_context" => .ok ((features.currentApp.map (p.contextSums features)).getD [])
  | "feature_lift" => do
    let logits ← p.featureLiftLogits features
    return softmax m p.artifact.appVocab logits
  | _ => .ok []

def unsortedLogistic (model : LogisticRerankerModel F) : Except Fault (List (AppScore F)) := do
  let rankings ← p.componentRankings m.ordered features
  let rows ← candidateFeatureRows rankings features.currentApp
  return logisticScores m model rows

def unsortedLegacy : Except Fault (List (AppScore F)) := do
  let naiveBayes ← p.rankNaiveBayes m.ordered features
  let featureLift ← p.rankFeatureLift m.ordered features
  return scoresOf (mixed naiveBayes (p.rankMarkov features) featureLift)

def unsortedRrf (combiner : EnsembleCombiner F) : Except Fault (List (AppScore F)) := do
  let combined ← (ensembleComponents m.ordered).foldlM (p.fuseComponent features combiner) .empty
  return scoresOf combined

def Weighs (combiner : EnsembleCombiner F) (component : String) : Prop :=
  ∃ weight, combiner.weightOf component = .ok (some weight) ∧ isZero weight = false

def LogisticSortable (model : LogisticRerankerModel F) : Prop :=
  (∀ component ∈ ensembleComponentNames, Comparable (p.unsorted m features component)) ∧
    Comparable (p.unsortedLogistic m features model)

def LegacySortable : Prop :=
  Comparable (p.unsorted m features "naive_bayes") ∧
    Comparable (p.unsorted m features "feature_lift") ∧ Comparable (p.unsortedLegacy m features)

def RrfSortable (combiner : EnsembleCombiner F) : Prop :=
  (∀ component ∈ ensembleComponentNames, Weighs combiner component →
    Comparable (p.unsorted m features component)) ∧
    Comparable (p.unsortedRrf m features combiner)

/-- Every list of scores that a ranking sorts has a total order. -/
def Sortable : NextAppAlgorithm → Prop
  | .naiveBayes => Comparable (p.unsorted m features "naive_bayes")
  | .markov => True
  | .featureLift => Comparable (p.unsorted m features "feature_lift")
  | .ensemble =>
    if !p.artifact.ensembleLogistic.isEmpty then
      p.LogisticSortable m features p.artifact.ensembleLogistic
    else if p.artifact.ensembleCombiner.isEmpty then p.LegacySortable m features
    else p.RrfSortable m features p.artifact.ensembleCombiner

end NextAppPredictor

/-! ### In a total order, every sort comes to the same -/

variable {m : ScoreMath F} {p : NextAppPredictor F} {features : PredictionFeatures}

omit [Mul F] [Neg F] [NatCast F] in
theorem rankNaiveBayes_congr (h : Comparable (p.unsorted m features "naive_bayes"))
    (u : Unordered (AppScore F)) :
    p.rankNaiveBayes { m with unordered := u } features = p.rankNaiveBayes m.ordered features :=
  ScoreMath.sortScores_congr (h _ rfl) u

omit [Mul F] [Neg F] [NatCast F] in
theorem rankFeatureLift_congr (h : Comparable (p.unsorted m features "feature_lift"))
    (u : Unordered (AppScore F)) :
    p.rankFeatureLift { m with unordered := u } features =
      p.rankFeatureLift m.ordered features := by
  rw [NextAppPredictor.rankFeatureLift, NextAppPredictor.rankFeatureLift]
  refine bind_congr_ok fun logits hlogits => ScoreMath.sortScores_congr (h _ ?_) u
  change (p.featureLiftLogits features >>= _) = _
  rw [hlogits]
  rfl

omit [Mul F] [Neg F] [NatCast F] in
theorem rankMarkovContext_congr (h : Comparable (p.unsorted m features "markov_context"))
    (u : Unordered (AppScore F)) :
    p.rankMarkovContext { m with unordered := u } features =
      p.rankMarkovContext m.ordered features := by
  rw [NextAppPredictor.rankMarkovContext, NextAppPredictor.rankMarkovContext]
  split
  · rfl
  · rename_i current hcurrent
    refine if_congr Iff.rfl rfl (ScoreMath.sortScores_congr (h _ ?_) u)
    simp [NextAppPredictor.unsorted, hcurrent]

omit [Mul F] [Neg F] [NatCast F] in
theorem forall₂_ensembleComponents {asked : String → Prop}
    (h : ∀ component ∈ ensembleComponentNames, asked component →
      Comparable (p.unsorted m features component)) (u : Unordered (AppScore F)) :
    List.Forall₂ (fun component ordered => component.name = ordered.name ∧
        (asked component.name → component.rank p features = ordered.rank p features))
      (ensembleComponents { m with unordered := u }) (ensembleComponents m.ordered) :=
  .cons ⟨rfl, fun hasked => rankNaiveBayes_congr (h _ (by decide) hasked) u⟩ <|
  .cons ⟨rfl, fun _ => rfl⟩ <| .cons ⟨rfl, fun _ => rfl⟩ <|
  .cons ⟨rfl, fun hasked => rankMarkovContext_congr (h _ (by decide) hasked) u⟩ <|
  .cons ⟨rfl, fun hasked => rankFeatureLift_congr (h _ (by decide) hasked) u⟩ <|
  .cons ⟨rfl, fun _ => rfl⟩ <| .cons ⟨rfl, fun _ => rfl⟩ <| .cons ⟨rfl, fun _ => rfl⟩ <|
  .cons ⟨rfl, fun _ => rfl⟩ .nil

omit [Mul F] [Neg F] [NatCast F] in
theorem componentRankings_congr
    (h : ∀ component ∈ ensembleComponentNames, Comparable (p.unsorted m features component))
    (u : Unordered (AppScore F)) :
    p.componentRankings { m with unordered := u } features =
      p.componentRankings m.ordered features :=
  mapM_congr₂ ((forall₂_ensembleComponents (fun component hmem (_ : True) => h component hmem)
    u).imp fun _ _ hrank => hrank.2 trivial)

omit [Sub F] [Neg F] [LT F] [DecidableLT F] in
theorem fuseComponent_congr {combiner : EnsembleCombiner F}
    {component component' : EnsembleComponent F} (hname : component.name = component'.name)
    (hrank : NextAppPredictor.Weighs combiner component.name →
      component.rank p features = component'.rank p features)
    (combined : SortedMap String F) :
    p.fuseComponent features combiner combined component =
      p.fuseComponent features combiner combined component' := by
  rw [NextAppPredictor.fuseComponent, NextAppPredictor.fuseComponent, ← hname]
  refine bind_congr_ok fun weight hweight => ?_
  cases weight with
  | none => rfl
  | some weight =>
    refine ite_congr rfl (fun _ => rfl) fun hzero => ?_
    rw [hrank ⟨weight, hweight, by simpa using hzero⟩]

omit [Neg F] in
theorem fuseComponents_congr {combiner : EnsembleCombiner F}
    (h : ∀ component ∈ ensembleComponentNames, NextAppPredictor.Weighs combiner component →
      Comparable (p.unsorted m features component))
    (u : Unordered (AppScore F)) (combined : SortedMap String F) :
    (ensembleComponents { m with unordered := u }).foldlM (p.fuseComponent features combiner)
        combined =
      (ensembleComponents m.ordered).foldlM (p.fuseComponent features combiner) combined :=
  foldlM_congr₂ ((forall₂_ensembleComponents h u).imp fun _ _ hrank =>
    fuseComponent_congr hrank.1 hrank.2) combined

theorem rankEnsembleLogistic_congr {model : LogisticRerankerModel F}
    (h : p.LogisticSortable m features model) (u : Unordered (AppScore F)) :
    p.rankEnsembleLogistic { m with unordered := u } features model =
      p.rankEnsembleLogistic m.ordered features model := by
  rw [NextAppPredictor.rankEnsembleLogistic, NextAppPredictor.rankEnsembleLogistic,
    componentRankings_congr h.1 u]
  refine bind_congr_ok fun rankings hrankings => bind_congr_ok fun rows hrows =>
    ScoreMath.sortScores_congr (h.2 _ ?_) u
  rw [NextAppPredictor.unsortedLogistic, hrankings, ok_bind, hrows]
  rfl

omit [Neg F] [NatCast F] in
theorem rankEnsembleLegacy_congr (h : p.LegacySortable m features) (u : Unordered (AppScore F)) :
    p.rankEnsembleLegacy { m with unordered := u } features =
      p.rankEnsembleLegacy m.ordered features := by
  rw [NextAppPredictor.rankEnsembleLegacy, NextAppPredictor.rankEnsembleLegacy,
    rankNaiveBayes_congr h.1 u, rankFeatureLift_congr h.2.1 u]
  refine bind_congr_ok fun naiveBayes hnaive => bind_congr_ok fun featureLift hlift =>
    ScoreMath.sortScores_congr (h.2.2 _ ?_) u
  rw [NextAppPredictor.unsortedLegacy, hnaive, ok_bind, hlift]
  rfl

omit [Neg F] in
theorem rankEnsembleRrf_congr {combiner : EnsembleCombiner F}
    (h : p.RrfSortable m features combiner) (u : Unordered (AppScore F)) :
    p.rankEnsembleRrf { m with unordered := u } features combiner =
      p.rankEnsembleRrf m.ordered features combiner := by
  rw [NextAppPredictor.rankEnsembleRrf, NextAppPredictor.rankEnsembleRrf,
    fuseComponents_congr h.1 u]
  refine bind_congr_ok fun combined hcombined => ScoreMath.sortScores_congr (h.2 _ ?_) u
  rw [NextAppPredictor.unsortedRrf, hcombined]
  rfl

theorem rankBy_congr {algorithm : NextAppAlgorithm} (h : p.Sortable m features algorithm)
    (u : Unordered (AppScore F)) :
    p.rankBy { m with unordered := u } features algorithm =
      p.rankBy m.ordered features algorithm := by
  cases algorithm with
  | naiveBayes => exact rankNaiveBayes_congr h u
  | markov => rfl
  | featureLift => exact rankFeatureLift_congr h u
  | ensemble =>
    rw [NextAppPredictor.rankBy, NextAppPredictor.rankBy, NextAppPredictor.rankEnsemble,
      NextAppPredictor.rankEnsemble]
    rw [NextAppPredictor.Sortable] at h
    split at h <;> rename_i hlogistic
    · rw [if_pos hlogistic, if_pos hlogistic, rankEnsembleLogistic_congr h u]
    · rw [if_neg hlogistic, if_neg hlogistic]
      split at h <;> rename_i hcombiner
      · rw [if_pos hcombiner, if_pos hcombiner, rankEnsembleLegacy_congr h u]
      · rw [if_neg hcombiner, if_neg hcombiner, rankEnsembleRrf_congr h u]

/-! ### Where every sort may panic, only a total order is sorted -/

omit [Mul F] [Neg F] [NatCast F] in
theorem comparable_of_rankNaiveBayes {scores : List (AppScore F)}
    (h : p.rankNaiveBayes m.strict features = .ok scores) :
    Comparable (p.unsorted m features "naive_bayes") :=
  fun _ hfound => Except.ok.inj hfound ▸ ScoreMath.total_of_strict (m := m) h

omit [Mul F] [Neg F] [NatCast F] in
theorem comparable_of_rankFeatureLift {scores : List (AppScore F)}
    (h : p.rankFeatureLift m.strict features = .ok scores) :
    Comparable (p.unsorted m features "feature_lift") := by
  obtain ⟨logits, hlogits, h⟩ := bind_eq_ok_iff.mp h
  intro found hfound
  obtain ⟨logits', hlogits', hfound⟩ := bind_eq_ok_iff.mp hfound
  obtain rfl := Except.ok.inj (hlogits.symm.trans hlogits')
  exact Except.ok.inj hfound ▸ ScoreMath.total_of_strict (m := m) h

omit [Mul F] [Neg F] [NatCast F] in
theorem comparable_of_rankMarkovContext {scores : List (AppScore F)}
    (h : p.rankMarkovContext m.strict features = .ok scores) :
    Comparable (p.unsorted m features "markov_context") := by
  intro found hfound
  obtain rfl := Except.ok.inj hfound
  rw [NextAppPredictor.rankMarkovContext] at h
  split at h
  · rename_i hcurrent
    rw [hcurrent]
    exact totalOn_nil
  · rename_i current hcurrent
    rw [hcurrent, Option.map_some, Option.getD_some]
    split at h
    · rename_i hnone
      rw [NextAppPredictor.contextSums, List.isEmpty_iff.mp hnone]
      exact totalOn_nil
    · exact ScoreMath.total_of_strict (m := m) h

omit [Mul F] [Neg F] [NatCast F] in
theorem comparable_of_rank {component : EnsembleComponent F}
    (hmem : component ∈ ensembleComponents m.strict) {scores : List (AppScore F)}
    (hrank : component.rank p features = .ok scores) :
    Comparable (p.unsorted m features component.name) := by
  have hnone : Comparable (.ok ([] : List (AppScore F))) :=
    fun _ hfound => Except.ok.inj hfound ▸ totalOn_nil
  simp only [ensembleComponents, List.mem_cons, List.not_mem_nil, or_false] at hmem
  rcases hmem with rfl | rfl | rfl | rfl | rfl | rfl | rfl | rfl | rfl
  · exact comparable_of_rankNaiveBayes hrank
  · exact hnone
  · exact hnone
  · exact comparable_of_rankMarkovContext hrank
  · exact comparable_of_rankFeatureLift hrank
  all_goals exact hnone

theorem logisticSortable_of_strict {model : LogisticRerankerModel F} {scores : List (AppScore F)}
    (h : p.rankEnsembleLogistic m.strict features model = .ok scores) :
    p.LogisticSortable m features model := by
  obtain ⟨rankings, hrankings, h⟩ := bind_eq_ok_iff.mp h
  obtain ⟨rows, hrows, h⟩ := bind_eq_ok_iff.mp h
  have hcomponents : ∀ component ∈ ensembleComponentNames,
      Comparable (p.unsorted m features component) := by
    intro name hname
    obtain ⟨component, hmem, rfl⟩ := List.mem_map.mp (map_name_ensembleComponents m.strict ▸ hname)
    obtain ⟨ranking, -, hranking⟩ := forall₂_of_mem_left (mapM_eq_ok_iff.mp hrankings) hmem
    exact comparable_of_rank hmem hranking
  have hordered := (componentRankings_congr hcomponents fun _ => none).symm.trans hrankings
  refine ⟨hcomponents, fun found hfound => ?_⟩
  rw [NextAppPredictor.unsortedLogistic, hordered, ok_bind, hrows] at hfound
  exact Except.ok.inj hfound ▸ ScoreMath.total_of_strict (m := m) h

omit [Neg F] [NatCast F] in
theorem legacySortable_of_strict {scores : List (AppScore F)}
    (h : p.rankEnsembleLegacy m.strict features = .ok scores) : p.LegacySortable m features := by
  obtain ⟨naiveBayes, hnaive, h⟩ := bind_eq_ok_iff.mp h
  obtain ⟨featureLift, hlift, h⟩ := bind_eq_ok_iff.mp h
  have hnaiveBayes := comparable_of_rankNaiveBayes hnaive
  have hfeatureLift := comparable_of_rankFeatureLift hlift
  have hordered := (rankNaiveBayes_congr hnaiveBayes fun _ => none).symm.trans hnaive
  have hordered' := (rankFeatureLift_congr hfeatureLift fun _ => none).symm.trans hlift
  refine ⟨hnaiveBayes, hfeatureLift, fun found hfound => ?_⟩
  rw [NextAppPredictor.unsortedLegacy, hordered, ok_bind, hordered'] at hfound
  exact Except.ok.inj hfound ▸ ScoreMath.total_of_strict (m := m) h

omit [Neg F] in
theorem rrfSortable_of_strict {combiner : EnsembleCombiner F} {scores : List (AppScore F)}
    (h : p.rankEnsembleRrf m.strict features combiner = .ok scores) :
    p.RrfSortable m features combiner := by
  obtain ⟨combined, hcombined, h⟩ := bind_eq_ok_iff.mp h
  have hcomponents : ∀ component ∈ ensembleComponentNames,
      NextAppPredictor.Weighs combiner component →
        Comparable (p.unsorted m features component) := by
    rintro name hname ⟨weight, hweight, hzero⟩
    obtain ⟨component, hmem, rfl⟩ := List.mem_map.mp (map_name_ensembleComponents m.strict ▸ hname)
    obtain ⟨s₁, s₂, hstep⟩ := foldlM_ok_each hcombined component hmem
    rw [NextAppPredictor.fuseComponent, hweight, ok_bind] at hstep
    have hzero : ¬ isZero weight = true := by simpa using hzero
    obtain ⟨ranked, hranked, -⟩ := bind_eq_ok_iff.mp ((if_neg hzero).symm.trans hstep)
    exact comparable_of_rank hmem hranked
  have hordered := (fuseComponents_congr hcomponents (fun _ => none) _).symm.trans hcombined
  refine ⟨hcomponents, fun found hfound => ?_⟩
  rw [NextAppPredictor.unsortedRrf, hordered] at hfound
  exact Except.ok.inj hfound ▸ ScoreMath.total_of_strict (m := m) h

theorem sortable_of_strict {algorithm : NextAppAlgorithm} {scores : List (AppScore F)}
    (h : p.rankBy m.strict features algorithm = .ok scores) : p.Sortable m features algorithm := by
  cases algorithm with
  | naiveBayes => exact comparable_of_rankNaiveBayes h
  | markov => trivial
  | featureLift => exact comparable_of_rankFeatureLift h
  | ensemble =>
    rw [NextAppPredictor.rankBy, NextAppPredictor.rankEnsemble] at h
    rw [NextAppPredictor.Sortable]
    split at h <;> rename_i hlogistic
    · rw [if_pos hlogistic]
      exact logisticSortable_of_strict h
    · rw [if_neg hlogistic]
      split at h <;> rename_i hcombiner
      · rw [if_pos hcombiner]
        exact legacySortable_of_strict h
      · rw [if_neg hcombiner]
        exact rrfSortable_of_strict h

/-- Ranking on an accepted artifact ends well whatever a sort does with scores in no total order
exactly when it sorts none.  What it ends in is well formed in any case, and nothing but a sort
stops it. -/
theorem rank_wellFormed_iff (m : ScoreMath F) (a : NextAppModelArtifact F) (p : NextAppPredictor F)
    (h : NextAppPredictor.new m a = .ok p) (features : PredictionFeatures)
    (algorithm : NextAppAlgorithm) (k : Nat) :
    (∀ unordered scores,
      p.rank { m with unordered := unordered } features algorithm k = .ok scores →
        WellFormedRanking a features.currentApp k scores) ∧
    (∀ unordered fault,
      p.rank { m with unordered := unordered } features algorithm k = .error fault →
        fault = .unordered) ∧
    ((∀ unordered, ∃ scores,
        p.rank { m with unordered := unordered } features algorithm k = .ok scores ∧
          WellFormedRanking a features.currentApp k scores) ↔ p.Sortable m features algorithm) := by
  obtain ⟨hbuilt, rfl⟩ := NextAppPredictor.built_of_new h
  have hyields := fun u => (hbuilt.withUnordered u).wellFormed_rank features algorithm k
  refine ⟨fun u scores hrank => (hyields u).of_ok hrank, fun u fault hrank => ?_, ?_, ?_⟩
  · have hstops := hyields u
    rw [hrank] at hstops
    exact ScoreMath.eq_unordered_of_stops hstops
  · intro hall
    obtain ⟨scores, hrank, -⟩ := hall fun _ => none
    obtain ⟨ranked, hranked, -⟩ := bind_eq_ok_iff.mp hrank
    exact sortable_of_strict hranked
  · intro hsortable u
    obtain ⟨scores, hrank, hwell⟩ := (hbuilt.ordered.wellFormed_rank features algorithm k).exists_ok
      ScoreMath.not_stops_ordered
    rw [NextAppPredictor.rank, ← rankBy_congr hsortable u] at hrank
    exact ⟨scores, hrank, hwell⟩

end

/-! ### Scores that can all be compared -/

section
variable {F : Type} [LinearOrder F]

def rankKey (score : F) (app : String) : F ×ₗ Stringᵒᵈ := toLex (score, OrderDual.toDual app)

theorem rankLe_iff {a b : AppScore F} :
    rankLe a b = true ↔ rankKey b.score b.app ≤ rankKey a.score a.app := by
  rw [rankLe, rankCmp, scoreOrder, partialCmp_eq_compare, rankKey, rankKey, Prod.Lex.toLex_le_toLex]
  simp only [Option.getD_some, bne_iff_ne, ne_eq]
  rcases lt_trichotomy a.score b.score with h | h | h
  · simp [compare_gt_iff_gt.mpr h, h.not_gt, h.ne']
  · rw [compare_eq_iff_eq.mpr h.symm]
    change ¬compare a.app b.app = .gt ↔ _
    rw [compare_gt_iff_gt, not_lt]
    simp [h]
  · simp [compare_lt_iff_lt.mpr h, h]

theorem rankCmp_swap (a b : AppScore F) : rankCmp a b = (rankCmp b a).swap := by
  simp only [rankCmp, scoreOrder, partialCmp_eq_compare, Option.getD_some, Ordering.swap_then,
    ← Std.OrientedCmp.eq_swap]

theorem totalOn_rankCmp (scores : List (AppScore F)) : TotalOn rankCmp scores := by
  have hkey : ∀ a b : AppScore F,
      rankCmp a b ≠ .gt ↔ rankKey b.score b.app ≤ rankKey a.score a.app := fun a b => by
    rw [← rankLe_iff, rankLe, bne_iff_ne]
  exact totalOn_of_key (fun s => rankKey s.score s.app) rankCmp_swap hkey scores

theorem ScoreMath.sortScores_eq_ok (m : ScoreMath F) (scores : List (AppScore F)) :
    m.sortScores scores = .ok (Predictive.sortScores scores) :=
  sortScores_of_total (totalOn_rankCmp scores)

theorem ScoreMath.not_stops (m : ScoreMath F) (fault : Fault) : ¬m.Stops fault := by
  rintro ⟨scores, h⟩
  rw [m.sortScores_eq_ok] at h
  cases h

omit [LinearOrder F] in
theorem rankKey_inj {score score' : F} {app app' : String}
    (h : rankKey score app = rankKey score' app') : score = score' ∧ app = app' := by
  obtain ⟨hscore, happ⟩ := Prod.mk.inj (toLex.injective h)
  exact ⟨hscore, OrderDual.toDual.injective happ⟩

theorem pairwise_sortScores (scores : List (AppScore F)) :
    (sortScores scores).Pairwise fun a b => rankLe a b = true := by
  refine List.pairwise_mergeSort (fun a b c hab hbc => ?_) (fun a b => ?_) scores
  · exact rankLe_iff.mpr ((rankLe_iff.mp hbc).trans (rankLe_iff.mp hab))
  · rw [Bool.or_eq_true, rankLe_iff, rankLe_iff]
    exact le_total _ _

variable [Add F] [Sub F] [Mul F] [Div F] [Neg F] [NatCast F] [OfScientific F]

omit [Mul F] [Neg F] [NatCast F] in
theorem componentRankings_eq_ordered (m : ScoreMath F) (p : NextAppPredictor F)
    (features : PredictionFeatures) :
    p.componentRankings m features = p.componentRankings m.ordered features :=
  componentRankings_congr (fun _ _ found _ => totalOn_rankCmp found) m.unordered

theorem sortable (m : ScoreMath F) (p : NextAppPredictor F) (features : PredictionFeatures)
    (algorithm : NextAppAlgorithm) : p.Sortable m features algorithm := by
  have hall : ∀ scores : Except Fault (List (AppScore F)), Comparable scores :=
    fun _ found _ => totalOn_rankCmp found
  cases algorithm with
  | naiveBayes => exact hall _
  | markov => trivial
  | featureLift => exact hall _
  | ensemble =>
    rw [NextAppPredictor.Sortable]
    split
    · exact ⟨fun _ _ => hall _, hall _⟩
    · split
      · exact ⟨hall _, hall _, hall _⟩
      · exact ⟨fun _ _ _ => hall _, hall _⟩

end

theorem rank_wellFormed_iff_twoApps :
    ∃ scores, NextAppPredictor.rank ratMath
        ⟨twoAppArtifact, appIndexOf twoAppArtifact.appVocab⟩
        ⟨none, some "chat", [], none, none, none⟩ .ensemble 1 = .ok scores ∧
      WellFormedRanking twoAppArtifact (some "chat") 1 scores :=
  (rank_wellFormed_iff ratMath twoAppArtifact
    ⟨twoAppArtifact, appIndexOf twoAppArtifact.appVocab⟩ rfl
    ⟨none, some "chat", [], none, none, none⟩ .ensemble 1).2.2.mpr (sortable _ _ _ _) fun _ => none

/-! ### An artifact with scores that overflow -/

def manyApps : List String :=
  ["a", "b", "c", "d", "e", "f", "g", "h", "i", "j", "k", "l", "m", "n", "o", "p", "q", "r", "s",
    "t", "u", "v"]

/-- At nine, each app but one is written down with 1e300 or its negative, which `f32` reads as an
infinity; on the third weekday, the app `d` is as well. -/
def overflowingScores : List (AppScore Ieee) :=
  manyApps.zipWith (fun app negative => ⟨app, .infinite negative⟩)
    [false, true, false, false, false, false, false, false, true, false, false, false, true, false,
      true, true, true, false, true, true, false, false]

def overflowingArtifact : NextAppModelArtifact Ieee where
  schemaVersion := schemaVersion
  modelId := modelName
  datasetId := "overflowing"
  trainedAtMs := 0
  config := {}
  appVocab := manyApps
  globalPopularity := manyApps.map fun app => ⟨app, 1.0⟩
  naiveBayes := ⟨List.replicate 22 0.0, List.replicate 22 0.0, .empty⟩
  markov := ⟨.empty, .empty, .empty⟩
  featureLift := ⟨List.replicate 22 0.0, []⟩
  userFrequency := .empty
  userRecency := .empty
  markovContext := (SortedMap.empty.upsert (contextKey "a" 9) fun _ => overflowingScores).upsert
    (contextKey "a" 3) fun _ => [⟨"d", .infinite true⟩]
  ensembleCombiner := ⟨["markov_context"], [1.0]⟩
  ensembleLogistic := .default
  trainingSummary := ⟨0, 0, 22⟩

def overflowingFeatures : PredictionFeatures := ⟨none, some "a", [], some 9, some 3, none⟩

def overflowingMath (exp ln : Ieee → Ieee) : ScoreMath Ieee :=
  ⟨exp, ln, .infinite true, Ieee.isFinite, fun _ => none⟩

def overflowingPredictor : NextAppPredictor Ieee :=
  ⟨overflowingArtifact, appIndexOf overflowingArtifact.appVocab⟩

theorem nodup_manyApps : manyApps.Nodup := by decide

theorem scored_manyApps {scores : List (AppScore Ieee)} (h : scores.map AppScore.app = manyApps) :
    Scored manyApps scores :=
  ⟨fun _ hs => h ▸ List.mem_map_of_mem hs, h ▸ nodup_manyApps⟩

theorem accepted_overflowingArtifact (exp ln : Ieee → Ieee) :
    Accepted (overflowingMath exp ln) overflowingArtifact where
  schema := rfl
  nonempty := nofun
  nodup := nodup_manyApps
  classLogPriors := rfl
  unknownFeatureLogProbs := rfl
  featureLogProbs _ hx := absurd hx List.not_mem_nil
  baseScores := rfl
  yesScores _ hx := absurd hx List.not_mem_nil
  popularity := ⟨rfl, scored_manyApps rfl⟩
  globalTransitions _ hx := absurd hx List.not_mem_nil
  userTransitions _ hx := absurd hx List.not_mem_nil
  order2 _ hx := absurd hx List.not_mem_nil
  markovContext x hx := by
    rcases SortedMap.mem_upsert hx with rfl | hx
    · exact ⟨by decide, List.nodup_singleton _⟩
    · rcases SortedMap.mem_upsert hx with rfl | hx
      · exact scored_manyApps rfl
      · exact absurd hx List.not_mem_nil
  userFrequency _ hx := absurd hx List.not_mem_nil
  userRecency _ hx := absurd hx List.not_mem_nil
  combiner := by
    refine ⟨rfl, List.nodup_singleton _, by decide, fun weight hweight => ?_⟩
    rw [List.mem_singleton.mp hweight]
    exact ⟨rfl, by decide +kernel⟩
  logistic := .inl ⟨rfl, rfl⟩

theorem not_totalOn_overflowing :
    ¬TotalOn rankCmp (overflowingPredictor.contextSums overflowingFeatures "a") := by
  intro h
  have hgt := h.trans ⟨"b", .infinite true⟩ (by decide +kernel) ⟨"d", .nan⟩ (by decide +kernel)
    ⟨"e", .infinite false⟩ (by decide +kernel) (by decide) (by decide)
  exact hgt (by decide)

/-- The artifact is accepted, and ranking on it panics, whatever the exponential and the
logarithm are. -/
theorem rank_overflowing :
    (∀ exp ln : Ieee → Ieee,
      NextAppPredictor.new (overflowingMath exp ln) overflowingArtifact =
        .ok overflowingPredictor) ∧
    ∀ exp ln : Ieee → Ieee,
      overflowingPredictor.rank (overflowingMath exp ln) overflowingFeatures .ensemble 5 =
        .error .unordered := by
  have hnew := fun exp ln => NextAppPredictor.new_eq_ok (accepted_overflowingArtifact exp ln)
  refine ⟨hnew, fun exp ln => ?_⟩
  have hbuilt := (NextAppPredictor.built_of_new (hnew exp ln)).1
  have hyields := hbuilt.wellFormed_rank overflowingFeatures .ensemble 5
  cases hrank : overflowingPredictor.rank (overflowingMath exp ln) overflowingFeatures
      .ensemble 5 with
  | error fault =>
    rw [overflowingPredictor] at hrank
    rw [hrank] at hyields
    rw [ScoreMath.eq_unordered_of_stops hyields]
  | ok scores =>
    obtain ⟨ranked, hranked, -⟩ := bind_eq_ok_iff.mp hrank
    have hsortable := sortable_of_strict (m := overflowingMath exp ln) hranked
    have hweighs : NextAppPredictor.Weighs overflowingArtifact.ensembleCombiner "markov_context" :=
      ⟨1.0, rfl, by decide +kernel⟩
    exact absurd (hsortable.1 "markov_context" (by decide) hweighs _ rfl) not_totalOn_overflowing

end Dipecs.Agent.Predictive
