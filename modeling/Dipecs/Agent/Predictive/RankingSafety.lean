import Dipecs.Agent.Predictive.Accepted
import Dipecs.Agent.Predictive.Ranking
import Mathlib.Algebra.Order.Ring.Unbundled.Rat
import Mathlib.Data.List.Perm.Subperm

/-! Ranking on an accepted artifact: no index is out of range, and every ranking names apps of
the vocabulary, each once. -/

namespace Dipecs.Agent.Predictive

open Dipecs.Library

section
variable {F : Type} {appVocab : List String}

theorem Scored.nil : Scored (F := F) appVocab [] := ⟨by simp, List.nodup_nil⟩

theorem Scored.sublist {scores scores' : List (AppScore F)} (h : Scored appVocab scores)
    (hsub : scores'.Sublist scores) : Scored appVocab scores' :=
  ⟨fun s hs => h.known s (hsub.subset hs), h.nodup.sublist (hsub.map _)⟩

theorem Scored.perm {scores scores' : List (AppScore F)} (h : Scored appVocab scores)
    (hperm : scores'.Perm scores) : Scored appVocab scores' :=
  ⟨fun s hs => h.known s (hperm.subset hs), (hperm.map _).nodup_iff.mpr h.nodup⟩

def KeysIn {ν : Type} (appVocab : List String) (combined : SortedMap String ν) : Prop :=
  ∀ x ∈ combined.entries, x.1 ∈ appVocab

theorem KeysIn.empty {ν : Type} : KeysIn appVocab (SortedMap.empty : SortedMap String ν) :=
  fun _ h => absurd h List.not_mem_nil

theorem KeysIn.upsert {ν : Type} {combined : SortedMap String ν} (h : KeysIn appVocab combined)
    {app : String} (happ : app ∈ appVocab) (f : Option ν → ν) :
    KeysIn appVocab (combined.upsert app f) := by
  intro x hx
  rcases SortedMap.fst_mem_upsert hx with heq | hmem
  · rwa [heq]
  · exact h x hmem

theorem KeysIn.scored {ν : Type} {combined : SortedMap String ν} (h : KeysIn appVocab combined)
    (score : String → ν → F) :
    Scored appVocab (combined.entries.map fun x => ⟨x.1, score x.1 x.2⟩) := by
  constructor
  · intro s hs
    obtain ⟨x, hx, rfl⟩ := List.mem_map.mp hs
    exact h x hx
  · rw [List.map_map]
    exact combined.nodup_keys

theorem scored_getD {entries : SortedMap String (List (AppScore F))}
    (h : ∀ x ∈ entries.entries, Scored appVocab x.2) (key : String) :
    Scored appVocab ((entries.get key).getD []) := by
  cases hget : entries.get key with
  | none => exact .nil
  | some scores => exact h _ (SortedMap.mem_of_get hget)

theorem appIndexOf_lt {app : String} {i : Nat} (h : (appIndexOf appVocab).get app = some i) :
    i < appVocab.length := by
  have hmem := SortedMap.mem_of_mem_ofList (SortedMap.mem_of_get h)
  simpa using List.snd_lt_of_mem_zipIdx hmem

theorem keysIn_accumulate [Add F] [OfScientific F] {combined : SortedMap String F}
    (h : KeysIn appVocab combined) {app : String} (happ : app ∈ appVocab) (score : F) :
    KeysIn appVocab (accumulate combined app score) := h.upsert happ _

theorem keysIn_foldl_accumulate [Add F] [OfScientific F] {α : Type} {l : List α}
    {app : α → String} {score : α → F} (hl : ∀ x ∈ l, app x ∈ appVocab)
    {combined : SortedMap String F} (h : KeysIn appVocab combined) :
    KeysIn appVocab (l.foldl (fun combined x => accumulate combined (app x) (score x)) combined) :=
  List.foldlRecOn l _ h fun _ ih x hx => keysIn_accumulate ih (hl x hx) _

theorem map_fst_zip_sublist {α β : Type} (l : List α) (l' : List β) :
    ((l.zip l').map Prod.fst).Sublist l := by
  induction l generalizing l' with
  | nil => simp
  | cons a l ih =>
    cases l' with
    | nil => simp
    | cons b l' => simpa using ih l'

section
variable [LE F] [DecidableLE F]

theorem Scored.sort {scores : List (AppScore F)} (h : Scored appVocab scores) :
    Scored appVocab (sortScores scores) := h.perm (perm_sortScores scores)

abbrev YieldsScored (m : ScoreMath F) (appVocab : List String)
    (ranking : Except Fault (List (AppScore F))) : Prop :=
  Yields m.Stops (Scored appVocab) ranking

theorem Scored.sorted {scores : List (AppScore F)} (h : Scored appVocab scores)
    (m : ScoreMath F) : YieldsScored m appVocab (m.sortScores scores) := by
  cases hsort : m.sortScores scores with
  | error fault => exact ⟨scores, hsort⟩
  | ok sorted => exact h.perm (ScoreMath.perm_of_sortScores hsort)

theorem KeysIn.sorted {combined : SortedMap String F} (h : KeysIn appVocab combined)
    (m : ScoreMath F) : YieldsScored m appVocab (m.sortScores (scoresOf combined)) :=
  (h.scored fun _ score => score).sorted m

theorem scored_softmax [Add F] [Sub F] [Div F] [OfScientific F] [LT F] [DecidableLT F]
    (m : ScoreMath F) (h : appVocab.Nodup) (logits : List F) :
    Scored appVocab (softmax m appVocab logits) := by
  refine ⟨fun s hs => ?_, ?_⟩
  · obtain ⟨x, hx, rfl⟩ := List.mem_map.mp hs
    exact (List.of_mem_zip hx).1
  · rw [softmax, List.map_map]
    exact h.sublist (map_fst_zip_sublist appVocab _)

end

end

/-- A predictor as `NextAppPredictor.new` builds it. -/
structure Built {F : Type} [OfScientific F] [LT F] (m : ScoreMath F) (p : NextAppPredictor F) :
    Prop where
  accepted : Accepted m p.artifact
  appIndex : p.appIndex = appIndexOf p.artifact.appVocab

/-! Each component keeps to the vocabulary. -/

namespace Built

theorem withUnordered {F : Type} [OfScientific F] [LT F] {m : ScoreMath F}
    {p : NextAppPredictor F} (h : Built m p) (u : Unordered (AppScore F)) :
    Built { m with unordered := u } p :=
  ⟨{ h.accepted with combiner := h.accepted.combiner }, h.appIndex⟩

theorem ordered {F : Type} [OfScientific F] [LE F] [LT F] [DecidableLE F] {m : ScoreMath F}
    {p : NextAppPredictor F} (h : Built m p) : Built m.ordered p := h.withUnordered _

section
variable {F : Type} [OfScientific F] [LT F] {m : ScoreMath F} {p : NextAppPredictor F}
  (h : Built m p) (features : PredictionFeatures)
include h

theorem scored_popularity : Scored p.artifact.appVocab p.artifact.globalPopularity :=
  h.accepted.popularity.2

theorem mem_popularity {app : String} (happ : app ∈ p.artifact.appVocab) :
    ∃ s ∈ p.artifact.globalPopularity, s.app = app := by
  have hpop := h.scored_popularity
  have hsub : p.artifact.globalPopularity.map AppScore.app ⊆ p.artifact.appVocab := by
    intro app' hmem
    obtain ⟨s, hs, rfl⟩ := List.mem_map.mp hmem
    exact hpop.known s hs
  have hperm := (List.subperm_of_subset hpop.nodup hsub).perm_of_length_le
    (by rw [List.length_map, h.accepted.popularity.1])
  exact List.mem_map.mp (hperm.mem_iff.mpr happ)

theorem scored_userTransitionScores {scores : List (AppScore F)}
    (hget : p.userTransitionScores features = some scores) :
    Scored p.artifact.appVocab scores := by
  simp only [NextAppPredictor.userTransitionScores, Option.bind_eq_bind,
    Option.bind_eq_some_iff] at hget
  obtain ⟨user, -, current, -, hget⟩ := hget
  exact (h.accepted.userTransitions _ (SortedMap.mem_of_get hget)).2

theorem scored_globalTransitions {app : Option String} {scores : List (AppScore F)}
    (hget : app.bind p.artifact.markov.globalTransitions.get = some scores) :
    Scored p.artifact.appVocab scores := by
  obtain ⟨app, -, hget⟩ := Option.bind_eq_some_iff.mp hget
  exact (h.accepted.globalTransitions _ (SortedMap.mem_of_get hget)).2

theorem scored_rankMarkov : Scored p.artifact.appVocab (p.rankMarkov features) := by
  rw [NextAppPredictor.rankMarkov]
  cases huser : p.userTransitionScores features with
  | some scores => exact h.scored_userTransitionScores features huser
  | none =>
    cases hcurrent : features.currentApp.bind p.artifact.markov.globalTransitions.get with
    | some scores => exact h.scored_globalTransitions hcurrent
    | none =>
      cases hlast : features.history.getLast?.bind p.artifact.markov.globalTransitions.get with
      | some scores => exact h.scored_globalTransitions hlast
      | none => exact h.scored_popularity

theorem scored_rankMarkovOrder2 : Scored p.artifact.appVocab (p.rankMarkovOrder2 features) := by
  rw [NextAppPredictor.rankMarkovOrder2]
  split
  · split
    · exact scored_getD (fun x hx => (h.accepted.order2 x hx).2) _
    · exact .nil
  · exact .nil

theorem scored_rankRecency : Scored p.artifact.appVocab (p.rankRecency features) := by
  rw [NextAppPredictor.rankRecency]
  cases hget : p.userTransitionScores features with
  | none => exact .nil
  | some scores => exact h.scored_userTransitionScores features hget

theorem scored_rankUserFrequency : Scored p.artifact.appVocab (p.rankUserFrequency features) := by
  rw [NextAppPredictor.rankUserFrequency]
  cases features.userId with
  | none => exact .nil
  | some user => exact scored_getD h.accepted.userFrequency user

theorem scored_rankUserRecency : Scored p.artifact.appVocab (p.rankUserRecency features) := by
  rw [NextAppPredictor.rankUserRecency]
  split
  · split
    · rename_i app hget
      have happ := (h.accepted.userRecency _ (SortedMap.mem_of_get hget)).2
      exact ⟨by simpa using happ, List.nodup_singleton _⟩
    · exact .nil
  · exact .nil

theorem scored_contextScores {current : String} {s : AppScore F}
    (hs : s ∈ (p.contextScores features current).flatten) : s.app ∈ p.artifact.appVocab := by
  obtain ⟨scores, hscores, hs⟩ := List.mem_flatten.mp hs
  simp only [NextAppPredictor.contextScores, List.mem_append, Option.mem_toList,
    Option.bind_eq_some_iff] at hscores
  rcases hscores with ⟨n, -, hget⟩ | ⟨n, -, hget⟩
  all_goals exact (h.accepted.markovContext _ (SortedMap.mem_of_get hget)).known s hs

theorem scored_rankMarkovContext [Add F] [LE F] [DecidableLE F] :
    YieldsScored m p.artifact.appVocab (p.rankMarkovContext m features) := by
  rw [NextAppPredictor.rankMarkovContext]
  split
  · exact .nil
  · split
    · exact .nil
    · exact (keysIn_foldl_accumulate (fun s hs => h.scored_contextScores features hs)
        .empty).sorted m

theorem addTreeScore_eq_ok [Add F] {scores : List F}
    (hlen : scores.length = p.artifact.appVocab.length) (s : AppScore F) :
    ∃ scores', p.addTreeScore scores s = .ok scores' ∧
      scores'.length = p.artifact.appVocab.length := by
  rw [NextAppPredictor.addTreeScore]
  cases hget : p.appIndex.get s.app with
  | none => exact ⟨scores, rfl, hlen⟩
  | some i =>
    have hi : i < scores.length := hlen ▸ appIndexOf_lt (h.appIndex ▸ hget)
    simp only [readAt_eq_ok hi]
    exact ⟨_, writeAt_eq_ok hi _, by simpa using hlen⟩

theorem featureLiftLogits_eq_ok [Add F] :
    ∃ logits, p.featureLiftLogits features = .ok logits := by
  have htree : ∀ scores : List F, scores.length = p.artifact.appVocab.length →
      ∀ tree ∈ p.artifact.featureLift.trees, ∃ scores',
        p.addTree features scores tree = .ok scores' ∧
          scores'.length = p.artifact.appVocab.length := by
    intro scores hlen tree _
    rw [NextAppPredictor.addTree]
    split
    · exact foldlM_eq_ok (fun _ hlen s _ => h.addTreeScore_eq_ok hlen s) hlen
    · exact ⟨scores, rfl, hlen⟩
  obtain ⟨logits, heq, -⟩ := foldlM_eq_ok htree h.accepted.baseScores
  exact ⟨logits, heq⟩

end

section
variable {F : Type} [Add F] [Sub F] [Div F] [OfScientific F] [LE F] [LT F] [DecidableLE F]
  [DecidableLT F] {m : ScoreMath F} {p : NextAppPredictor F} (h : Built m p)
  (features : PredictionFeatures)
include h

theorem scored_rankNaiveBayes :
    YieldsScored m p.artifact.appVocab (p.rankNaiveBayes m features) :=
  (scored_softmax m h.accepted.nodup _).sorted m

theorem scored_rankFeatureLift :
    YieldsScored m p.artifact.appVocab (p.rankFeatureLift m features) := by
  obtain ⟨logits, heq⟩ := h.featureLiftLogits_eq_ok features
  rw [NextAppPredictor.rankFeatureLift, heq, ok_bind]
  exact (scored_softmax m h.accepted.nodup logits).sorted m

theorem scored_rank_component {component : EnsembleComponent F}
    (hmem : component ∈ ensembleComponents m) :
    YieldsScored m p.artifact.appVocab (component.rank p features) := by
  simp only [ensembleComponents, List.mem_cons, List.not_mem_nil, or_false] at hmem
  rcases hmem with rfl | rfl | rfl | rfl | rfl | rfl | rfl | rfl | rfl
  · exact h.scored_rankNaiveBayes features
  · exact h.scored_rankMarkovOrder2 features
  · exact h.scored_rankMarkov features
  · exact h.scored_rankMarkovContext features
  · exact h.scored_rankFeatureLift features
  · exact h.scored_rankRecency features
  · exact h.scored_rankUserFrequency features
  · exact h.scored_rankUserRecency features
  · exact h.scored_popularity

end

end Built

/-! The ensemble reads and writes within its rows and weights. -/

section
variable {F : Type} {appVocab : List String}

def RowsIn (appVocab : List String) (rows : SortedMap String (List F)) : Prop :=
  KeysIn appVocab rows ∧ ∀ x ∈ rows.entries, x.2.length = logisticFeatureNames.length

theorem RowsIn.upsert {rows : SortedMap String (List F)} (h : RowsIn appVocab rows) {app : String}
    (happ : app ∈ appVocab) {row : List F} (hrow : row.length = logisticFeatureNames.length) :
    RowsIn appVocab (rows.upsert app fun _ => row) := by
  refine ⟨h.1.upsert happ _, fun x hx => ?_⟩
  rcases SortedMap.mem_upsert hx with rfl | hmem
  · exact hrow
  · exact h.2 x hmem

theorem RowsIn.length_getD {rows : SortedMap String (List F)} (h : RowsIn appVocab rows)
    (app : String) (zero : F) :
    ((rows.get app).getD (List.replicate logisticFeatureNames.length zero)).length =
      logisticFeatureNames.length := by
  cases hget : rows.get app with
  | none => exact List.length_replicate
  | some row => exact h.2 _ (SortedMap.mem_of_get hget)

theorem weightOf_eq_ok {c : EnsembleCombiner F} (h : c.components.length = c.weights.length)
    (component : String) : ∃ weight, c.weightOf component = .ok weight := by
  rw [EnsembleCombiner.weightOf]
  cases hidx : c.components.idxOf? component with
  | none => exact ⟨none, rfl⟩
  | some i =>
    have hi : i < c.weights.length := h ▸ (List.idxOf?_eq_some_iff.mp hidx).1
    exact ⟨some c.weights[i], by simp only [readAt_eq_ok hi]; rfl⟩

variable [Add F] [Div F] [NatCast F] [OfScientific F]

theorem writeRow_eq_ok {rows : SortedMap String (List F)} (h : RowsIn appVocab rows)
    {offset : Nat} (hoffset : offset + 2 < logisticFeatureNames.length)
    (currentApp : Option String) {entry : AppScore F × Nat} (hentry : entry.1.app ∈ appVocab) :
    ∃ rows', writeRow currentApp offset rows entry = .ok rows' ∧ RowsIn appVocab rows' := by
  obtain ⟨score, rank⟩ := entry
  rw [writeRow]
  split
  · exact ⟨rows, rfl, h⟩
  · have hlen := h.length_getD score.app (0.0 : F)
    dsimp only
    rw [writeAt_eq_ok (by omega), ok_bind, writeAt_eq_ok (by rw [List.length_set]; omega),
      ok_bind, writeAt_eq_ok (by rw [List.length_set, List.length_set]; omega),
      ok_bind]
    exact ⟨_, rfl, h.upsert hentry (by simpa using hlen)⟩

theorem candidateFeatureRows_eq_ok {rankings : List (List (AppScore F))}
    (hlen : rankings.length = ensembleComponentNames.length)
    (hscored : ∀ scores ∈ rankings, Scored appVocab scores) (currentApp : Option String) :
    ∃ rows, candidateFeatureRows rankings currentApp = .ok rows ∧ RowsIn appVocab rows := by
  refine foldlM_eq_ok (fun rows hrows x hx => ?_) ⟨.empty, fun y hy => absurd hy List.not_mem_nil⟩
  have hidx : x.2 < rankings.length := by simpa using List.snd_lt_of_mem_zipIdx hx
  have hoffset : x.2 * logisticFeaturesPerComponent + 2 < logisticFeatureNames.length := by
    change rankings.length = 9 at hlen
    change x.2 * 3 + 2 < 27
    omega
  refine foldlM_eq_ok (fun rows hrows entry hentry => ?_) hrows
  exact writeRow_eq_ok hrows hoffset currentApp
    ((hscored x.1 (List.fst_mem_of_mem_zipIdx hx)).known _ (List.fst_mem_of_mem_zipIdx hentry))

theorem keysIn_fuseRanking [Mul F] {combined : SortedMap String F} (h : KeysIn appVocab combined)
    {ranked : List (AppScore F)} (hranked : Scored appVocab ranked) (weight : F) :
    KeysIn appVocab (fuseRanking weight ranked combined) :=
  keysIn_foldl_accumulate
    (fun x hx => hranked.known x.1 (List.fst_mem_of_mem_zipIdx hx)) h

end

namespace Built
variable {F : Type} [Add F] [Sub F] [Div F] [OfScientific F] [LE F] [LT F] [DecidableLE F]
  [DecidableLT F] {m : ScoreMath F} {p : NextAppPredictor F} (h : Built m p)
  (features : PredictionFeatures)
include h

theorem scored_componentRankings :
    Yields m.Stops (fun rankings => rankings.length = ensembleComponentNames.length ∧
      ∀ scores ∈ rankings, Scored p.artifact.appVocab scores)
      (p.componentRankings m features) :=
  Yields.mapM fun _ hmem => h.scored_rank_component features hmem

theorem componentRankings_ordered :
    ∃ rankings, p.componentRankings m.ordered features = .ok rankings ∧
      rankings.length = ensembleComponentNames.length ∧
      ∀ scores ∈ rankings, Scored p.artifact.appVocab scores :=
  (h.ordered.scored_componentRankings features).exists_ok ScoreMath.not_stops_ordered

variable [Mul F]

theorem scored_rankEnsembleLegacy :
    YieldsScored m p.artifact.appVocab (p.rankEnsembleLegacy m features) := by
  refine (h.scored_rankNaiveBayes features).bind fun naiveBayes hnaive => ?_
  refine (h.scored_rankFeatureLift features).bind fun featureLift hlift => ?_
  refine KeysIn.sorted (List.foldlRecOn _ _ KeysIn.empty fun combined ih x hx => ?_) m
  have hx : Scored p.artifact.appVocab x.2 := by
    simp only [List.mem_cons, List.not_mem_nil, or_false] at hx
    rcases hx with rfl | rfl | rfl
    · exact hnaive
    · exact h.scored_rankMarkov features
    · exact hlift
  exact keysIn_foldl_accumulate hx.known ih

variable [NatCast F]

theorem keysIn_fuseComponent {combiner : EnsembleCombiner F}
    (hlen : combiner.components.length = combiner.weights.length) {combined : SortedMap String F}
    (hcombined : KeysIn p.artifact.appVocab combined) {component : EnsembleComponent F}
    (hmem : component ∈ ensembleComponents m) :
    Yields m.Stops (KeysIn p.artifact.appVocab)
      (p.fuseComponent features combiner combined component) := by
  obtain ⟨weight, hweight⟩ := weightOf_eq_ok hlen component.name
  rw [NextAppPredictor.fuseComponent, hweight, ok_bind]
  cases weight with
  | none => exact hcombined
  | some weight =>
    dsimp only
    split
    · exact hcombined
    · exact (h.scored_rank_component features hmem).bind fun ranked hranked =>
        keysIn_fuseRanking hcombined hranked weight

theorem scored_rankEnsembleRrf {combiner : EnsembleCombiner F}
    (hlen : combiner.components.length = combiner.weights.length) :
    YieldsScored m p.artifact.appVocab (p.rankEnsembleRrf m features combiner) :=
  (Yields.foldlM (fun _ hcombined _ hmem =>
    h.keysIn_fuseComponent features hlen hcombined hmem) .empty).bind fun _ hin => hin.sorted m

variable [Neg F]

theorem scored_rankEnsembleLogistic (model : LogisticRerankerModel F) :
    YieldsScored m p.artifact.appVocab (p.rankEnsembleLogistic m features model) := by
  refine (h.scored_componentRankings features).bind fun rankings ⟨hlen, hscored⟩ => ?_
  refine (yields_of_ok (candidateFeatureRows_eq_ok hlen hscored features.currentApp)).bind
    fun rows hin => ?_
  exact (hin.1.scored fun _ row => sigmoid m (dot model.weights row)).sorted m

theorem scored_rankBy (algorithm : NextAppAlgorithm) :
    YieldsScored m p.artifact.appVocab (p.rankBy m features algorithm) := by
  cases algorithm with
  | naiveBayes => exact h.scored_rankNaiveBayes features
  | markov => exact h.scored_rankMarkov features
  | featureLift => exact h.scored_rankFeatureLift features
  | ensemble =>
    rw [NextAppPredictor.rankBy, NextAppPredictor.rankEnsemble]
    split
    · exact h.scored_rankEnsembleLogistic features _
    · split
      · exact h.scored_rankEnsembleLegacy features
      · exact h.scored_rankEnsembleRrf features h.accepted.combiner.1

end Built

/-- A ranking as callers may rely on it. -/
structure WellFormedRanking {F : Type} (a : NextAppModelArtifact F) (current : Option String)
    (k : Nat) (scores : List (AppScore F)) : Prop where
  length_le : scores.length ≤ k
  scored : Scored a.appVocab scores
  not_current : ∀ s ∈ scores, current ≠ some s.app
  nonempty : 1 ≤ k → (∃ app ∈ a.appVocab, current ≠ some app) → scores ≠ []

theorem filterCurrentApp_sublist {F : Type} (scores : List (AppScore F))
    (current : Option String) : (filterCurrentApp scores current).Sublist scores := by
  cases current with
  | none => exact List.Sublist.refl _
  | some current => exact List.filter_sublist

theorem mem_filterCurrentApp {F : Type} {scores : List (AppScore F)} {current : Option String}
    {s : AppScore F} :
    s ∈ filterCurrentApp scores current ↔ s ∈ scores ∧ current ≠ some s.app := by
  cases current with
  | none => simp [filterCurrentApp]
  | some current =>
    rw [filterCurrentApp, List.mem_filter, decide_eq_true_eq, ne_eq, ne_eq, Option.some.injEq,
      eq_comm (a := current)]

theorem WellFormedRanking.of_filter {F : Type} {a : NextAppModelArtifact F}
    {scores : List (AppScore F)} (h : Scored a.appVocab scores) {current : Option String}
    {k : Nat}
    (hne : (∃ app ∈ a.appVocab, current ≠ some app) → filterCurrentApp scores current ≠ []) :
    WellFormedRanking a current k ((filterCurrentApp scores current).take k) where
  length_le := List.length_take_le _ _
  scored := h.sublist ((List.take_sublist _ _).trans (filterCurrentApp_sublist scores current))
  not_current _ hs := (mem_filterCurrentApp.mp (List.mem_of_mem_take hs)).2
  nonempty hk happ hnil := by
    rcases List.take_eq_nil_iff.mp hnil with rfl | hnil
    · omega
    · exact hne happ hnil

section
variable {F : Type} [Add F] [Sub F] [Mul F] [Div F] [Neg F] [NatCast F] [OfScientific F]
  [LE F] [LT F] [DecidableLE F] [DecidableLT F]

omit [Add F] [Sub F] [Mul F] [Div F] [Neg F] [NatCast F] [LE F] [DecidableLE F] in
theorem NextAppPredictor.built_of_new {m : ScoreMath F} {a : NextAppModelArtifact F}
    {p : NextAppPredictor F} (h : NextAppPredictor.new m a = .ok p) :
    Built m p ∧ p.artifact = a := by
  rw [NextAppPredictor.new] at h
  cases hvalid : validateArtifact m a with
  | error e => rw [hvalid] at h; cases h
  | ok u =>
    rw [hvalid] at h
    cases h
    exact ⟨⟨validateArtifact_eq_ok.mp hvalid, rfl⟩, rfl⟩

/-- Ranking on an accepted artifact ends in a ranking as callers may rely on it, whatever it is
asked, unless a sort stops it. -/
theorem Built.wellFormed_rank {m : ScoreMath F} {p : NextAppPredictor F} (h : Built m p)
    (features : PredictionFeatures) (algorithm : NextAppAlgorithm) (k : Nat) :
    Yields m.Stops (WellFormedRanking p.artifact features.currentApp k)
      (p.rank m features algorithm k) := by
  refine (h.scored_rankBy features algorithm).bind fun ranked hscored => ?_
  change WellFormedRanking _ _ k (List.take k _)
  split
  · refine .of_filter h.scored_popularity ?_
    rintro ⟨app, happ, hne⟩
    obtain ⟨s, hs, rfl⟩ := h.mem_popularity happ
    exact List.ne_nil_of_mem (mem_filterCurrentApp.mpr ⟨hs, hne⟩)
  · rename_i hnonempty
    exact .of_filter hscored fun _ hnil => hnonempty (by rw [hnil]; rfl)

end

/-- Linear stand-ins for the exponential and the logarithm; no list of rationals is unordered. -/
def ratMath : ScoreMath ℚ := ⟨fun x => 1 + x, fun x => x - 1, 0, fun _ => true, fun _ => none⟩

def twoAppArtifact : NextAppModelArtifact ℚ where
  schemaVersion := schemaVersion
  modelId := modelName
  datasetId := "two-apps"
  trainedAtMs := 0
  config := {}
  appVocab := ["chat", "mail"]
  globalPopularity := [⟨"mail", 2 / 3⟩, ⟨"chat", 1 / 3⟩]
  naiveBayes := ⟨[0, 0], [0, 0], .empty⟩
  markov := ⟨SortedMap.empty.upsert "chat" fun _ => [⟨"mail", 1⟩], .empty, .empty⟩
  featureLift := ⟨[0, 0], []⟩
  userFrequency := .empty
  userRecency := .empty
  markovContext := .empty
  ensembleCombiner := .default
  ensembleLogistic := .default
  trainingSummary := ⟨1, 1, 2⟩

end Dipecs.Agent.Predictive
