import Dipecs.Agent.Predictive.Fusion
import Dipecs.Library.Descending

/-! When the ensemble ranks no app but the current one, the popularity of the artifact is served
in its place, in the order in which the artifact lists it. -/

namespace Dipecs.Agent.Predictive

open Dipecs.Library

section
variable {F : Type} [Add F] [Sub F] [Mul F] [Div F] [NatCast F] [OfScientific F]
  [LE F] [LT F] [DecidableLE F] [DecidableLT F]

def Counts (c : EnsembleCombiner F) (p : NextAppPredictor F) (features : PredictionFeatures)
    (component : EnsembleComponent F) (app : String) : Prop :=
  ∃ weight, c.weightOf component.name = .ok (some weight) ∧ isZero weight = false ∧
    ∃ scores, component.rank p features = .ok scores ∧ ∃ s ∈ scores, s.app = app

/-- Fusion serves the artifact, and what counts in it knows of no app but the current one. -/
structure FallsBack (m : ScoreMath F) (p : NextAppPredictor F) (features : PredictionFeatures) :
    Prop where
  noLogistic : p.artifact.ensembleLogistic.isEmpty = true
  combiner : p.artifact.ensembleCombiner.isEmpty = false
  silent : ∀ component ∈ ensembleComponents m, ∀ app,
    Counts p.artifact.ensembleCombiner p features component app → features.currentApp = some app

omit [Add F] [Sub F] [Mul F] [Div F] [NatCast F] [OfScientific F] [LT F] [DecidableLT F] in
theorem exists_mem_of_sortScores {m : ScoreMath F} {ν : Type} {combined : SortedMap String ν}
    (score : String → ν → F) {sorted : List (AppScore F)}
    (h : m.sortScores (combined.entries.map fun x => ⟨x.1, score x.1 x.2⟩) = .ok sorted)
    (app : String) : (∃ s ∈ sorted, s.app = app) ↔ (combined.get app).isSome := by
  have hperm := ScoreMath.perm_of_sortScores h
  rw [SortedMap.isSome_get, List.mem_map]
  constructor
  · rintro ⟨s, hs, rfl⟩
    obtain ⟨x, hx, rfl⟩ := List.mem_map.mp (hperm.mem_iff.mp hs)
    exact ⟨x, hx, rfl⟩
  · rintro ⟨x, hx, rfl⟩
    exact ⟨⟨x.1, score x.1 x.2⟩, hperm.mem_iff.mpr (List.mem_map_of_mem hx), rfl⟩

variable {m : ScoreMath F} {p : NextAppPredictor F} {features : PredictionFeatures}

omit [Sub F] [LT F] [DecidableLT F] in
theorem isSome_fuseComponent {c : EnsembleCombiner F} {component : EnsembleComponent F}
    {combined combined' : SortedMap String F}
    (h : p.fuseComponent features c combined component = .ok combined') (app : String) :
    (combined'.get app).isSome ↔ (combined.get app).isSome ∨ Counts c p features component app := by
  rw [NextAppPredictor.fuseComponent] at h
  obtain ⟨found, hweight, h⟩ := bind_eq_ok_iff.mp h
  cases found with
  | none =>
    obtain rfl := Except.ok.inj h
    refine ⟨.inl, fun hor => hor.resolve_right ?_⟩
    rintro ⟨weight, heq, -⟩
    rw [hweight] at heq
    cases heq
  | some weight =>
    have hcounts : Counts c p features component app ↔ isZero weight = false ∧
        ∃ scores, component.rank p features = .ok scores ∧ ∃ s ∈ scores, s.app = app := by
      simp [Counts, hweight]
    rw [hcounts]
    dsimp only at h
    split at h
    · rename_i hzero
      obtain rfl := Except.ok.inj h
      simp [hzero]
    · rename_i hzero
      obtain ⟨ranked, hranked, h⟩ := bind_eq_ok_iff.mp h
      obtain rfl := Except.ok.inj h
      rw [isSome_fuseRanking]
      simp [hzero, hranked]

theorem exists_mem_rankEnsembleRrf {c : EnsembleCombiner F}
    {scores : List (AppScore F)}
    (h : p.rankEnsembleRrf m features c = .ok scores) (app : String) :
    (∃ s ∈ scores, s.app = app) ↔
      ∃ component ∈ ensembleComponents m, Counts c p features component app := by
  rw [NextAppPredictor.rankEnsembleRrf] at h
  obtain ⟨combined, hcombined, h⟩ := bind_eq_ok_iff.mp h
  have hfold := foldlM_iff (Q := fun combined : SortedMap String F => (combined.get app).isSome)
    (fun _ _ _ hstep => isSome_fuseComponent hstep app) hcombined
  have hkeys := exists_mem_of_sortScores (fun _ score => score) h app
  rw [hfold] at hkeys
  exact hkeys.trans (or_iff_right (by simp))

/-! Without a combiner, some ranker that counts knows the whole vocabulary. -/

omit [Mul F] [NatCast F] [Sub F] [Div F] [LE F] [DecidableLE F] [LT F] [DecidableLT F]
  [OfScientific F] in
@[simp] theorem length_addVec (targets values : List F) :
    (addVec targets values).length = targets.length := by
  induction targets generalizing values with
  | nil => cases values <;> rfl
  | cons target targets ih => cases values <;> simp [addVec, ih]

omit [Mul F] [NatCast F] in
theorem exists_mem_softmax (m : ScoreMath F) {appVocab : List String} {logits : List F}
    (hlen : logits.length = appVocab.length) {app : String} (happ : app ∈ appVocab) :
    ∃ s ∈ softmax m appVocab logits, s.app = app := by
  rw [softmax]
  dsimp only
  generalize hexp : (logits.map fun score => m.exp (score - logits.foldl maxNum m.negInfinity)) =
    exp
  have hfst : (appVocab.zip exp).map Prod.fst = appVocab :=
    List.map_fst_zip (by rw [← hexp, List.length_map, hlen])
  rw [← hfst] at happ
  obtain ⟨x, hx, rfl⟩ := List.mem_map.mp happ
  exact ⟨_, List.mem_map_of_mem hx, rfl⟩

omit [Mul F] [NatCast F] in
theorem Built.exists_mem_rankNaiveBayes (h : Built m p) {scores : List (AppScore F)}
    (hscores : p.rankNaiveBayes m features = .ok scores) {app : String}
    (happ : app ∈ p.artifact.appVocab) : ∃ s ∈ scores, s.app = app := by
  have hlen : (p.naiveBayesLogits features).length = p.artifact.appVocab.length := by
    refine List.foldlRecOn (featureKeys features) _
      (motive := fun scores : List F => scores.length = p.artifact.appVocab.length)
      h.accepted.classLogPriors fun scores ih featureKey _ => ?_
    rw [length_addVec]
    exact ih
  obtain ⟨s, hs, happ⟩ := exists_mem_softmax m hlen happ
  exact ⟨s, (ScoreMath.perm_of_sortScores hscores).mem_iff.mpr hs, happ⟩

omit [NatCast F] in
theorem Built.exists_mem_rankEnsembleLegacy (h : Built m p)
    {scores : List (AppScore F)} (hscores : p.rankEnsembleLegacy m features = .ok scores)
    {app : String} (happ : app ∈ p.artifact.appVocab) : ∃ s ∈ scores, s.app = app := by
  rw [NextAppPredictor.rankEnsembleLegacy] at hscores
  obtain ⟨naiveBayes, hnaive, hscores⟩ := bind_eq_ok_iff.mp hscores
  obtain ⟨featureLift, -, hscores⟩ := bind_eq_ok_iff.mp hscores
  refine (exists_mem_of_sortScores (fun _ score => score) hscores app).mpr ?_
  have hfold := foldl_iff (Q := fun combined : SortedMap String F => (combined.get app).isSome)
    (fun combined (x : F × List (AppScore F)) =>
      foldl_iff (Q := fun combined : SortedMap String F => (combined.get app).isSome)
        (fun combined s => isSome_accumulate combined s.app app (x.1 * s.score)) x.2 combined)
    [(0.30, naiveBayes), (0.40, p.rankMarkov features), (0.30, featureLift)] .empty
  exact hfold.mpr (.inr ⟨_, List.mem_cons_self, h.exists_mem_rankNaiveBayes hnaive happ⟩)

variable [Neg F]

theorem Built.exists_mem_rankEnsembleLogistic (h : Built m p)
    {model : LogisticRerankerModel F} {scores : List (AppScore F)}
    (hscores : p.rankEnsembleLogistic m features model = .ok scores) {app : String}
    (happ : app ∈ p.artifact.appVocab) (hcurrent : features.currentApp ≠ some app) :
    ∃ s ∈ scores, s.app = app := by
  rw [NextAppPredictor.rankEnsembleLogistic] at hscores
  obtain ⟨rankings, hrankings, hscores⟩ := bind_eq_ok_iff.mp hscores
  obtain ⟨rows, hrows, hscores⟩ := bind_eq_ok_iff.mp hscores
  refine (exists_mem_of_sortScores (fun _ row => sigmoid m (dot model.weights row)) hscores
    app).mpr ?_
  rw [isSome_candidateFeatureRows hcurrent hrows]
  have hpopularity : (⟨"popularity", fun p features => .ok (p.rankPopularity features)⟩ :
      EnsembleComponent F) ∈ ensembleComponents m := by
    simp [ensembleComponents]
  obtain ⟨ranking, hmem, hranking⟩ := forall₂_of_mem_left (mapM_eq_ok_iff.mp hrankings) hpopularity
  obtain rfl := Except.ok.inj hranking
  exact ⟨_, hmem, h.mem_popularity happ⟩

/-- The ensemble falls silent on the other apps exactly when what counts in it does, as long as
there are any. -/
theorem Built.filter_rankEnsemble (h : Built m p) {scores : List (AppScore F)}
    (hscores : p.rankEnsemble m features = .ok scores)
    (hother : ∃ app ∈ p.artifact.appVocab, features.currentApp ≠ some app) :
    filterCurrentApp scores features.currentApp = [] ↔ FallsBack m p features := by
  rw [NextAppPredictor.rankEnsemble] at hscores
  obtain ⟨app, happ, hcurrent⟩ := hother
  have hnonempty : (∃ s ∈ scores, s.app = app) →
      filterCurrentApp scores features.currentApp ≠ [] := by
    rintro ⟨s, hs, rfl⟩
    exact List.ne_nil_of_mem (mem_filterCurrentApp.mpr ⟨hs, hcurrent⟩)
  split at hscores
  · rename_i hlogistic
    have hne := hnonempty (h.exists_mem_rankEnsembleLogistic hscores happ hcurrent)
    exact ⟨fun hnil => absurd hnil hne, fun hfall => by simp [hfall.noLogistic] at hlogistic⟩
  rename_i hlogistic
  split at hscores
  · rename_i hcombiner
    have hne := hnonempty (h.exists_mem_rankEnsembleLegacy hscores happ)
    exact ⟨fun hnil => absurd hnil hne, fun hfall => by simp [hfall.combiner] at hcombiner⟩
  · rename_i hcombiner
    rw [List.eq_nil_iff_forall_not_mem]
    constructor
    · refine fun hnil => ⟨by simpa using hlogistic, by simpa using hcombiner,
        fun component hmem app hcounts => ?_⟩
      obtain ⟨s, hs, rfl⟩ := (exists_mem_rankEnsembleRrf hscores app).mpr ⟨component, hmem, hcounts⟩
      exact not_not.mp fun hne => hnil s (mem_filterCurrentApp.mpr ⟨hs, hne⟩)
    · intro hfall s hs
      obtain ⟨hs, hne⟩ := mem_filterCurrentApp.mp hs
      obtain ⟨component, hmem, hcounts⟩ :=
        (exists_mem_rankEnsembleRrf hscores s.app).mp ⟨s, hs, rfl⟩
      exact hne (hfall.silent component hmem s.app hcounts)

end

/-! Where scores can be compared, what the ensemble ranks is in order. -/

section
variable {F : Type} [LinearOrder F]

theorem descending_of_sortScores {m : ScoreMath F} {scores sorted : List (AppScore F)}
    (h : m.sortScores scores = .ok sorted) : Descending AppScore.score sorted := by
  rw [m.sortScores_eq_ok] at h
  refine Except.ok.inj h ▸ (pairwise_sortScores scores).imp fun h => ?_
  rcases Prod.Lex.le_iff.mp (rankLe_iff.mp h) with hlt | ⟨heq, -⟩
  · exact le_of_lt hlt
  · exact le_of_eq heq

variable [Add F] [Sub F] [Mul F] [Div F] [Neg F] [NatCast F] [OfScientific F]
  {m : ScoreMath F} {p : NextAppPredictor F} {features : PredictionFeatures}

theorem descending_rankEnsemble {scores : List (AppScore F)}
    (h : p.rankEnsemble m features = .ok scores) : Descending AppScore.score scores := by
  rw [NextAppPredictor.rankEnsemble] at h
  split at h
  · rw [NextAppPredictor.rankEnsembleLogistic] at h
    obtain ⟨rankings, -, h⟩ := bind_eq_ok_iff.mp h
    obtain ⟨rows, -, h⟩ := bind_eq_ok_iff.mp h
    exact descending_of_sortScores h
  split at h
  · rw [NextAppPredictor.rankEnsembleLegacy] at h
    obtain ⟨naiveBayes, -, h⟩ := bind_eq_ok_iff.mp h
    obtain ⟨featureLift, -, h⟩ := bind_eq_ok_iff.mp h
    exact descending_of_sortScores h
  · rw [NextAppPredictor.rankEnsembleRrf] at h
    obtain ⟨combined, -, h⟩ := bind_eq_ok_iff.mp h
    exact descending_of_sortScores h

theorem Built.rank_ensemble (h : Built m p) (features : PredictionFeatures) (k : Nat) :
    ∃ predictions, p.rank m features .ensemble k = .ok predictions ∧
      (FallsBack m p features → predictions =
        (filterCurrentApp p.artifact.globalPopularity features.currentApp).take k) ∧
      (¬ FallsBack m p features → Descending AppScore.score predictions) := by
  obtain ⟨scores, hscores, hscored⟩ :=
    (h.scored_rankBy features .ensemble).exists_ok m.not_stops
  have hsorted := descending_rankEnsemble hscores
  rw [NextAppPredictor.rank, hscores, ok_bind]
  refine ⟨_, rfl, ?_⟩
  by_cases hother : ∃ app ∈ p.artifact.appVocab, features.currentApp ≠ some app
  · have hfilter := h.filter_rankEnsemble hscores hother
    by_cases hfall : FallsBack m p features
    · refine ⟨fun _ => ?_, fun hnot => absurd hfall hnot⟩
      rw [if_pos (List.isEmpty_iff.mpr (hfilter.mpr hfall))]
    · refine ⟨fun h => absurd h hfall, fun _ => ?_⟩
      rw [if_neg (mt List.isEmpty_iff.mp (mt hfilter.mp hfall))]
      exact hsorted.sublist ((List.take_sublist _ _).trans (filterCurrentApp_sublist _ _))
  · -- the artifact knows of no other app, so both are empty
    have hnil : ∀ scores : List (AppScore F), Scored p.artifact.appVocab scores →
        filterCurrentApp scores features.currentApp = [] := by
      intro scores hscored
      refine List.eq_nil_iff_forall_not_mem.mpr fun s hs => ?_
      obtain ⟨hs, hne⟩ := mem_filterCurrentApp.mp hs
      exact hother ⟨s.app, hscored.known s hs, hne⟩
    rw [hnil scores hscored, hnil _ h.scored_popularity, ite_self, List.take_nil]
    exact ⟨fun _ => rfl, fun _ => List.Pairwise.nil⟩

end

end Dipecs.Agent.Predictive
