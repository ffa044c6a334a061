import Dipecs.Agent.Predictive.EnsembleFit
import Dipecs.Agent.Predictive.RankingOrder
import Mathlib.Algebra.Order.BigOperators.Group.List
import Mathlib.Algebra.Order.Field.Basic
import Mathlib.Data.List.Enum
import Mathlib.Tactic.Linarith
import Mathlib.Tactic.NormNum
import Mathlib.Tactic.Positivity
import Mathlib.Tactic.Ring

/-! Fusing rankings in exact arithmetic: what an app scores, how the scores change when the
current app is taken out first, and which app comes out on top. -/

namespace Dipecs.Agent.Predictive

open Dipecs.Library

theorem exists_mem_zipIdx_fst {α : Type} {P : α → Prop} {l : List α} :
    (∃ x ∈ l.zipIdx, P x.1) ↔ ∃ a ∈ l, P a := by
  rw [List.exists_mem_zipIdx', List.exists_mem_iff_getElem]

/-! Which apps are in a sum, and which in the rows of the reranker. -/

section
variable {F : Type} [Add F] [OfScientific F]

theorem isSome_accumulate (combined : SortedMap String F) (app app' : String) (score : F) :
    ((accumulate combined app score).get app').isSome ↔
      (combined.get app').isSome ∨ app = app' := by
  rw [accumulate, SortedMap.get_upsert]
  by_cases h : app' = app
  · simp [h]
  · simp [h, Ne.symm h]

variable [Div F] [NatCast F]

theorem isSome_fuseRanking [Mul F] (weight : F) (ranking : List (AppScore F))
    (combined : SortedMap String F) (app : String) :
    ((fuseRanking weight ranking combined).get app).isSome ↔
      (combined.get app).isSome ∨ ∃ s ∈ ranking, s.app = app := by
  have hfold := foldl_iff (Q := fun combined : SortedMap String F => (combined.get app).isSome)
    (fun combined (entry : AppScore F × Nat) => isSome_accumulate combined entry.1.app app
      (contribution weight entry.2 entry.1.score)) ranking.zipIdx combined
  rwa [exists_mem_zipIdx_fst (P := fun s : AppScore F => s.app = app)] at hfold

theorem isSome_writeRow {currentApp : Option String} {label : String}
    (hlabel : currentApp ≠ some label) {offset : Nat} {rows rows' : SortedMap String (List F)}
    {entry : AppScore F × Nat} (h : writeRow currentApp offset rows entry = .ok rows') :
    (rows'.get label).isSome ↔ (rows.get label).isSome ∨ entry.1.app = label := by
  obtain ⟨score, rank⟩ := entry
  rw [writeRow] at h
  split at h
  · rename_i hcurrent
    cases h
    have hne : score.app ≠ label := fun heq => hlabel (heq ▸ hcurrent)
    simp [hne]
  · obtain ⟨row, -, h⟩ := bind_eq_ok_iff.mp h
    obtain ⟨row', -, h⟩ := bind_eq_ok_iff.mp h
    obtain ⟨row'', -, h⟩ := bind_eq_ok_iff.mp h
    cases h
    rw [SortedMap.get_upsert]
    by_cases heq : label = score.app
    · simp [heq]
    · simp [heq, Ne.symm heq]

theorem isSome_candidateFeatureRows {currentApp : Option String} {label : String}
    (hlabel : currentApp ≠ some label) {rankings : List (List (AppScore F))}
    {rows : SortedMap String (List F)} (h : candidateFeatureRows rankings currentApp = .ok rows) :
    (rows.get label).isSome ↔ ∃ scores ∈ rankings, ∃ s ∈ scores, s.app = label := by
  have hfold := foldlM_iff (Q := fun rows : SortedMap String (List F) => (rows.get label).isSome)
    (fun rows (x : List (AppScore F) × Nat) rows' hrow =>
      foldlM_iff (Q := fun rows : SortedMap String (List F) => (rows.get label).isSome)
        (fun _ _ _ => isSome_writeRow hlabel) hrow) h
  rw [hfold]
  simp only [SortedMap.get_empty, Option.isSome_none, Bool.false_eq_true, false_or,
    exists_mem_zipIdx_fst (P := fun s : AppScore F => s.app = label)]
  exact exists_mem_zipIdx_fst
    (P := fun scores : List (AppScore F) => ∃ s ∈ scores, s.app = label)

end

section
variable {F : Type} [Add F] [Mul F] [Div F] [NatCast F] [OfScientific F] [LE F] [DecidableLE F]

def EnsembleCombiner.weightFor (c : EnsembleCombiner F) (component : String) : F :=
  match c.weightOf component with
  | .ok (some weight) => weight
  | _ => 0.0

def combinerWeights (c : EnsembleCombiner F) : List F := ensembleComponentNames.map c.weightFor

def fuseWeighted (combined : SortedMap String F) (x : F × List (AppScore F)) :
    SortedMap String F :=
  if isZero x.1 then combined else fuseRanking x.1 x.2 combined

def fittingScores (weights : List F) (x : CachedExample F) : Except Fault (SortedMap String F) :=
  x.rankings.zipIdx.foldlM (fuseCached weights) .empty

def fused (weighted : List (F × List (AppScore F))) : SortedMap String F :=
  weighted.foldl fuseWeighted .empty

theorem foldlM_fuseCached (weights : List F) (rankings : List (List (AppScore F))) (n : Nat)
    (hlen : n + rankings.length ≤ weights.length) (combined : SortedMap String F) :
    (rankings.zipIdx n).foldlM (fuseCached weights) combined =
      .ok (((weights.drop n).zip rankings).foldl fuseWeighted combined) := by
  induction rankings generalizing n combined with
  | nil => simp; rfl
  | cons list rankings ih =>
    have hn : n < weights.length := by simp only [List.length_cons] at hlen; omega
    have hstep : fuseCached weights combined (list, n) =
        .ok (fuseWeighted combined (weights[n], list)) := by
      simp only [fuseCached, readAt_eq_ok hn, ok_bind, fuseWeighted]
      split <;> rfl
    rw [List.zipIdx_cons, List.foldlM_cons, hstep, ok_bind,
      ih (n + 1) (by simp only [List.length_cons] at hlen; omega), List.drop_eq_getElem_cons hn,
      List.zip_cons_cons, List.foldl_cons]

theorem fittingScores_eq (weights : List F) {x : CachedExample F}
    (hlen : x.rankings.length = weights.length) :
    fittingScores weights x = .ok (fused (weights.zip x.rankings)) :=
  foldlM_fuseCached weights x.rankings 0 (by omega) .empty

theorem weightedTop_eq (weights : List F) {rankings : List (List (AppScore F))}
    (hlen : rankings.length = weights.length) :
    weightedTop weights rankings =
      .ok ((maxBy topCmp (fused (weights.zip rankings)).entries).map Prod.fst) := by
  rw [weightedTop, foldlM_fuseCached weights rankings 0 (by omega)]
  rfl

theorem fuseComponent_eq {c : EnsembleCombiner F} (hc : c.components.length = c.weights.length)
    {p : NextAppPredictor F} {features : PredictionFeatures} {component : EnsembleComponent F}
    {ranking : List (AppScore F)} (hrank : component.rank p features = .ok ranking)
    (hzero : isZero (0.0 : F) = true) (combined : SortedMap String F) :
    p.fuseComponent features c combined component =
      .ok (fuseWeighted combined (c.weightFor component.name, ranking)) := by
  obtain ⟨weight, hweight⟩ := weightOf_eq_ok hc component.name
  rw [NextAppPredictor.fuseComponent, EnsembleCombiner.weightFor, hweight, ok_bind]
  cases weight with
  | none =>
    rw [fuseWeighted, if_pos hzero]
    rfl
  | some weight =>
    rw [fuseWeighted]
    dsimp only
    split
    · rfl
    · rw [hrank]
      rfl

theorem foldlM_fuseComponent {c : EnsembleCombiner F}
    (hc : c.components.length = c.weights.length) {p : NextAppPredictor F}
    {features : PredictionFeatures} (hzero : isZero (0.0 : F) = true)
    {components : List (EnsembleComponent F)} {rankings : List (List (AppScore F))}
    (h : components.mapM (fun component => component.rank p features) = .ok rankings)
    (combined : SortedMap String F) :
    components.foldlM (p.fuseComponent features c) combined =
      .ok (((components.map fun component => c.weightFor component.name).zip rankings).foldl
        fuseWeighted combined) := by
  induction components generalizing rankings combined with
  | nil =>
    cases h
    rfl
  | cons component components ih =>
    rw [List.mapM_cons] at h
    obtain ⟨ranking, hrank, h⟩ := bind_eq_ok_iff.mp h
    obtain ⟨rankings', hrankings, h⟩ := bind_eq_ok_iff.mp h
    cases h
    rw [List.foldlM_cons, fuseComponent_eq hc hrank hzero, ok_bind, ih hrankings]
    rfl

end

section
variable {F : Type} [Add F] [Sub F] [Mul F] [Div F] [NatCast F] [OfScientific F]
  [LE F] [LT F] [DecidableLE F] [DecidableLT F]

def servingScores (m : ScoreMath F) (p : NextAppPredictor F) (features : PredictionFeatures)
    (c : EnsembleCombiner F) : Except Fault (SortedMap String F) :=
  (ensembleComponents m).foldlM (p.fuseComponent features c) .empty

theorem servingScores_eq {m : ScoreMath F} {c : EnsembleCombiner F}
    (hc : c.components.length = c.weights.length) {p : NextAppPredictor F}
    {features : PredictionFeatures} (hzero : isZero (0.0 : F) = true)
    {rankings : List (List (AppScore F))} (h : p.componentRankings m features = .ok rankings) :
    servingScores m p features c = .ok (fused ((combinerWeights c).zip rankings)) := by
  have hnames : (ensembleComponents m).map (fun component => c.weightFor component.name) =
      combinerWeights c := by
    rw [combinerWeights, ← map_name_ensembleComponents m, List.map_map]
    rfl
  rw [servingScores, foldlM_fuseComponent hc hzero h, hnames]
  rfl

theorem rankEnsembleRrf_eq {m : ScoreMath F} {c : EnsembleCombiner F}
    (hc : c.components.length = c.weights.length) {p : NextAppPredictor F}
    {features : PredictionFeatures} (hzero : isZero (0.0 : F) = true)
    {rankings : List (List (AppScore F))} (h : p.componentRankings m features = .ok rankings) :
    p.rankEnsembleRrf m features c =
      m.sortScores (scoresOf (fused ((combinerWeights c).zip rankings))) := by
  have hserving := servingScores_eq hc hzero h
  rw [servingScores] at hserving
  rw [NextAppPredictor.rankEnsembleRrf, hserving]
  rfl

end

/-! In exact arithmetic. -/

section
variable {F : Type} [Field F] [LinearOrder F] [IsStrictOrderedRing F]

theorem zero_literal : (0.0 : F) = 0 := by norm_num

theorem isZero_iff {weight : F} : isZero weight = true ↔ weight = 0 := by
  rw [isZero, decide_eq_true_eq, partialCmp_eq_compare, Option.some.injEq, compare_eq_iff_eq,
    zero_literal]

def gain (k : Nat) : List (AppScore F) → String → F
  | [], _ => 0
  | s :: ranking, app =>
    (if s.app = app then 1 / (1 + (k : F)) + s.score / (2 : ℕ) else 0) + gain (k + 1) ranking app

def valueOf (combined : SortedMap String F) (app : String) : F := (combined.get app).getD 0

theorem valueOf_accumulate (combined : SortedMap String F) (app app' : String) (score : F) :
    valueOf (accumulate combined app score) app' =
      valueOf combined app' + if app = app' then score else 0 := by
  rw [valueOf, accumulate, SortedMap.get_upsert, valueOf]
  by_cases h : app = app'
  · subst h
    simp [zero_literal]
  · simp [h, Ne.symm h]

theorem valueOf_fuseRanking (weight : F) (ranking : List (AppScore F)) (k : Nat)
    (combined : SortedMap String F) (app : String) :
    valueOf ((ranking.zipIdx k).foldl (fun combined (score, rank) =>
        accumulate combined score.app (contribution weight rank score.score)) combined) app =
      valueOf combined app + weight * gain k ranking app := by
  induction ranking generalizing k combined with
  | nil => simp [gain]
  | cons s ranking ih =>
    have hcontribution : contribution weight k s.score =
        weight * (1 / (1 + (k : F)) + s.score / 2) := by
      have hone : (1.0 : F) = 1 := by norm_num
      have hhalf : (0.5 : F) = 1 / 2 := by norm_num
      rw [contribution, rrfK, magnitudeBlend, hone, hhalf]
      ring
    rw [List.zipIdx_cons, List.foldl_cons, ih, valueOf_accumulate, hcontribution, gain]
    split <;> ring

theorem valueOf_foldl_fuseWeighted (weighted : List (F × List (AppScore F)))
    (combined : SortedMap String F) (app : String) :
    valueOf (weighted.foldl fuseWeighted combined) app =
      valueOf combined app + (weighted.map fun x => x.1 * gain 0 x.2 app).sum := by
  induction weighted generalizing combined with
  | nil => simp
  | cons x weighted ih =>
    have hstep : valueOf (fuseWeighted combined x) app =
        valueOf combined app + x.1 * gain 0 x.2 app := by
      rw [fuseWeighted]
      split <;> rename_i hzero
      · rw [isZero_iff.mp hzero, zero_mul, add_zero]
      · exact valueOf_fuseRanking x.1 x.2 0 combined app
    rw [List.foldl_cons, ih, hstep, List.map_cons, List.sum_cons, add_assoc]

theorem valueOf_fused (weighted : List (F × List (AppScore F))) (app : String) :
    valueOf (fused weighted) app = (weighted.map fun x => x.1 * gain 0 x.2 app).sum := by
  rw [fused, valueOf_foldl_fuseWeighted, valueOf, SortedMap.get_empty, Option.getD_none, zero_add]

def Named (weighted : List (F × List (AppScore F))) (app : String) : Prop :=
  ∃ x ∈ weighted, x.1 ≠ 0 ∧ ∃ s ∈ x.2, s.app = app

theorem isSome_fused (weighted : List (F × List (AppScore F))) (app : String) :
    ((fused weighted).get app).isSome ↔ Named weighted app := by
  have hstep : ∀ (combined : SortedMap String F) (x : F × List (AppScore F)),
      ((fuseWeighted combined x).get app).isSome ↔
        (combined.get app).isSome ∨ (x.1 ≠ 0 ∧ ∃ s ∈ x.2, s.app = app) := by
    intro combined x
    rw [fuseWeighted]
    split <;> rename_i hzero
    · simp [isZero_iff.mp hzero]
    · rw [isSome_fuseRanking]
      simp [mt isZero_iff.mpr hzero]
  have hfold := foldl_iff (Q := fun combined : SortedMap String F => (combined.get app).isSome)
    hstep weighted .empty
  simpa [fused, Named] using hfold

theorem get_fused {weighted : List (F × List (AppScore F))} {app : String}
    (h : Named weighted app) :
    (fused weighted).get app = some (valueOf (fused weighted) app) := by
  obtain ⟨value, hvalue⟩ := Option.isSome_iff_exists.mp ((isSome_fused weighted app).mpr h)
  rw [valueOf, hvalue, Option.getD_some]

/-! Taking the current app out moves what stands behind it up. -/

def without (current : String) (ranking : List (AppScore F)) : List (AppScore F) :=
  ranking.filter (·.app ≠ current)

/-- The current app stands ahead of no other app in any ranking that counts. -/
def Unshifted (current : String) (weighted : List (F × List (AppScore F))) : Prop :=
  ∀ x ∈ weighted, x.1 ≠ 0 → without current x.2 <+: x.2

theorem reciprocal_le {j k : Nat} (h : j ≤ k) : 1 / (1 + (k : F)) ≤ 1 / (1 + (j : F)) := by
  have hcast : (j : F) ≤ k := Nat.cast_le.mpr h
  have hpos : (0 : F) < 1 + (j : F) := by positivity
  exact one_div_le_one_div_of_le hpos (by linarith)

theorem reciprocal_lt {j k : Nat} (h : j < k) : 1 / (1 + (k : F)) < 1 / (1 + (j : F)) := by
  have hcast : (j : F) < k := Nat.cast_lt.mpr h
  have hpos : (0 : F) < 1 + (j : F) := by positivity
  exact one_div_lt_one_div_of_lt hpos (by linarith)

theorem head_le (s : AppScore F) (app : String) {j k : Nat} (h : j ≤ k) :
    (if s.app = app then 1 / (1 + (k : F)) + s.score / 2 else 0) ≤
      if s.app = app then 1 / (1 + (j : F)) + s.score / 2 else 0 := by
  split
  · exact add_le_add_left (reciprocal_le h) _
  · exact le_refl _

theorem gain_le_without {current app : String} (happ : app ≠ current)
    (ranking : List (AppScore F)) {j k : Nat} (h : j ≤ k) :
    gain k ranking app ≤ gain j (without current ranking) app := by
  induction ranking generalizing j k with
  | nil => exact le_refl _
  | cons s ranking ih =>
    by_cases hs : s.app = current
    · have hskip : without current (s :: ranking) = without current ranking := by
        simp [without, hs]
      rw [hskip, gain, if_neg (fun heq => happ (heq.symm.trans hs)), zero_add]
      exact ih (by omega)
    · have hkeep : without current (s :: ranking) = s :: without current ranking := by
        simp [without, hs]
      rw [hkeep, gain, gain]
      exact add_le_add (head_le s app h) (ih (by omega))

theorem gain_lt_without {current app : String} (happ : app ≠ current)
    {ranking : List (AppScore F)} (hmem : ∃ s ∈ ranking, s.app = app) {j k : Nat} (h : j < k) :
    gain k ranking app < gain j (without current ranking) app := by
  induction ranking generalizing j k with
  | nil => simp at hmem
  | cons s ranking ih =>
    by_cases hs : s.app = current
    · have hne : s.app ≠ app := fun heq => happ (heq.symm.trans hs)
      have hskip : without current (s :: ranking) = without current ranking := by
        simp [without, hs]
      rw [hskip, gain, if_neg hne, zero_add]
      exact ih (by simpa [hne] using hmem) (by omega)
    · have hkeep : without current (s :: ranking) = s :: without current ranking := by
        simp [without, hs]
      rw [hkeep, gain, gain]
      by_cases heq : s.app = app
      · rw [if_pos heq, if_pos heq]
        exact add_lt_add_of_lt_of_le (add_lt_add_left (reciprocal_lt h) _)
          (gain_le_without happ ranking (by omega))
      · exact add_lt_add_of_le_of_lt (head_le s app h.le)
          (ih (by simpa [heq] using hmem) (by omega))

theorem exists_gain_lt {current : String} {ranking : List (AppScore F)}
    (h : ¬without current ranking <+: ranking) (k : Nat) :
    ∃ app ≠ current, gain k ranking app < gain k (without current ranking) app := by
  induction ranking generalizing k with
  | nil => exact absurd (List.prefix_refl _) h
  | cons s ranking ih =>
    by_cases hs : s.app = current
    · have hskip : without current (s :: ranking) = without current ranking := by
        simp [without, hs]
      rw [hskip] at h ⊢
      obtain ⟨t, ht⟩ := List.exists_mem_of_ne_nil (without current ranking)
        (fun hnil => h (hnil ▸ List.nil_prefix))
      have htcurrent : t.app ≠ current := by simpa using (List.mem_filter.mp ht).2
      have hne : s.app ≠ t.app := fun heq => htcurrent (heq.symm.trans hs)
      refine ⟨t.app, htcurrent, ?_⟩
      rw [gain, if_neg hne, zero_add]
      exact gain_lt_without htcurrent ⟨t, (List.mem_filter.mp ht).1, rfl⟩ (by omega)
    · have hkeep : without current (s :: ranking) = s :: without current ranking := by
        simp [without, hs]
      rw [hkeep] at h ⊢
      obtain ⟨app, happ, hlt⟩ := ih (fun hprefix => h ((List.prefix_cons_inj s).mpr hprefix))
        (k + 1)
      refine ⟨app, happ, ?_⟩
      rw [gain, gain]
      exact add_lt_add_right hlt _

omit [LinearOrder F] [IsStrictOrderedRing F] in
theorem gain_append (ranking rest : List (AppScore F)) (app : String) (k : Nat) :
    gain k (ranking ++ rest) app = gain k ranking app + gain (k + ranking.length) rest app := by
  induction ranking generalizing k with
  | nil => simp [gain]
  | cons s ranking ih =>
    have hlen : k + (s :: ranking).length = k + 1 + ranking.length := by
      rw [List.length_cons]
      omega
    rw [List.cons_append, gain, gain, ih, hlen]
    exact (add_assoc _ _ _).symm

omit [LinearOrder F] [IsStrictOrderedRing F] in
theorem gain_of_notMem {ranking : List (AppScore F)} {app : String}
    (h : ∀ s ∈ ranking, s.app ≠ app) (k : Nat) : gain k ranking app = 0 := by
  induction ranking generalizing k with
  | nil => rfl
  | cons s ranking ih =>
    rw [gain, if_neg (h s List.mem_cons_self), zero_add]
    exact ih (fun t ht => h t (List.mem_cons_of_mem _ ht)) (k + 1)

omit [LinearOrder F] [IsStrictOrderedRing F] in
theorem gain_without_eq {current app : String} (happ : app ≠ current)
    {ranking : List (AppScore F)} (h : without current ranking <+: ranking) :
    gain 0 (without current ranking) app = gain 0 ranking app := by
  obtain ⟨rest, hrest⟩ := h
  have hcurrent : ∀ s ∈ rest, s.app ≠ app := by
    have hfilter : without current (without current ranking ++ rest) = without current ranking := by
      rw [hrest]
    have hidem : without current (without current ranking) = without current ranking := by
      simp [without]
    rw [without, List.filter_append] at hfilter
    have hnil : without current rest = [] := by
      have hlen := congrArg List.length hfilter
      rw [List.length_append] at hlen
      change (without current (without current ranking)).length + _ = _ at hlen
      rw [hidem] at hlen
      exact List.eq_nil_of_length_eq_zero (by simpa [without] using hlen)
    intro s hs heq
    have hmem : s ∈ without current rest := by simp [without, hs, heq, happ]
    rw [hnil] at hmem
    exact List.not_mem_nil hmem
  conv_rhs => rw [← hrest, gain_append, gain_of_notMem hcurrent, add_zero]

/-! What the two fusions make of each app. -/

def allWithout (current : String) (weighted : List (F × List (AppScore F))) :
    List (F × List (AppScore F)) :=
  weighted.map fun x => (x.1, without current x.2)

omit [LinearOrder F] [IsStrictOrderedRing F] in
theorem named_allWithout {current app : String} (weighted : List (F × List (AppScore F))) :
    Named (allWithout current weighted) app ↔ app ≠ current ∧ Named weighted app := by
  constructor
  · rintro ⟨_, hmem, hweight, s, hs, rfl⟩
    obtain ⟨x, hx, rfl⟩ := List.mem_map.mp hmem
    obtain ⟨hs, hcurrent⟩ := List.mem_filter.mp hs
    exact ⟨by simpa using hcurrent, x, hx, hweight, s, hs, rfl⟩
  · rintro ⟨hcurrent, x, hx, hweight, s, hs, rfl⟩
    exact ⟨_, List.mem_map_of_mem hx, hweight, s,
      List.mem_filter.mpr ⟨hs, by simpa using hcurrent⟩, rfl⟩

theorem get_allWithout_current (current : String) (weighted : List (F × List (AppScore F))) :
    (fused (allWithout current weighted)).get current = none := by
  have hnot := mt (isSome_fused (allWithout current weighted) current).mp
    (fun h => (named_allWithout weighted).mp h |>.1 rfl)
  simpa using hnot

theorem get_fused_eq_iff {current app : String} (happ : app ≠ current)
    (weighted : List (F × List (AppScore F))) :
    (fused (allWithout current weighted)).get app = (fused weighted).get app ↔
      valueOf (fused (allWithout current weighted)) app = valueOf (fused weighted) app := by
  constructor
  · intro h
    rw [valueOf, valueOf, h]
  · intro h
    have hnamed : ((fused (allWithout current weighted)).get app).isSome ↔
        ((fused weighted).get app).isSome := by
      rw [isSome_fused, isSome_fused, named_allWithout, and_iff_right happ]
    cases hwithout : (fused (allWithout current weighted)).get app with
    | none =>
      rw [hwithout] at hnamed
      exact (Option.not_isSome_iff_eq_none.mp (by simpa using hnamed)).symm
    | some value =>
      rw [hwithout] at hnamed
      obtain ⟨value', hvalue'⟩ := Option.isSome_iff_exists.mp (by simpa using hnamed)
      rw [valueOf, valueOf, hwithout, hvalue'] at h
      rw [hvalue']
      exact congrArg some h

theorem get_fused_agree_iff (current : String) {weighted : List (F × List (AppScore F))}
    (hweights : ∀ x ∈ weighted, 0 ≤ x.1) :
    (∀ app ≠ current,
        (fused (allWithout current weighted)).get app = (fused weighted).get app) ↔
      Unshifted current weighted := by
  have hvalue : ∀ app, valueOf (fused (allWithout current weighted)) app =
      (weighted.map fun x => x.1 * gain 0 (without current x.2) app).sum := by
    intro app
    rw [valueOf_fused, allWithout, List.map_map]
    rfl
  constructor
  · intro hagree x hx hweight
    by_contra hshift
    obtain ⟨app, happ, hlt⟩ := exists_gain_lt hshift 0
    have hsum : (weighted.map fun x => x.1 * gain 0 x.2 app).sum <
        (weighted.map fun x => x.1 * gain 0 (without current x.2) app).sum := by
      refine List.sum_lt_sum _ _ (fun y hy => ?_) ⟨x, hx, ?_⟩
      · exact mul_le_mul_of_nonneg_left (gain_le_without happ y.2 le_rfl) (hweights y hy)
      · exact mul_lt_mul_of_pos_left hlt (lt_of_le_of_ne (hweights x hx) hweight.symm)
    have heq := (get_fused_eq_iff happ weighted).mp (hagree app happ)
    rw [hvalue, valueOf_fused] at heq
    exact hsum.ne' heq
  · intro hunshifted app happ
    rw [get_fused_eq_iff happ, hvalue, valueOf_fused]
    refine congrArg List.sum (List.map_congr_left fun x hx => ?_)
    by_cases hweight : x.1 = 0
    · rw [hweight, zero_mul, zero_mul]
    · rw [gain_without_eq happ (hunshifted x hx hweight)]

end

/-! The best app of each. -/

section
variable {F : Type} [LinearOrder F]

theorem topCmp_eq_gt {a b : String × F} :
    topCmp a b = .gt ↔ rankKey b.2 b.1 < rankKey a.2 a.1 := by
  rw [topCmp, partialCmp_eq_compare, rankKey, rankKey, Prod.Lex.toLex_lt_toLex]
  simp only [Option.getD_some]
  rcases lt_trichotomy a.2 b.2 with h | h | h
  · simp [compare_lt_iff_lt.mpr h, h.not_gt, h.ne']
  · rw [compare_eq_iff_eq.mpr h]
    change compare b.1 a.1 = .gt ↔ _
    rw [compare_gt_iff_gt]
    simp [h]
  · simp [compare_gt_iff_gt.mpr h, h]

theorem rankKey_le_of_maxBy {entries : List (String × F)} {top : String × F}
    (h : maxBy topCmp entries = some top) {x : String × F} (hx : x ∈ entries) :
    rankKey x.2 x.1 ≤ rankKey top.2 top.1 := by
  let key : String × F → F ×ₗ Stringᵒᵈ := fun x => rankKey x.2 x.1
  have hcmp : ∀ a b, topCmp a b = .gt ↔ key b < key a := fun _ _ => topCmp_eq_gt
  exact le_of_maxBy hcmp h x hx

theorem mem_serving {current : String} {combined : SortedMap String F} {s : AppScore F} :
    s ∈ filterCurrentApp (sortScores (scoresOf combined)) (some current) ↔
      combined.get s.app = some s.score ∧ s.app ≠ current := by
  have hscores : s ∈ scoresOf combined ↔ combined.get s.app = some s.score := by
    rw [SortedMap.get_eq_some_iff, scoresOf, List.mem_map]
    constructor
    · rintro ⟨x, hx, rfl⟩
      exact hx
    · exact fun hx => ⟨_, hx, rfl⟩
  rw [mem_filterCurrentApp, (perm_sortScores _).mem_iff, hscores, ne_eq, ne_eq,
    Option.some.injEq, eq_comm (a := current)]

theorem head_serving {current : String} {combined : SortedMap String F} {s : AppScore F}
    (hs : combined.get s.app = some s.score) (hcurrent : s.app ≠ current)
    (hmax : ∀ app ≠ current, ∀ score, combined.get app = some score →
      rankKey score app ≤ rankKey s.score s.app) :
    (filterCurrentApp (sortScores (scoresOf combined)) (some current)).head? = some s := by
  have hmem := mem_serving.mpr ⟨hs, hcurrent⟩
  have hsorted := (pairwise_sortScores (scoresOf combined)).sublist
    (filterCurrentApp_sublist _ (some current))
  cases hlist : filterCurrentApp (sortScores (scoresOf combined)) (some current) with
  | nil =>
    rw [hlist] at hmem
    exact absurd hmem List.not_mem_nil
  | cons first rest =>
    have hfirst := mem_serving.mp (hlist ▸ List.mem_cons_self (a := first) (l := rest))
    rw [hlist] at hmem hsorted
    rcases List.mem_cons.mp hmem with rfl | hrest
    · rfl
    · have hge := rankLe_iff.mp (List.rel_of_pairwise_cons hsorted hrest)
      have hle := hmax first.app hfirst.2 first.score hfirst.1
      obtain ⟨hscore, happ⟩ := rankKey_inj (le_antisymm hle hge)
      have heq : first = ⟨s.app, s.score⟩ := by rw [← hscore, ← happ]
      rw [List.head?_cons, heq]

theorem maxBy_entries {combined : SortedMap String F} {app : String} {score : F}
    (h : combined.get app = some score)
    (hmax : ∀ app' score', combined.get app' = some score' →
      rankKey score' app' ≤ rankKey score app) :
    maxBy topCmp combined.entries = some (app, score) := by
  have hmem := SortedMap.get_eq_some_iff.mp h
  cases htop : maxBy topCmp combined.entries with
  | none =>
    cases hentries : combined.entries with
    | nil =>
      rw [hentries] at hmem
      exact absurd hmem List.not_mem_nil
    | cons x l =>
      rw [hentries] at htop
      cases htop
  | some top =>
    have hle := rankKey_le_of_maxBy htop hmem
    have hge := hmax top.1 top.2 (SortedMap.get_of_mem (maxBy_mem htop))
    obtain ⟨hscore, happ⟩ := rankKey_inj (le_antisymm hge hle)
    exact congrArg some (Prod.ext happ hscore)

theorem head_of_maxBy {current : String} {combined combined' : SortedMap String F}
    (hagree : ∀ app ≠ current, combined'.get app = combined.get app)
    (hcurrent : combined'.get current = none) {top : String × F}
    (htop : maxBy topCmp combined'.entries = some top) :
    (filterCurrentApp (sortScores (scoresOf combined)) (some current)).head? =
      some ⟨top.1, top.2⟩ := by
  have hget := SortedMap.get_of_mem (maxBy_mem htop)
  have hne : top.1 ≠ current := fun heq => by simp [heq, hcurrent] at hget
  refine head_serving ((hagree _ hne).symm.trans hget) hne fun app happ score hscore => ?_
  exact rankKey_le_of_maxBy htop
    (SortedMap.get_eq_some_iff.mp ((hagree app happ).trans hscore))

end

end Dipecs.Agent.Predictive
