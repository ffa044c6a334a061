import Dipecs.Agent.Predictive.TrainedArtifacts

/-! The search for the weights of the combiner.  A coordinate is tried out in place, and the best
weight found for it is put back at the end; until then the hit rate kept as the best is that of
the weights with the best one put back. -/

namespace Dipecs.Agent.Predictive

open Dipecs.Library

section
variable {F : Type} [Add F] [Mul F] [Div F] [NatCast F] [OfScientific F] [LE F] [DecidableLE F]

/-- Where the search may stand between two coordinates, in whatever order it takes them. -/
inductive Reached (cached : List (CachedExample F)) : Ascent F → Prop
  | start (hit : ℚ) : weightedHitAt1 cached initialWeights = .ok hit →
      Reached cached ⟨initialWeights, hit, false⟩
  | sweep (s : Ascent F) : Reached cached s → Reached cached { s with improved := false }
  | coordinate (s s' : Ascent F) (c : Nat) : Reached cached s → ascendAt cached s c = .ok s' →
      Reached cached s'

/-- Where it may stand within a coordinate: after the first `k` weights of the grid. -/
structure Trying (cached : List (CachedExample F)) (c : Nat) (original : F) (k : Nat)
    (t : Ascent F × F) : Prop where
  reached : ∃ s, Reached cached s ∧ readAt s.weights c = .ok original ∧
    (weightGrid.take k).foldlM (tryWeight cached c original) (s, original) = .ok t

def heldWeights (c : Nat) (t : Ascent F × F) : List F := t.1.weights.set c t.2

/-- A weight was turned down, or it did strictly better than the weights held so far. -/
structure Judged (cached : List (CachedExample F)) (c : Nat) (candidate : F)
    (t t' : Ascent F × F) : Prop where
  before : weightedHitAt1 cached (heldWeights c t) = .ok t.1.bestHit
  after : weightedHitAt1 cached (heldWeights c t') = .ok t'.1.bestHit
  verdict : (heldWeights c t' = heldWeights c t ∧ t'.1.bestHit = t.1.bestHit) ∨
    (heldWeights c t' = (heldWeights c t).set c candidate ∧ t.1.bestHit < t'.1.bestHit)

variable {cached : List (CachedExample F)} {c : Nat} {original : F}

theorem judged_of_tryWeight {t t' : Ascent F × F} {candidate : F}
    (hheld : weightedHitAt1 cached (heldWeights c t) = .ok t.1.bestHit)
    (h : tryWeight cached c original t candidate = .ok t') : Judged cached c candidate t t' := by
  rw [tryWeight] at h
  split at h
  · obtain rfl := Except.ok.inj h
    exact ⟨hheld, hheld, .inl ⟨rfl, rfl⟩⟩
  obtain ⟨weights, hweights, h⟩ := bind_eq_ok_iff.mp h
  obtain ⟨hit, hhit, h⟩ := bind_eq_ok_iff.mp h
  obtain ⟨-, rfl⟩ := writeAt_eq_ok_iff.mp hweights
  split at h
  · rename_i hbetter
    obtain rfl := Except.ok.inj h
    refine ⟨hheld, ?_, .inr ⟨?_, hbetter⟩⟩
    · simpa only [heldWeights, List.set_set] using hhit
    · simp only [heldWeights, List.set_set]
  · obtain rfl := Except.ok.inj h
    refine ⟨hheld, ?_, .inl ⟨?_, rfl⟩⟩
    · simpa only [heldWeights, List.set_set] using hheld
    · simp only [heldWeights, List.set_set]

theorem Judged.le {t t' : Ascent F × F} {candidate : F} (h : Judged cached c candidate t t') :
    t.1.bestHit ≤ t'.1.bestHit :=
  h.verdict.elim (fun hsame => hsame.2.ge) fun hbetter => hbetter.2.le

structure Tracks (cached : List (CachedExample F)) (least : ℚ) (s : Ascent F) : Prop where
  tracked : weightedHitAt1 cached s.weights = .ok s.bestHit
  least_le : least ≤ s.bestHit

theorem tracks_along {least : ℚ} {s : Ascent F} (hs : Tracks cached least s)
    (hread : readAt s.weights c = .ok original) {candidates : List F} {t : Ascent F × F}
    (h : candidates.foldlM (tryWeight cached c original) (s, original) = .ok t) :
    weightedHitAt1 cached (heldWeights c t) = .ok t.1.bestHit ∧ least ≤ t.1.bestHit := by
  obtain ⟨hlt, horiginal⟩ := List.getElem?_eq_some_iff.mp (readAt_eq_ok_iff.mp hread)
  have hstart : heldWeights c (s, original) = s.weights := by
    rw [heldWeights, ← horiginal, List.set_getElem_self]
  refine foldlM_keeps (P := fun t : Ascent F × F =>
    weightedHitAt1 cached (heldWeights c t) = .ok t.1.bestHit ∧ least ≤ t.1.bestHit)
    (fun t ht candidate _ t' hstep => ?_) ⟨hstart ▸ hs.tracked, hs.least_le⟩ h
  have hjudged := judged_of_tryWeight ht.1 hstep
  exact ⟨hjudged.after, ht.2.trans hjudged.le⟩

theorem Tracks.ascendAt {least : ℚ} {s s' : Ascent F} (hs : Tracks cached least s)
    (h : ascendAt cached s c = .ok s') : Tracks cached least s' := by
  rw [Predictive.ascendAt] at h
  obtain ⟨original, hread, h⟩ := bind_eq_ok_iff.mp h
  obtain ⟨t, hgrid, h⟩ := bind_eq_ok_iff.mp h
  obtain ⟨hheld, hle⟩ := tracks_along hs hread hgrid
  obtain ⟨weights, hweights, h⟩ := bind_eq_ok_iff.mp h
  obtain ⟨-, rfl⟩ := writeAt_eq_ok_iff.mp hweights
  obtain rfl := Except.ok.inj h
  exact ⟨hheld, hle⟩

theorem Reached.tracks {least : ℚ} (hleast : weightedHitAt1 cached initialWeights = .ok least)
    {s : Ascent F} (h : Reached cached s) : Tracks cached least s := by
  induction h with
  | start hit hhit =>
    obtain rfl := Except.ok.inj (hleast.symm.trans hhit)
    exact ⟨hhit, le_rfl⟩
  | sweep s _ ih => exact ⟨ih.tracked, ih.least_le⟩
  | coordinate s s' c _ hascend ih => exact ih.ascendAt hascend

theorem Reached.sweeps {n : Nat} {s s' : Ascent F} (hs : Reached cached s)
    (h : sweeps cached n s = .ok s') : Reached cached s' := by
  induction n generalizing s with
  | zero => exact Except.ok.inj h ▸ hs
  | succ n ih =>
    rw [Predictive.sweeps] at h
    obtain ⟨s₁, hsweep, h⟩ := bind_eq_ok_iff.mp h
    have hs₁ : Reached cached s₁ := foldlM_keeps
      (fun s hs c _ s' hascend => .coordinate s s' c hs hascend) (.sweep s hs) hsweep
    split at h
    · exact ih hs₁ h
    · exact Except.ok.inj h ▸ hs₁

theorem Trying.judged {k : Nat} {t t' : Ascent F × F} {candidate : F} {least : ℚ}
    (hleast : weightedHitAt1 cached initialWeights = .ok least)
    (ht : Trying cached c original k t)
    (h : tryWeight cached c original t candidate = .ok t') : Judged cached c candidate t t' := by
  obtain ⟨s, hs, hread, hgrid⟩ := ht.reached
  exact judged_of_tryWeight (tracks_along (hs.tracks hleast) hread hgrid).1 h

variable [LT F] [DecidableLT F]

/-- The search ends in weights that do as well as it believes and no worse than those it began
with, it never takes a weight that does not do better, and a combiner with its weights passes
validation. -/
theorem fitRrfCombiner_ascends {m : ScoreMath F} (hfinite : FiniteWeights m)
    {cached : List (CachedExample F)} (hne : cached ≠ []) (hcached : ∀ x ∈ cached, CachedIn x) :
    ∃ initialHit s,
      weightedHitAt1 cached initialWeights = .ok initialHit ∧
      sweeps cached maxAscentSweeps ⟨initialWeights, initialHit, false⟩ = .ok s ∧
      fitRrfCombiner cached = .ok ⟨ensembleComponentNames, s.weights⟩ ∧
      weightedHitAt1 cached s.weights = .ok s.bestHit ∧ initialHit ≤ s.bestHit ∧
      Reached cached s ∧
      (∀ c original k t candidate t', Trying cached c original k t →
        weightGrid[k]? = some candidate → tryWeight cached c original t candidate = .ok t' →
        Judged cached c candidate t t') ∧
      (∀ weight ∈ s.weights, weight ∈ (initialWeights : List F) ∨ weight ∈ (weightGrid : List F)) ∧
      validateCombiner m ⟨ensembleComponentNames, s.weights⟩ = .ok () := by
  have hlen : (initialWeights : List F).length = ensembleComponentNames.length := rfl
  obtain ⟨initialHit, hinitial⟩ := weightedHitAt1_eq_ok hcached hlen
  obtain ⟨s, hs, hin⟩ := sweeps_eq_ok hcached maxAscentSweeps
    (s := ⟨initialWeights, initialHit, false⟩) ⟨hlen, fun w hw => List.mem_append_left _ hw⟩
  have hreached := (Reached.start initialHit hinitial).sweeps hs
  have htracks := hreached.tracks hinitial
  have hfit : fitRrfCombiner cached = .ok ⟨ensembleComponentNames, s.weights⟩ := by
    rw [fitRrfCombiner, if_neg (by simpa using hne), hinitial, ok_bind, hs]
    rfl
  obtain ⟨combiner, hcombiner, haccepted, -⟩ := fitRrfCombiner_eq_ok hfinite hcached
  obtain rfl := Except.ok.inj (hfit.symm.trans hcombiner)
  exact ⟨initialHit, s, hinitial, hs, hfit, htracks.tracked, htracks.least_le, hreached,
    fun _ _ _ _ _ _ htrying _ htry => htrying.judged hinitial htry,
    fun weight hweight => List.mem_append.mp (hin.given weight hweight),
    validateCombiner_eq_ok.mpr haccepted⟩

end

/-- Two held-out examples: the order-2 chain, which is trusted most at first, is wrong about the
first of them. -/
def heldOutExamples : List (CachedExample ℚ) :=
  [⟨"mail", [[], [⟨"chat", 2⟩, ⟨"mail", 1⟩], [], [], [], [], [], [], [⟨"mail", 1⟩]], .empty⟩,
    ⟨"maps", [[⟨"maps", 1⟩], [], [], [], [], [], [], [], [⟨"mail", 1⟩, ⟨"maps", 1⟩]], .empty⟩]

theorem finiteWeights_ratMath : FiniteWeights ratMath := by
  unfold FiniteWeights
  decide +kernel

theorem fitRrfCombiner_ascends_heldOut :
    (∃ initialHit s,
      weightedHitAt1 heldOutExamples initialWeights = .ok initialHit ∧
      sweeps heldOutExamples maxAscentSweeps ⟨initialWeights, initialHit, false⟩ = .ok s ∧
      fitRrfCombiner heldOutExamples = .ok ⟨ensembleComponentNames, s.weights⟩ ∧
      weightedHitAt1 heldOutExamples s.weights = .ok s.bestHit ∧ initialHit ≤ s.bestHit ∧
      Reached heldOutExamples s ∧
      (∀ c original k t candidate t', Trying heldOutExamples c original k t →
        weightGrid[k]? = some candidate →
        tryWeight heldOutExamples c original t candidate = .ok t' →
        Judged heldOutExamples c candidate t t') ∧
      (∀ weight ∈ s.weights, weight ∈ (initialWeights : List ℚ) ∨ weight ∈ (weightGrid : List ℚ)) ∧
      validateCombiner ratMath ⟨ensembleComponentNames, s.weights⟩ = .ok ()) ∧
    weightedHitAt1 heldOutExamples initialWeights = .ok (1 / 2) ∧
    weightedHitAt1 heldOutExamples ([0.6, 0.0] ++ initialWeights.drop 2) = .ok 1 ∧
    (fitRrfCombiner heldOutExamples).map EnsembleCombiner.weights =
      .ok ([0.6, 0.0] ++ initialWeights.drop 2) :=
  ⟨fitRrfCombiner_ascends finiteWeights_ratMath (List.cons_ne_nil _ _) fun x hx => by
    fin_cases hx <;> exact ⟨rfl, fun y hy => absurd hy List.not_mem_nil⟩,
    by decide +kernel, by decide +kernel, by decide +kernel⟩

end Dipecs.Agent.Predictive
