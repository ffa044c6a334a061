import Dipecs.Agent.LocalEvaluator
import Mathlib.Data.Finset.Card
import Mathlib.Order.Bounds.Basic

/-! The selection of candidates: what it keeps of the candidates that survive the filter. -/

namespace Dipecs.Agent.LocalEvaluator

open Dipecs.Spec Dipecs.Core Dipecs.Library

section
variable {F : Type} [LinearOrder F]

def survivors (candidates : List (IntentCandidate F)) (signals : WindowSignals) :
    List (IntentCandidate F) :=
  (candidates.map (filterActions signals)).filter fun c => !c.actions.isEmpty

def Precedes (a b : IntentCandidate F) : Prop :=
  b.confidence < a.confidence ∨
    a.confidence = b.confidence ∧ candidateKey a < candidateKey b

def keySet (l : List (IntentCandidate F)) : Finset String := (l.map candidateKey).toFinset

/-- A ranking of the best keys, each with the best confidence and all tags of its group. -/
structure Selects (group : List (IntentCandidate F)) (maxIntents : Nat)
    (chosen : List (IntentCandidate F)) : Prop where
  length_eq : chosen.length = min maxIntents (keySet group).card
  keys_nodup : (chosen.map candidateKey).Nodup
  ranked : chosen.Pairwise Precedes
  greatest : ∀ i ∈ chosen,
    IsGreatest {f | ∃ c ∈ group, candidateKey c = candidateKey i ∧ c.confidence = f} i.confidence
  tags : ∀ i ∈ chosen, ∀ tag,
    tag ∈ i.tags ↔ ∃ c ∈ group, candidateKey c = candidateKey i ∧ tag ∈ c.tags
  leftOut : ∀ c ∈ group, candidateKey c ∉ chosen.map candidateKey → ∀ i ∈ chosen, Precedes i c

structure Merged (group : List (IntentCandidate F)) (x : IntentCandidate F) : Prop where
  member : ∃ c ∈ group, { c with tags := x.tags } = x
  le : ∀ c ∈ group, c.confidence ≤ x.confidence
  tags : ∀ tag, tag ∈ x.tags ↔ ∃ c ∈ group, tag ∈ c.tags

theorem mem_mergeTags {target source : List String} {tag : String} :
    tag ∈ mergeTags target source ↔ tag ∈ target ∨ tag ∈ source := by
  induction source generalizing target with
  | nil => simp [mergeTags]
  | cons t source ih =>
    rw [mergeTags, List.foldl_cons, ← mergeTags, ih, ContextBuilder.pushNew]
    split
    · rename_i hmem
      by_cases htag : tag = t
      · simp [htag, hmem]
      · simp [htag]
    · simp [or_assoc]

theorem Merged.single (c : IntentCandidate F) : Merged [c] c where
  member := ⟨c, List.mem_singleton_self c, rfl⟩
  le a ha := (List.mem_singleton.mp ha) ▸ le_refl c.confidence
  tags tag := by simp

theorem Merged.snoc {group : List (IntentCandidate F)} {x : IntentCandidate F}
    (h : Merged group x) (c : IntentCandidate F) :
    Merged (group ++ [c]) (mergeCandidates x c) := by
  unfold mergeCandidates
  split
  · rename_i hge
    refine ⟨?_, fun a ha => ?_, fun tag => ?_⟩
    · obtain ⟨b, hb, hbx⟩ := h.member
      refine ⟨b, List.mem_append_left _ hb, ?_⟩
      rw [← hbx]
    · rcases List.mem_append.mp ha with ha | ha
      · exact h.le a ha
      · exact List.mem_singleton.mp ha ▸ hge
    · simp only [mem_mergeTags, h.tags, List.mem_append, List.mem_singleton]
      constructor
      · rintro (⟨a, ha, hat⟩ | hc)
        · exact ⟨a, .inl ha, hat⟩
        · exact ⟨c, .inr rfl, hc⟩
      · rintro ⟨a, ha | rfl, hat⟩
        · exact .inl ⟨a, ha, hat⟩
        · exact .inr hat
  · rename_i hlt
    refine ⟨⟨c, by simp, rfl⟩, fun a ha => ?_, fun tag => ?_⟩
    · rcases List.mem_append.mp ha with ha | ha
      · exact (h.le a ha).trans (not_le.mp hlt).le
      · exact List.mem_singleton.mp ha ▸ le_rfl
    · simp only [mem_mergeTags, h.tags, List.mem_append, List.mem_singleton]
      constructor
      · rintro (hc | ⟨a, ha, hat⟩)
        · exact ⟨c, .inr rfl, hc⟩
        · exact ⟨a, .inl ha, hat⟩
      · rintro ⟨a, ha | rfl, hat⟩
        · exact .inr ⟨a, ha, hat⟩
        · exact .inl hat

theorem dedup_merged (candidates : List (IntentCandidate F)) :
    ∀ x ∈ dedup candidates,
      Merged (candidates.filter fun c => candidateKey c = candidateKey x) x := by
  rw [dedup_eq]
  exact mergeByKey_group mergeCandidates_keepsKey Merged.single
    (fun _ _ c _ h => h.snoc c) candidates

theorem keySet_dedup (candidates : List (IntentCandidate F)) :
    keySet (dedup candidates) = keySet candidates := by
  ext k
  simp only [keySet, List.mem_toFinset, dedup_eq, mem_keys_mergeByKey mergeCandidates_keepsKey]

theorem length_dedup (candidates : List (IntentCandidate F)) :
    (dedup candidates).length = (keySet candidates).card := by
  rw [← keySet_dedup, keySet, List.toFinset_card_of_nodup (keys_dedup_nodup _), List.length_map]

theorem finalizeCandidates_id (candidates : List (IntentCandidate F)) (signals : WindowSignals)
    (maxIntents : Nat) :
    finalizeCandidates .id candidates signals maxIntents =
      ((dedup (survivors candidates signals)).mergeSort candidateLe).take maxIntents := rfl

theorem precedes_of_candidateLe {a b : IntentCandidate F} (h : candidateLe a b = true)
    (hkey : candidateKey a ≠ candidateKey b) : Precedes a b := by
  simp only [candidateLe, decide_eq_true_eq, not_lt] at h
  rcases h with h | ⟨h, hle⟩
  · exact .inl h
  · rcases h.lt_or_eq with hlt | heq
    · exact .inl hlt
    · exact .inr ⟨heq.symm, lt_of_le_of_ne hle hkey⟩

theorem Precedes.of_le {a b c : IntentCandidate F} (h : Precedes a b)
    (hkey : candidateKey b = candidateKey c) (hle : c.confidence ≤ b.confidence) :
    Precedes a c := by
  rcases h with h | ⟨h, hlt⟩
  · exact .inl (hle.trans_lt h)
  · rcases hle.lt_or_eq with hlt' | heq
    · exact .inl (h ▸ hlt')
    · exact .inr ⟨h.trans heq.symm, hkey ▸ hlt⟩

theorem mem_of_mem_finalizeCandidates {candidates : List (IntentCandidate F)}
    {signals : WindowSignals} {maxIntents : Nat} {x : IntentCandidate F}
    (hx : x ∈ finalizeCandidates .id candidates signals maxIntents) :
    x ∈ dedup (survivors candidates signals) := by
  rw [finalizeCandidates_id] at hx
  exact List.mem_mergeSort.mp (List.mem_of_mem_take hx)

theorem finalizeCandidates_selects (candidates : List (IntentCandidate F))
    (signals : WindowSignals) (maxIntents : Nat) :
    Selects (survivors candidates signals) maxIntents
      (finalizeCandidates .id candidates signals maxIntents) := by
  have hnodup := keys_dedup_nodup (survivors candidates signals)
  have hperm := ((dedup (survivors candidates signals)).mergeSort_perm candidateLe).map
    candidateKey
  have hkeys : ((finalizeCandidates .id candidates signals maxIntents).map candidateKey).Nodup := by
    rw [finalizeCandidates_id, List.map_take]
    exact (hperm.nodup_iff.mpr hnodup).sublist (List.take_sublist _ _)
  refine ⟨?_, hkeys, ?_, ?_, ?_, ?_⟩
  · rw [finalizeCandidates_id, List.length_take, List.length_mergeSort, length_dedup]
  · have hsorted : (finalizeCandidates .id candidates signals maxIntents).Pairwise
        fun a b => candidateLe a b = true := by
      rw [finalizeCandidates_id]
      exact (List.pairwise_mergeSort candidateLe_trans candidateLe_total _).sublist
        (List.take_sublist _ _)
    exact (hsorted.and (List.pairwise_map.mp hkeys)).imp fun h => precedes_of_candidateLe h.1 h.2
  · intro i hi
    have hmerged := dedup_merged _ i (mem_of_mem_finalizeCandidates hi)
    constructor
    · obtain ⟨c, hc, hci⟩ := hmerged.member
      rw [List.mem_filter, decide_eq_true_eq] at hc
      exact ⟨c, hc.1, hc.2, by rw [← hci]⟩
    · rintro _ ⟨c, hc, hkey, rfl⟩
      exact hmerged.le c (List.mem_filter.mpr ⟨hc, decide_eq_true hkey⟩)
  · intro i hi tag
    rw [(dedup_merged _ i (mem_of_mem_finalizeCandidates hi)).tags]
    simp only [List.mem_filter, decide_eq_true_eq, and_assoc]
  · intro c hc hout i hi
    -- the entry with the key of `c` is left out with it
    obtain ⟨x, hx, hkey⟩ : ∃ x ∈ dedup (survivors candidates signals),
        candidateKey x = candidateKey c := by
      have hmem : candidateKey c ∈ keySet (dedup (survivors candidates signals)) := by
        rw [keySet_dedup]
        exact List.mem_toFinset.mpr (List.mem_map_of_mem hc)
      exact List.mem_map.mp (List.mem_toFinset.mp hmem)
    have hxout : x ∉ finalizeCandidates .id candidates signals maxIntents := fun h =>
      hout (hkey ▸ List.mem_map_of_mem h)
    have hle := le_of_mem_take_mergeSort candidateLe_trans candidateLe_total hi hx hxout
    have hne : candidateKey i ≠ candidateKey x := fun h =>
      hout (List.mem_map.mpr ⟨i, hi, h.trans hkey⟩)
    refine (precedes_of_candidateLe hle hne).of_le hkey ?_
    exact (dedup_merged _ x hx).le c (List.mem_filter.mpr ⟨hc, decide_eq_true hkey.symm⟩)

omit [LinearOrder F] in
theorem actions_of_mem_survivors {candidates : List (IntentCandidate F)} {signals : WindowSignals}
    {c : IntentCandidate F} (hc : c ∈ survivors candidates signals) :
    c.actions ≠ [] ∧ ∀ action ∈ c.actions, isPolicyAwareAction action signals = true := by
  obtain ⟨hmem, hne⟩ := List.mem_filter.mp hc
  obtain ⟨c, -, rfl⟩ := List.mem_map.mp hmem
  exact ⟨by simpa using hne, fun action haction => (List.mem_filter.mp haction).2⟩

theorem actions_of_mem_finalizeCandidates {candidates : List (IntentCandidate F)}
    {signals : WindowSignals} {maxIntents : Nat} {i : IntentCandidate F}
    (hi : i ∈ finalizeCandidates .id candidates signals maxIntents) :
    i.actions ≠ [] ∧ ∀ action ∈ i.actions, isPolicyAwareAction action signals = true := by
  obtain ⟨c, hc, hci⟩ := (dedup_merged _ i (mem_of_mem_finalizeCandidates hi)).member
  have hactions : i.actions = c.actions := by rw [← hci]
  rw [hactions]
  exact actions_of_mem_survivors (List.mem_filter.mp hc).1

/-- Every order of the map gives one and the same selection. -/
theorem finalizeCandidates_spec (order : Reordering (IntentCandidate F))
    (candidates : List (IntentCandidate F)) (signals : WindowSignals) (maxIntents : Nat) :
    Selects (survivors candidates signals) maxIntents
        (finalizeCandidates order candidates signals maxIntents) ∧
      (∀ i ∈ finalizeCandidates order candidates signals maxIntents,
        i.actions ≠ [] ∧ ∀ action ∈ i.actions, isPolicyAwareAction action signals = true) ∧
      ∀ order', finalizeCandidates order' candidates signals maxIntents =
        finalizeCandidates order candidates signals maxIntents := by
  rw [finalizeCandidates_order order]
  exact ⟨finalizeCandidates_selects candidates signals maxIntents,
    fun i => actions_of_mem_finalizeCandidates,
    fun order' => finalizeCandidates_order order' candidates signals maxIntents⟩

end

end Dipecs.Agent.LocalEvaluator
