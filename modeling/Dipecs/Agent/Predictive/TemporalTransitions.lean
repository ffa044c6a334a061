import Dipecs.Agent.Predictive.TrainedArtifacts
import Dipecs.Library.Framing
import Mathlib.Algebra.BigOperators.Group.List.Lemmas
import Mathlib.Data.List.Induction
import Mathlib.Tactic.FieldSimp

/-! The temporal transitions against the conditional distributions they are looked up for. -/

namespace Dipecs.Agent.Predictive

open Dipecs.Library

/-! An app and a number make one key, and are read back from it. -/

theorem toList_toString (n : UInt8) : (toString n).toList = Nat.toDigits 10 n.toNat := by
  change (Nat.repr n.toNat).toList = _
  simp [Nat.repr]

theorem tab_notMem_toString (n : UInt8) : '\t' ∉ (toString n).toList := by
  intro h
  rw [toList_toString] at h
  have hdigit := Nat.isDigit_of_mem_toDigits (by decide) (by decide) h
  exact absurd hdigit (by decide)

theorem contextKey_inj {current current' : String} {n n' : UInt8} :
    contextKey current n = contextKey current' n' ↔ current = current' ∧ n = n' := by
  constructor
  · intro h
    have hsplit := Text.rsplitOnce_append (s := current) (tab_notMem_toString n)
    have hsplit' := Text.rsplitOnce_append (s := current') (tab_notMem_toString n')
    change Text.rsplitOnce '\t' (contextKey current n) = _ at hsplit
    rw [h] at hsplit
    obtain ⟨hcurrent, hn⟩ := Prod.mk.inj (Option.some.inj (hsplit.symm.trans hsplit'))
    have hdigits := congrArg String.toList hn
    rw [toList_toString, toList_toString] at hdigits
    exact ⟨hcurrent, UInt8.toNat_inj.mp (Framing.toDigits_injective hdigits)⟩
  · rintro ⟨rfl, rfl⟩
    rfl

/-- What is counted of an example, under each of its two keys. -/
def temporalKeys (e : NextAppTrainingExample) : List (String × String) :=
  [(contextKey e.currentApp e.hourBucket, e.labelApp),
    (contextKey e.currentApp e.weekday, e.labelApp)]

def countPair (transitions : Transitions) (pair : String × String) : Transitions :=
  addTransition transitions pair.1 pair.2

theorem temporalTransitions_addExample {appIndex : SortedMap String Nat} {classes : Nat}
    {s s' : TrainingCounts} {e : NextAppTrainingExample}
    (h : addExample appIndex classes s e = .ok s') :
    s'.temporalTransitions = (temporalKeys e).foldl countPair s.temporalTransitions := by
  unfold addExample at h
  split at h
  · cases h
  · obtain ⟨classCounts, -, h⟩ := bind_eq_ok_iff.mp h
    obtain ⟨featureCounts, -, h⟩ := bind_eq_ok_iff.mp h
    cases h
    rfl

theorem temporalTransitions_countExamples {appVocab : List String}
    {examples : List NextAppTrainingExample} {s : TrainingCounts}
    (h : countExamples appVocab examples = .ok s) :
    s.temporalTransitions = (examples.flatMap temporalKeys).foldl countPair .empty := by
  have hfold : ∀ (examples : List NextAppTrainingExample) (s s' : TrainingCounts),
      examples.foldlM (addExample (appIndexOf appVocab) appVocab.length) s = .ok s' →
      s'.temporalTransitions =
        (examples.flatMap temporalKeys).foldl countPair s.temporalTransitions := by
    intro examples
    induction examples with
    | nil =>
      intro s s' h
      cases h
      rfl
    | cons e examples ih =>
      intro s s' h
      rw [List.foldlM_cons] at h
      obtain ⟨mid, hmid, h⟩ := bind_eq_ok_iff.mp h
      rw [ih mid s' h, temporalTransitions_addExample hmid, List.flatMap_cons, List.foldl_append]
  exact hfold examples _ s h

def labelsUnder (key : String) (pairs : List (String × String)) : List String :=
  (pairs.filter (·.1 = key)).map Prod.snd

theorem get_foldl_countPair (pairs : List (String × String)) (key : String) :
    (pairs.foldl countPair .empty).get key =
      if labelsUnder key pairs = [] then none
      else some (SortedMap.tally (labelsUnder key pairs)) := by
  induction pairs using List.reverseRecOn with
  | nil => rfl
  | append_singleton pairs pair ih =>
    rw [List.foldl_append, List.foldl_cons, List.foldl_nil, countPair, addTransition,
      SortedMap.get_upsert]
    by_cases hkey : key = pair.1
    · have hlabels : labelsUnder key (pairs ++ [pair]) = labelsUnder key pairs ++ [pair.2] := by
        simp [labelsUnder, hkey]
      rw [if_pos hkey, ← hkey, ih, hlabels, if_neg (List.concat_ne_nil _ _), SortedMap.tally_concat]
      split
      · rename_i hnil
        rw [hnil]
        rfl
      · rfl
    · have hlabels : labelsUnder key (pairs ++ [pair]) = labelsUnder key pairs := by
        simp [labelsUnder, Ne.symm hkey]
      rw [if_neg hkey, hlabels, ih]

section
variable {F : Type} [Field F] [LinearOrder F] [IsStrictOrderedRing F]

def shares (labels : List String) : List (AppScore F) :=
  (SortedMap.setOf labels).map fun app => ⟨app, (labels.count app : F) / (labels.length : F)⟩

/-- The empirical distribution of a list of labels. -/
def empirical (labels : List String) : List (AppScore F) := sortScores (shares labels)

def conditional (labels : List String) : Option (List (AppScore F)) :=
  if labels = [] then none else some (empirical labels)

theorem sum_map_count_setOf (labels : List String) :
    ((SortedMap.setOf labels).map fun app => labels.count app).sum = labels.length := by
  have hperm : (SortedMap.setOf labels).Perm labels.dedup :=
    (List.perm_ext_iff_of_nodup (SortedMap.nodup_setOf labels) labels.nodup_dedup).mpr fun app => by
      rw [SortedMap.mem_setOf, List.mem_dedup]
  rw [(hperm.map _).sum_eq]
  exact List.sum_map_count_dedup_eq_length labels

theorem sum32_tally (labels : List String) :
    sum32 ((SortedMap.tally labels).entries.map Prod.snd) = UInt32.ofNat labels.length := by
  have hcounts : (SortedMap.tally labels).entries.map Prod.snd =
      ((SortedMap.setOf labels).map fun app => labels.count app).map UInt32.ofNat := by
    rw [SortedMap.entries_tally, List.map_map, List.map_map]
    rfl
  rw [hcounts, sum32_map_ofNat, sum_map_count_setOf]

omit [LinearOrder F] [IsStrictOrderedRing F] in
theorem transitionScore_ofNat {total count : Nat} (hpos : 0 < total) (hle : count ≤ total)
    (hbound : total < 2 ^ 32) :
    transitionScore (UInt32.ofNat total) (UInt32.ofNat count) = (count : F) / (total : F) := by
  have htotal : (UInt32.ofNat total).toNat = total := UInt32.toNat_ofNat_of_lt' hbound
  have hcount : (UInt32.ofNat count).toNat = count :=
    UInt32.toNat_ofNat_of_lt' (Nat.lt_of_le_of_lt hle hbound)
  have hone : (1 : UInt32) ≤ UInt32.ofNat total := by
    rw [UInt32.le_iff_toNat_le, htotal]
    exact hpos
  have hmax : max (UInt32.ofNat total) 1 = UInt32.ofNat total :=
    ite_eq_right_iff.mpr fun hle => UInt32.le_antisymm hone hle
  rw [transitionScore, hmax, htotal, hcount]

omit [IsStrictOrderedRing F] in
theorem distribution_tally {labels : List String} (h : labels ≠ [])
    (hbound : labels.length < 2 ^ 32) :
    distribution (SortedMap.tally labels) = empirical (F := F) labels := by
  rw [distribution, sum32_tally, SortedMap.entries_tally, List.map_map, empirical, shares]
  refine congrArg sortScores (List.map_congr_left fun app _ => ?_)
  exact congrArg (AppScore.mk app)
    (transitionScore_ofNat (List.length_pos_of_ne_nil h) List.count_le_length hbound)

omit [IsStrictOrderedRing F] in
theorem get_transitionScores (pairs : List (String × String)) {key : String}
    (hbound : (labelsUnder key pairs).length < 2 ^ 32) :
    (transitionScores (pairs.foldl countPair .empty)).get key =
      conditional (F := F) (labelsUnder key pairs) := by
  rw [transitionScores, SortedMap.get_map, get_foldl_countPair, conditional]
  split
  · rfl
  · rename_i hne
    rw [Option.map_some, distribution_tally hne hbound]

theorem share_eq_iff {labels labels' : List String} (h : labels ≠ []) (h' : labels' ≠ [])
    (app : String) :
    (labels.count app : F) / (labels.length : F) = (labels'.count app : F) / (labels'.length : F) ↔
      labels.count app * labels'.length = labels'.count app * labels.length := by
  have hpos : (labels.length : F) ≠ 0 := by simpa using h
  have hpos' : (labels'.length : F) ≠ 0 := by simpa using h'
  rw [div_eq_div_iff hpos hpos']
  exact_mod_cast Iff.rfl

omit [IsStrictOrderedRing F] in
theorem share_eq_of_empirical_eq {labels labels' : List String}
    (h : empirical (F := F) labels = empirical labels') {app : String} (happ : app ∈ labels) :
    (labels.count app : F) / (labels.length : F) =
      (labels'.count app : F) / (labels'.length : F) := by
  have hsorted : (empirical labels).Perm (shares (F := F) labels') := h ▸ perm_sortScores _
  have hperm := (perm_sortScores (shares (F := F) labels)).symm.trans hsorted
  have hmem := hperm.subset (List.mem_map_of_mem (SortedMap.mem_setOf.mpr happ))
  obtain ⟨app', -, heq⟩ := List.mem_map.mp hmem
  obtain ⟨rfl, hshare⟩ := AppScore.mk.inj heq
  exact hshare.symm

theorem empirical_eq_iff {labels labels' : List String} (h : labels ≠ []) (h' : labels' ≠ []) :
    empirical (F := F) labels = empirical labels' ↔
      ∀ app, labels.count app * labels'.length = labels'.count app * labels.length := by
  have hpos := List.length_pos_of_ne_nil h
  have hpos' := List.length_pos_of_ne_nil h'
  constructor
  · intro heq app
    by_cases happ : app ∈ labels
    · exact (share_eq_iff h h' app).mp (share_eq_of_empirical_eq heq happ)
    · by_cases happ' : app ∈ labels'
      · exact ((share_eq_iff h' h app).mp (share_eq_of_empirical_eq heq.symm happ')).symm
      · rw [List.count_eq_zero_of_not_mem happ, List.count_eq_zero_of_not_mem happ']
        simp
  · intro hshare
    have hmem : ∀ app, app ∈ labels ↔ app ∈ labels' := by
      intro app
      have heq := hshare app
      rw [← List.count_pos_iff, ← List.count_pos_iff]
      constructor
      · intro hcount
        exact Nat.pos_of_mul_pos_right (heq ▸ Nat.mul_pos hcount hpos')
      · intro hcount
        exact Nat.pos_of_mul_pos_right (heq ▸ Nat.mul_pos hcount hpos)
    rw [empirical, empirical, shares, shares, SortedMap.setOf_congr hmem]
    refine congrArg sortScores (List.map_congr_left fun app _ => ?_)
    rw [(share_eq_iff h h' app).mpr (hshare app)]

def labelsAtHour (examples : List NextAppTrainingExample) (current : String) (hour : UInt8) :
    List String :=
  (examples.filter fun e => e.currentApp = current ∧ e.hourBucket = hour).map
    NextAppTrainingExample.labelApp

def labelsOnWeekday (examples : List NextAppTrainingExample) (current : String)
    (weekday : UInt8) : List String :=
  (examples.filter fun e => e.currentApp = current ∧ e.weekday = weekday).map
    NextAppTrainingExample.labelApp

theorem map_filter_cons {α β : Type} (p : α → Bool) (f : α → β) (a : α) (l : List α) :
    ((a :: l).filter p).map f = (if p a then [f a] else []) ++ (l.filter p).map f := by
  rw [List.filter_cons]
  split <;> rfl

theorem perm_labelsUnder (examples : List NextAppTrainingExample) (current : String) (n : UInt8) :
    (labelsUnder (contextKey current n) (examples.flatMap temporalKeys)).Perm
      (labelsAtHour examples current n ++ labelsOnWeekday examples current n) := by
  rw [List.perm_iff_count]
  intro label
  induction examples with
  | nil => rfl
  | cons e examples ih =>
    simp only [labelsUnder, labelsAtHour, labelsOnWeekday, List.count_append] at ih ⊢
    rw [List.flatMap_cons, temporalKeys, List.cons_append, List.cons_append, List.nil_append]
    simp only [map_filter_cons, contextKey_inj, List.count_append, ih]
    omega

/-- No label that shares the key with `own` changes a share. -/
def Unmixed (own other : List String) : Prop :=
  other = [] ∨ own ≠ [] ∧ ∀ app, own.count app * other.length = other.count app * own.length

theorem conditional_eq_iff {own other both : List String} (h : both.Perm (own ++ other)) :
    conditional (F := F) both = conditional own ↔ Unmixed own other := by
  have hcount : ∀ app, both.count app = own.count app + other.count app := fun app => by
    rw [h.count_eq, List.count_append]
  have hlength : both.length = own.length + other.length := by
    rw [h.length_eq, List.length_append]
  by_cases hown : own = []
  · subst hown
    simp only [conditional, Unmixed, if_true, ne_eq, not_true_eq_false, false_and, or_false,
      ite_eq_left_iff, reduceCtorEq, imp_false, Decidable.not_not]
    rw [← List.length_eq_zero_iff, hlength, List.length_nil, Nat.zero_add,
      List.length_eq_zero_iff]
  · have hboth : both ≠ [] := by
      intro hnil
      rw [hnil] at h
      exact hown (List.append_eq_nil_iff.mp h.nil_eq.symm).1
    rw [conditional, conditional, if_neg hboth, if_neg hown, Option.some.injEq,
      empirical_eq_iff hboth hown]
    simp only [hcount, hlength, Nat.add_mul, Nat.mul_add, Nat.add_left_cancel_iff, Unmixed]
    constructor
    · intro hshare
      exact .inr ⟨hown, fun app => (hshare app).symm⟩
    · rintro (rfl | ⟨-, hshare⟩) app
      · simp
      · exact (hshare app).symm

omit [IsStrictOrderedRing F] in
theorem trainBaseArtifact_markovContext {m : ScoreMath F} {datasetId : String}
    {config : NextAppModelConfig} {examples : List NextAppTrainingExample}
    {a : NextAppModelArtifact F} (h : trainBaseArtifact m datasetId config examples = .ok a) :
    a.markovContext =
      transitionScores ((examples.flatMap temporalKeys).foldl countPair .empty) := by
  unfold trainBaseArtifact at h
  split at h
  · cases h
  · obtain ⟨s, hs, h⟩ := bind_eq_ok_iff.mp h
    obtain ⟨probs, -, h⟩ := bind_eq_ok_iff.mp h
    obtain ⟨trees, -, h⟩ := bind_eq_ok_iff.mp h
    cases h
    rw [temporalTransitions_countExamples hs]

omit [IsStrictOrderedRing F] in
theorem get_markovContext {m : ScoreMath F} {datasetId : String} {config : NextAppModelConfig}
    {examples : List NextAppTrainingExample} {a : NextAppModelArtifact F}
    (h : trainBaseArtifact m datasetId config examples = .ok a) {key : String}
    (hbound : (labelsUnder key (examples.flatMap temporalKeys)).length < 2 ^ 32) :
    a.markovContext.get key = conditional (labelsUnder key (examples.flatMap temporalKeys)) := by
  rw [trainBaseArtifact_markovContext h, get_transitionScores _ hbound]

/-- As long as no counter wraps, the entry for an hour or a weekday is the distribution of its own
examples just when the examples under the same number leave the shares as they are. -/
theorem markovContext_iff {m : ScoreMath F} {datasetId : String} {config : NextAppModelConfig}
    {examples : List NextAppTrainingExample} {a : NextAppModelArtifact F}
    (h : trainBaseArtifact m datasetId config examples = .ok a) (current : String) (n : UInt8)
    (hbound : (labelsAtHour examples current n).length +
      (labelsOnWeekday examples current n).length < 2 ^ 32) :
    (a.markovContext.get (contextKey current n) = conditional (labelsAtHour examples current n) ↔
      Unmixed (labelsAtHour examples current n) (labelsOnWeekday examples current n)) ∧
    (a.markovContext.get (contextKey current n) =
        conditional (labelsOnWeekday examples current n) ↔
      Unmixed (labelsOnWeekday examples current n) (labelsAtHour examples current n)) := by
  have hperm := perm_labelsUnder examples current n
  rw [get_markovContext h (by rwa [hperm.length_eq, List.length_append])]
  exact ⟨conditional_eq_iff hperm, conditional_eq_iff (hperm.trans List.perm_append_comm)⟩

end

/-- At three o'clock the chat is followed by mail, on the third weekday at nine by maps. -/
def collidingExamples : List NextAppTrainingExample :=
  [⟨"u", "chat", [], 3, 5, "app_transition", "mail"⟩,
   ⟨"u", "chat", [], 9, 3, "app_transition", "maps"⟩]

theorem train_collidingExamples :
    ∃ a, trainBaseArtifact realMath "colliding" {} collidingExamples = .ok a := by
  have hne : collidingExamples ≠ [] := by simp [collidingExamples]
  have htab : ∀ e ∈ collidingExamples, '\t' ∉ e.currentApp.toList := by simp [collidingExamples]
  obtain ⟨a, ha, -⟩ := trainBaseArtifact_eq_ok realMath "colliding" {} hne htab
  exact ⟨a, ha⟩

theorem markovContext_colliding :
    ∃ a, trainBaseArtifact realMath "colliding" {} collidingExamples = .ok a ∧
      a.markovContext.get (contextKey "chat" 3) ≠
        conditional (labelsAtHour collidingExamples "chat" 3) := by
  obtain ⟨a, ha⟩ := train_collidingExamples
  have hown : labelsAtHour collidingExamples "chat" 3 = ["mail"] := rfl
  have hother : labelsOnWeekday collidingExamples "chat" 3 = ["maps"] := rfl
  refine ⟨a, ha, fun heq => ?_⟩
  have hperm := perm_labelsUnder collidingExamples "chat" 3
  rw [get_markovContext ha (by rw [hperm.length_eq]; decide), conditional_eq_iff hperm, hown,
    hother] at heq
  rcases heq with hnil | ⟨-, hshare⟩
  · cases hnil
  · exact absurd (hshare "mail") (by decide)

theorem markovContext_iff_colliding :
    ∃ a, trainBaseArtifact realMath "colliding" {} collidingExamples = .ok a ∧
      (a.markovContext.get (contextKey "chat" 9) =
          conditional (labelsAtHour collidingExamples "chat" 9) ↔
        Unmixed (labelsAtHour collidingExamples "chat" 9)
          (labelsOnWeekday collidingExamples "chat" 9)) := by
  obtain ⟨a, ha⟩ := train_collidingExamples
  exact ⟨a, ha, (markovContext_iff ha "chat" 9 (by decide)).1⟩

end Dipecs.Agent.Predictive
