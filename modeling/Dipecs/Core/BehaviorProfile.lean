import Dipecs.Core.MemoryTallies
import Dipecs.Library.Progress
import Dipecs.Library.Ranking
import Mathlib.Data.Prod.Lex

/-! The behaviour profile over whole runs: what its lists may hold, in which order, and how far
their scores follow the use of an app. -/

namespace Dipecs.Core

open Dipecs.Spec Dipecs.Library

variable {D F R : Type} [LinearOrder R]

/-- Scores that a memory can hold are valid, and these are in order. The configuration lets no
factor be above 999 milli. -/
structure MomentumOps.Ordered (ops : MomentumOps D) (rank : D → R) (valid : D → Prop) : Prop where
  zero : valid ops.zero
  addOne : ∀ d, valid d → valid (ops.addOne d)
  decayed : ∀ n d, n ≤ 999 → valid d → valid (ops.mul d (ops.ofMilli n))
  partialCmp : ∀ d d', valid d → valid d' →
    ops.partialCmp d d' = some (compare (rank d) (rank d'))
  rounded : ∀ d d', valid d → valid d' → rank d ≤ rank d' → ops.rounded d ≤ ops.rounded d'

/-! ### One list -/

def scoreKey (rank : D → R) (x : String × D) : R ×ₗ Stringᵒᵈ :=
  toLex (rank x.2, OrderDual.toDual x.1)

theorem then_ne_gt_iff {r s : R} {k k' : String} :
    ((compare s r).then (compare k k') != .gt) = true ↔
      (toLex (s, OrderDual.toDual k') : R ×ₗ Stringᵒᵈ) ≤ toLex (r, OrderDual.toDual k) := by
  rw [Prod.Lex.toLex_le_toLex]
  simp only [bne_iff_ne, ne_eq]
  rcases lt_trichotomy s r with h | h | h
  · simp [compare_lt_iff_lt.mpr h, h]
  · rw [compare_eq_iff_eq.mpr h]
    change ¬compare k k' = .gt ↔ _
    rw [compare_gt_iff_gt, not_lt]
    simp [h]
  · simp [compare_gt_iff_gt.mpr h, h.not_gt, h.ne']

theorem compare_toNat (a b : UInt32) : compare a b = compare a.toNat b.toNat := by
  change compareOfLessAndEq a b = compareOfLessAndEq a.toNat b.toNat
  simp only [compareOfLessAndEq, UInt32.lt_iff_toNat_lt, UInt32.toNat_inj]

theorem countLe_eq (a b : String × UInt32) : countLe a b = byKey (scoreKey UInt32.toNat) a b := by
  rw [Bool.eq_iff_iff, countLe, compare_toNat, then_ne_gt_iff, byKey, decide_eq_true_eq]
  rfl

theorem topCounts_eq (counts : SortedMap String UInt32) (limit : Nat) :
    topCounts counts limit = topRanked (scoreKey UInt32.toNat) limit counts.entries :=
  take_mergeSort_eq fun a _ b _ => countLe_eq a b

namespace MomentumOps.Ordered
variable {ops : MomentumOps D} {rank : D → R} {valid : D → Prop}

theorem scoreLe_eq (h : ops.Ordered rank valid) {a b : String × D} (ha : valid a.2)
    (hb : valid b.2) : scoreLe ops a b = byKey (scoreKey rank) a b := by
  rw [Bool.eq_iff_iff, scoreLe, h.partialCmp b.2 a.2 hb ha, Option.getD_some, then_ne_gt_iff, byKey,
    decide_eq_true_eq]
  rfl

theorem topScores_eq (h : ops.Ordered rank valid) {scores : SortedMap String D}
    (hvalid : ∀ x ∈ scores.entries, valid x.2) (limit : Nat) :
    topScores ops scores limit = if scores.entries = [] then none
      else some ((topRanked (scoreKey rank) limit scores.entries).map fun x =>
        (x.1, ops.rounded x.2)) := by
  have hsort : (scores.entries.mergeSort (scoreLe ops)).take limit =
      topRanked (scoreKey rank) limit scores.entries :=
    take_mergeSort_eq fun a ha b hb => h.scoreLe_eq (hvalid a ha) (hvalid b hb)
  rw [topScores, hsort]
  simp only [List.isEmpty_iff]

end MomentumOps.Ordered

namespace Tally

/-- What a tally holds when the keys `seen` have been added to it. -/
structure Records (valid : D → Prop) (seen : List String) (t : Tally D) : Prop where
  counted : ∀ k, k ∈ t.counts.entries.map Prod.fst ↔ k ∈ seen
  scored : ∀ k ∈ t.momentum.entries.map Prod.fst, k ∈ seen
  valid : ∀ x ∈ t.momentum.entries, valid x.2

theorem records_empty (valid : D → Prop) : Records valid [] (empty : Tally D) :=
  ⟨fun _ => Iff.rfl, fun _ hk => hk, fun _ hx => absurd hx List.not_mem_nil⟩

namespace Records
variable {ops : MomentumOps D} {rank : D → R} {valid : D → Prop} {seen : List String} {t : Tally D}

theorem add (h : Records valid seen t) (hops : ops.Ordered rank valid) (key : String) :
    Records valid (seen ++ [key]) (t.add ops key) := by
  refine ⟨fun k => ?_, fun k hk => ?_, fun x hx => ?_⟩
  · have hcounted := h.counted k
    rw [← SortedMap.isSome_get] at hcounted ⊢
    rw [Tally.add, increment, SortedMap.get_upsert, List.mem_append, List.mem_singleton,
      ← hcounted]
    split <;> simp_all
  · obtain ⟨x, hx, rfl⟩ := List.mem_map.mp hk
    rcases SortedMap.fst_mem_upsert hx with hkey | hmem
    · simp [hkey]
    · exact List.mem_append_left _ (h.scored x.1 (List.mem_map_of_mem hmem))
  · rcases SortedMap.mem_upsert hx with rfl | hmem
    · refine hops.addOne _ ?_
      cases hget : t.momentum.get key with
      | none => exact hops.zero
      | some d => exact h.valid _ (SortedMap.mem_of_get hget)
    · exact h.valid x hmem

theorem foldl_add (h : Records valid seen t) (hops : ops.Ordered rank valid) (keys : List String) :
    Records valid (seen ++ keys) (keys.foldl (Tally.add ops) t) := by
  induction keys generalizing seen t with
  | nil => rwa [List.append_nil]
  | cons key keys ih =>
    rw [List.append_cons]
    exact ih (h.add hops key)

theorem decay (h : Records valid seen t) (hops : ops.Ordered rank valid) {n : UInt16}
    (hn : n ≤ 999) : Records valid seen (t.decay ops (ops.ofMilli n)) := by
  have hsub : ∀ x ∈ (t.decay ops (ops.ofMilli n)).momentum.entries,
      ∃ d, (x.1, d) ∈ t.momentum.entries ∧ x.2 = ops.mul d (ops.ofMilli n) := by
    intro x hx
    rw [Tally.decay, decayMap] at hx
    split at hx
    · exact absurd hx List.not_mem_nil
    · obtain ⟨y, hy, rfl⟩ := List.mem_map.mp (List.mem_of_mem_filter hx)
      exact ⟨y.2, hy, rfl⟩
  refine ⟨h.counted, fun k hk => ?_, fun x hx => ?_⟩
  · obtain ⟨x, hx, rfl⟩ := List.mem_map.mp hk
    obtain ⟨d, hd, -⟩ := hsub x hx
    exact h.scored x.1 (List.mem_map.mpr ⟨_, hd, rfl⟩)
  · obtain ⟨d, hd, hx⟩ := hsub x hx
    rw [hx]
    exact hops.decayed n d hn (h.valid _ hd)

end Records

/-- The list shows the best keys of a tally that has recorded the keys `seen`. -/
structure Ranked (rank : D → R) (limit : Nat) (seen : List String) (t : Tally D)
    (l : List (String × UInt32)) : Prop where
  length_le : l.length ≤ limit
  nodup : (l.map Prod.fst).Nodup
  mem_seen : ∀ k ∈ l.map Prod.fst, k ∈ seen
  ne_nil : seen ≠ [] → l ≠ []
  descending : Descending (·.2.toNat) l
  /-- What has momentum is only left out for what has more. -/
  fair : ∀ k d, t.momentum.get k = some d → k ∉ l.map Prod.fst → l.length = limit ∧
    ∀ k' ∈ l.map Prod.fst, ∃ d', t.momentum.get k' = some d' ∧
      (rank d < rank d' ∨ rank d = rank d' ∧ k' < k)

end Tally

section topOf
variable {ops : MomentumOps D} {rank : D → R} {valid : D → Prop} {seen : List String} {t : Tally D}

theorem entries_ne_nil_of_seen (h : t.Records valid seen) (hseen : seen ≠ []) :
    t.counts.entries ≠ [] := by
  obtain ⟨k, hk⟩ := List.exists_mem_of_ne_nil seen hseen
  obtain ⟨x, hx, -⟩ := List.mem_map.mp ((h.counted k).mpr hk)
  exact List.ne_nil_of_mem hx

theorem topOf_eq (m : ModelMemoryStore D) (h : t.Records valid seen)
    (hops : ops.Ordered rank valid) :
    m.topOf ops t = if t.momentum.entries = [] then
        topRanked (scoreKey UInt32.toNat) m.topLimit t.counts.entries
      else (topRanked (scoreKey rank) m.topLimit t.momentum.entries).map fun x =>
        (x.1, ops.rounded x.2) := by
  rw [ModelMemoryStore.topOf, hops.topScores_eq h.valid, topCounts_eq]
  split <;> rfl

theorem ranked_topCounts {limit : Nat} (hlimit : 0 < limit) (h : t.Records valid seen)
    (hnil : t.momentum.entries = []) :
    t.Ranked rank limit seen (topRanked (scoreKey UInt32.toNat) limit t.counts.entries) := by
  refine ⟨?_, nodup_map_topRanked t.counts.nodup_keys, fun k hk => ?_, fun hseen => ?_, ?_,
    fun k d hget => ?_⟩
  · rw [length_topRanked]
    exact Nat.min_le_left _ _
  · obtain ⟨x, hx, rfl⟩ := List.mem_map.mp hk
    exact (h.counted x.1).mp (List.mem_map_of_mem (mem_of_mem_topRanked hx))
  · exact topRanked_ne_nil (entries_ne_nil_of_seen h hseen) hlimit
  · refine List.Pairwise.imp (fun hab => ?_) descending_topRanked
    exact (Prod.Lex.toLex_le_toLex.mp hab).elim le_of_lt fun heq => heq.1.le
  · have hmem := SortedMap.mem_of_get hget
    rw [hnil] at hmem
    exact absurd hmem List.not_mem_nil

theorem ranked_topScores {limit : Nat} (hlimit : 0 < limit) (h : t.Records valid seen)
    (hops : ops.Ordered rank valid) (hne : t.momentum.entries ≠ []) :
    t.Ranked rank limit seen ((topRanked (scoreKey rank) limit t.momentum.entries).map fun x =>
      (x.1, ops.rounded x.2)) := by
  have hkeys : ((topRanked (scoreKey rank) limit t.momentum.entries).map fun x =>
      (x.1, ops.rounded x.2)).map Prod.fst =
        (topRanked (scoreKey rank) limit t.momentum.entries).map Prod.fst :=
    List.map_map
  refine ⟨?_, ?_, fun k hk => ?_, fun _ => ?_, ?_, fun k d hget hout => ?_⟩
  · rw [List.length_map, length_topRanked]
    exact Nat.min_le_left _ _
  · rw [hkeys]
    exact nodup_map_topRanked t.momentum.nodup_keys
  · rw [hkeys] at hk
    obtain ⟨x, hx, rfl⟩ := List.mem_map.mp hk
    exact h.scored x.1 (List.mem_map_of_mem (mem_of_mem_topRanked hx))
  · rw [ne_eq, List.map_eq_nil_iff]
    exact topRanked_ne_nil hne hlimit
  · have hdescending : Descending (scoreKey rank)
        (topRanked (scoreKey rank) limit t.momentum.entries) := descending_topRanked
    refine descending_map.mpr (List.Pairwise.imp_of_mem (fun ha hb hab => ?_) hdescending)
    refine UInt32.le_iff_toNat_le.mp (hops.rounded _ _ (h.valid _ (mem_of_mem_topRanked hb))
      (h.valid _ (mem_of_mem_topRanked ha)) ?_)
    exact (Prod.Lex.toLex_le_toLex.mp hab).elim le_of_lt fun heq => heq.1.le
  · have hmem := SortedMap.mem_of_get hget
    rw [hkeys] at hout ⊢
    rw [List.length_map]
    obtain ⟨hlen, hbest⟩ := le_of_not_mem_topRanked hmem fun htop =>
      hout (List.mem_map.mpr ⟨_, htop, rfl⟩)
    refine ⟨hlen, fun k' hk' => ?_⟩
    obtain ⟨x, hx, rfl⟩ := List.mem_map.mp hk'
    refine ⟨x.2, SortedMap.get_of_mem (mem_of_mem_topRanked hx), ?_⟩
    rcases Prod.Lex.toLex_le_toLex.mp (hbest x hx) with hlt | ⟨heq, hle⟩
    · exact .inl hlt
    · refine .inr ⟨heq, lt_of_le_of_ne hle fun hkey => hout ?_⟩
      rwa [← hkey]

theorem ranked_topOf (m : ModelMemoryStore D) (hlimit : 0 < m.topLimit)
    (h : t.Records valid seen) (hops : ops.Ordered rank valid) :
    t.Ranked rank m.topLimit seen (m.topOf ops t) := by
  rw [topOf_eq m h hops]
  split
  · rename_i hnil
    exact ranked_topCounts hlimit h hnil
  · rename_i hne
    exact ranked_topScores hlimit h hops hne

end topOf

/-! ### The profile -/

def CounterFamily.profiled : CounterFamily → Bool
  | .prewarmHit | .prewarmMiss => false
  | _ => true

def listed (p : UserBehaviorProfile) : CounterFamily → List (String × UInt32)
  | .foreground => p.frequentForegroundApps
  | .notifying => p.frequentNotifyingApps
  | .semanticHint => p.frequentSemanticHints.map fun (hint, n) => (hint.debug, n)
  | .actionSuccess => p.actionSuccesses
  | .actionDenial => p.actionDenials
  | .actionFailure => p.actionFailures
  | .prewarmHit | .prewarmMiss => []

@[simp] theorem semanticHintFromDebug_debug (hint : SemanticHint) :
    semanticHintFromDebug hint.debug = some hint := by
  cases hint <;> rfl

theorem map_debug_hintsOf {l : List (String × UInt32)}
    (h : ∀ k ∈ l.map Prod.fst, ∃ hint : SemanticHint, k = hint.debug) :
    ((hintsOf l).map fun (hint, n) => (hint.debug, n)) = l := by
  induction l with
  | nil => rfl
  | cons x l ih =>
    obtain ⟨hint, hx⟩ := h x.1 List.mem_cons_self
    obtain ⟨name, n⟩ := x
    obtain rfl : name = hint.debug := hx
    have hfirst : hintsOf ((hint.debug, n) :: l) = (hint, n) :: hintsOf l :=
      List.filterMap_cons_some (by simp)
    rw [hfirst, List.map_cons, ih fun k hk => h k (List.mem_cons_of_mem _ hk)]

theorem frequentSemanticHints_eq (ops : MomentumOps D) (m : ModelMemoryStore D) :
    m.frequentSemanticHints ops = hintsOf (m.topOf ops m.semanticHint) := by
  rw [ModelMemoryStore.frequentSemanticHints, topSemanticHintScores, topSemanticHints,
    ModelMemoryStore.topOf]
  cases topScores ops m.semanticHint.momentum m.topLimit <;> rfl

theorem min_milli_le (n : UInt16) : min n 999 ≤ 999 := by
  have hmin : min n 999 = if n ≤ 999 then n else 999 := rfl
  rw [hmin]
  split
  · assumption
  · exact UInt16.le_refl _

structure Remembers (ops : MomentumOps D) (valid : D → Prop) (config : ModelMemoryConfig)
    (xs : List (Observation F)) (m : ModelMemoryStore D) : Prop where
  records : ∀ family, family.profiled →
    (m.tally family).Records valid (xs.flatMap (·.keys family))
  decayMilli : m.momentumDecayMilli = min (max config.momentumDecayMilli 0) 999
  topLimit : m.topLimit = min (max config.topLimit 1) 32
  windows : m.observationWindows.toNat = min xs.length (2 ^ 32 - 1)
  last : m.lastUpdatedWindowId = xs.getLast?.map (·.context.windowId)

namespace Remembers
variable {ops : MomentumOps D} {rank : D → R} {valid : D → Prop} {config : ModelMemoryConfig}
  {xs : List (Observation F)} {m : ModelMemoryStore D}

theorem withConfig (ops : MomentumOps D) (valid : D → Prop) (config : ModelMemoryConfig) :
    Remembers (F := F) ops valid config [] (ModelMemoryStore.withConfig config) := by
  refine ⟨fun family _ => ?_, rfl, rfl, rfl, rfl⟩
  cases family <;> exact Tally.records_empty valid

theorem decayMilli_le (h : Remembers ops valid config xs m) : m.momentumDecayMilli ≤ 999 := by
  rw [h.decayMilli]
  exact min_milli_le _

theorem resolvedKeys_of_profiled {family : CounterFamily} (hfamily : family.profiled)
    (m : ModelMemoryStore D) (x : Observation F) : m.resolvedKeys x family = [] := by
  cases family <;> first | rfl | cases hfamily

theorem observe (h : Remembers ops valid config xs m) (hops : ops.Ordered rank valid)
    (x : Observation F) :
    Remembers ops valid config (xs ++ [x])
      (m.observeWindow ops x.context x.decision x.auditRecords) := by
  obtain ⟨hmilli, htop, hlast⟩ := ModelMemoryStore.observeWindow_config ops m x
  refine ⟨fun family hfamily => ?_, hmilli.trans h.decayMilli, htop.trans h.topLimit, ?_, ?_⟩
  · rw [ModelMemoryStore.observeWindow_tally, resolvedKeys_of_profiled hfamily, List.flatMap_append,
      List.flatMap_singleton]
    exact ((h.records family hfamily).decay hops h.decayMilli_le).foldl_add hops _
  · rw [ModelMemoryStore.observeWindow_observationWindows, toNat_satSucc32, h.windows,
      List.length_append, List.length_singleton]
    omega
  · rw [hlast, List.getLast?_append, List.getLast?_singleton]
    rfl

theorem listed_behaviorProfile (h : Remembers ops valid config xs m) {family : CounterFamily}
    (hfamily : family.profiled) (hops : ops.Ordered rank valid) :
    listed (m.behaviorProfile ops) family = m.topOf ops (m.tally family) := by
  have hpos : 0 < m.topLimit := by
    rw [h.topLimit]
    omega
  cases family with
  | semanticHint =>
    refine (congrArg _ (frequentSemanticHints_eq ops m)).trans (map_debug_hintsOf fun k hk => ?_)
    have hseen := (ranked_topOf m hpos (h.records .semanticHint rfl) hops).mem_seen k hk
    obtain ⟨x, -, hx⟩ := List.mem_flatMap.mp hseen
    obtain ⟨hint, -, rfl⟩ := List.mem_map.mp hx
    exact ⟨hint, rfl⟩
  | prewarmHit | prewarmMiss => cases hfamily
  | foreground | notifying | actionSuccess | actionDenial | actionFailure => rfl

end Remembers

theorem memoryLoop_remembers {ops : MomentumOps D} {rank : D → R} {valid : D → Prop}
    (hops : ops.Ordered rank valid) (config : ModelMemoryConfig) (xs : List (Observation F)) :
    Remembers ops valid config xs ((memoryLoop ops).run (.withConfig config) xs).1 :=
  Machine.run_history (fun pre _ m => Remembers ops valid config pre m)
    (fun _ _ _ x h _ => h.observe hops x) (.withConfig ops valid config)
    ((memoryLoop ops).along_true _ _)

theorem memoryLoop_ranked {ops : MomentumOps D} {rank : D → R} {valid : D → Prop}
    (hops : ops.Ordered rank valid) (config : ModelMemoryConfig) (xs : List (Observation F))
    {family : CounterFamily} (hfamily : family.profiled) :
    (((memoryLoop ops).run (.withConfig config) xs).1.tally family).Ranked rank
      (min (max config.topLimit 1) 32) (xs.flatMap (·.keys family))
      (listed (((memoryLoop ops).run (.withConfig config) xs).1.behaviorProfile ops) family) := by
  have h := memoryLoop_remembers hops config xs
  have hpos : 0 < ((memoryLoop ops).run (.withConfig config) xs).1.topLimit := by
    rw [h.topLimit]
    omega
  rw [h.listed_behaviorProfile hfamily hops, ← h.topLimit]
  exact ranked_topOf _ hpos (h.records family hfamily) hops

/-- After every run from a fresh store, each list of the behaviour profile ranks what the windows
showed. -/
theorem behaviorProfile_ranked {ops : MomentumOps D} {rank : D → R} {valid : D → Prop}
    (hops : ops.Ordered rank valid) (config : ModelMemoryConfig) (xs : List (Observation F)) :
    let m := ((memoryLoop ops).run (.withConfig config) xs).1
    let p := m.behaviorProfile ops
    p.observationWindows.toNat = min xs.length (2 ^ 32 - 1) ∧
    p.lastUpdatedWindowId = xs.getLast?.map (·.context.windowId) ∧
    ∀ family, family.profiled →
      (m.tally family).Ranked rank (min (max config.topLimit 1) 32)
        (xs.flatMap (·.keys family)) (listed p family) := by
  intro m p
  have h : Remembers ops valid config xs m := memoryLoop_remembers hops config xs
  exact ⟨h.windows, h.last, fun family hfamily => memoryLoop_ranked hops config xs hfamily⟩

/-! ### Exact arithmetic -/

/-- Momentum in exact arithmetic, with scores that are cut off where 32 bits end. -/
def exactMomentum : MomentumOps ℚ where
  __ := rationalMomentum
  rounded d := UInt32.ofNat (min ⌊max d 1 + 1 / 2⌋.toNat (2 ^ 32 - 1))

theorem exactMomentum_rounded_toNat (d : ℚ) :
    (exactMomentum.rounded d).toNat = min ⌊max d 1 + 1 / 2⌋.toNat (2 ^ 32 - 1) := by
  exact UInt32.toNat_ofNat_of_lt' (lt_of_le_of_lt (min_le_right _ _) (by decide))

theorem exactMomentum_ordered : exactMomentum.Ordered id fun d => (0 : ℚ) ≤ d where
  zero := le_refl _
  addOne d hd := add_nonneg hd zero_le_one
  decayed n d _ hd := mul_nonneg hd (div_nonneg (Nat.cast_nonneg _) (by norm_num))
  partialCmp d d' _ _ := rfl
  rounded d d' _ _ h := by
    rw [UInt32.le_iff_toNat_le, exactMomentum_rounded_toNat, exactMomentum_rounded_toNat]
    have hfloor : ⌊max d 1 + 1 / 2⌋ ≤ ⌊max d' 1 + 1 / 2⌋ :=
      Int.floor_le_floor (add_le_add_left (max_le_max_right 1 h) _)
    exact min_le_min_right _ (Int.toNat_le_toNat hfloor)

namespace Tally

def score (t : Tally ℚ) (key : String) : ℚ := (t.momentum.get key).getD 0

theorem score_add (t : Tally ℚ) (key key' : String) :
    (t.add exactMomentum key).score key' = t.score key' + if key = key' then 1 else 0 := by
  rw [score, Tally.add, addMomentum, SortedMap.get_upsert]
  by_cases hkey : key' = key
  · subst hkey
    rw [if_pos rfl, if_pos rfl]
    rfl
  · rw [if_neg hkey, if_neg (Ne.symm hkey), add_zero]
    rfl

theorem score_foldl_add (keys : List String) (t : Tally ℚ) (key : String) :
    (keys.foldl (add exactMomentum) t).score key = t.score key + keys.count key := by
  induction keys generalizing t with
  | nil => simp
  | cons k keys ih =>
    rw [List.foldl_cons, ih, score_add, List.count_cons]
    by_cases hkey : k = key
    · simp [hkey]
      ring
    · simp [hkey]

theorem score_decay {t : Tally ℚ} {d : ℚ} (hd : 0 ≤ d) {key : String} (hscore : 0 ≤ t.score key) :
    (t.decay exactMomentum d).score key ≤ d * t.score key ∧
      d * t.score key ≤ (t.decay exactMomentum d).score key + 1 / 100 := by
  have hmul := mul_nonneg hd hscore
  rw [Tally.decay, decayMap]
  split
  · -- a decay of zero
    rename_i hzero
    have hzero : d = 0 := le_antisymm (of_decide_eq_true hzero) hd
    subst hzero
    simp [score, SortedMap.empty, SortedMap.get]
  · rw [score] at hmul ⊢
    rw [score, SortedMap.get_filterValues, SortedMap.get_mapValues]
    cases hget : t.momentum.get key with
    | none => simp
    | some v =>
      rw [hget, Option.getD_some] at hmul
      have hkept : exactMomentum.kept (exactMomentum.mul v d) = decide (1 / 100 ≤ d * v) := by
        rw [mul_comm d v]
        rfl
      have hdecayed : exactMomentum.mul v d = d * v := mul_comm v d
      rw [Option.map_some, Option.filter_some, hkept, hdecayed, Option.getD_some]
      by_cases hlow : 1 / 100 ≤ d * v
      · rw [if_pos (decide_eq_true hlow), Option.getD_some]
        exact ⟨le_refl _, by linarith⟩
      · rw [if_neg (by simpa using hlow), Option.getD_none]
        exact ⟨hmul, by linarith⟩

end Tally

open PrewarmSample in
theorem behaviorProfile_ranked_overlapping :
    let m := ((memoryLoop exactMomentum).run (.withConfig {}) overlapping).1
    let p := m.behaviorProfile exactMomentum
    p.observationWindows.toNat = 3 ∧ p.frequentForegroundApps ≠ [] ∧
      ∀ family, family.profiled → (listed p family).length ≤ 8 := by
  intro m p
  obtain ⟨hwindows, -, hranked⟩ := behaviorProfile_ranked exactMomentum_ordered {} overlapping
  exact ⟨hwindows, (hranked .foreground rfl).ne_nil (by decide),
    fun family hfamily => (hranked family hfamily).length_le⟩

def ModelMemoryConfig.decay (config : ModelMemoryConfig) : ℚ :=
  exactMomentum.ofMilli (min (max config.momentumDecayMilli 0) 999)

theorem ModelMemoryConfig.decay_nonneg (config : ModelMemoryConfig) : 0 ≤ config.decay :=
  div_nonneg (Nat.cast_nonneg _) (by norm_num)

theorem ModelMemoryConfig.decay_lt_one (config : ModelMemoryConfig) : config.decay < 1 := by
  change ((min (max config.momentumDecayMilli 0) 999).toNat : ℚ) / 1000 < 1
  rw [div_lt_one (by norm_num)]
  have hnat : ((min (max config.momentumDecayMilli 0) 999).toNat : ℚ) ≤ 999 :=
    Nat.cast_le_ofNat.mpr (UInt16.le_iff_toNat_le.mp (min_milli_le _))
  linarith

/-- How much the windows used a key, where each window counts less than the next by the factor. -/
def decayedUse (d : ℚ) (xs : List (Observation F)) (family : CounterFamily) (key : String) : ℚ :=
  decayedSum d (xs.map fun x => ((x.keys family).count key : ℚ))

theorem Tally.Records.score_nonneg {seen : List String} {t : Tally ℚ}
    (h : t.Records (0 ≤ ·) seen) (key : String) : 0 ≤ t.score key := by
  rw [Tally.score]
  cases hget : t.momentum.get key with
  | none => exact le_refl _
  | some v => exact h.valid _ (SortedMap.mem_of_get hget)

/-- The scores after the windows `xs`: behind the decayed use by what the cut-off can have taken. -/
structure Follows (config : ModelMemoryConfig) (xs : List (Observation F))
    (m : ModelMemoryStore ℚ) : Prop where
  remembers : Remembers exactMomentum (0 ≤ ·) config xs m
  lags : ∀ family, family.profiled → ∀ key,
    Lags config.decay (1 / 100) ((m.tally family).score key)
      (decayedUse config.decay xs family key)

theorem Follows.observe {config : ModelMemoryConfig} {xs : List (Observation F)}
    {m : ModelMemoryStore ℚ} (h : Follows config xs m) (x : Observation F) :
    Follows config (xs ++ [x])
      (m.observeWindow exactMomentum x.context x.decision x.auditRecords) := by
  refine ⟨h.remembers.observe exactMomentum_ordered x, fun family hfamily key => ?_⟩
  have hscore := (h.remembers.records family hfamily).score_nonneg key
  obtain ⟨hle, hlost⟩ := Tally.score_decay config.decay_nonneg hscore
  have hfactor : exactMomentum.ofMilli m.momentumDecayMilli = config.decay := by
    rw [h.remembers.decayMilli, ModelMemoryConfig.decay]
  rw [ModelMemoryStore.observeWindow_tally, Remembers.resolvedKeys_of_profiled hfamily,
    Tally.score_foldl_add, hfactor, decayedUse, List.map_append, List.map_singleton,
    decayedSum_concat]
  exact ((h.lags family hfamily key).decay config.decay_nonneg config.decay_lt_one hle hlost).add _

theorem memoryLoop_follows (config : ModelMemoryConfig) (xs : List (Observation F)) :
    Follows config xs ((memoryLoop exactMomentum).run (.withConfig config) xs).1 := by
  refine Machine.run_history (fun pre _ m => Follows config pre m) (fun _ _ _ x h _ => h.observe x)
    ?_ ((memoryLoop exactMomentum).along_true _ _)
  refine ⟨.withConfig exactMomentum _ config, fun family _ key => ?_⟩
  cases family <;> exact .refl (by norm_num) config.decay_lt_one 0

/-- In exact arithmetic the profile follows use: what a list leaves out was used hardly at all, or
hardly more than anything on the full list. -/
theorem behaviorProfile_follows_use (config : ModelMemoryConfig) (xs : List (Observation F))
    (family : CounterFamily) (hfamily : family.profiled) :
    let m := ((memoryLoop exactMomentum).run (.withConfig config) xs).1
    let keys := (listed (m.behaviorProfile exactMomentum) family).map Prod.fst
    let use := decayedUse config.decay xs family
    let lost := 1 / 100 / (1 - config.decay)
    (∀ key, (m.tally family).score key ≤ use key ∧ use key ≤ (m.tally family).score key + lost) ∧
    ∀ key ∉ keys, use key ≤ lost ∨
      keys.length = min (max config.topLimit 1) 32 ∧ ∀ key' ∈ keys, use key ≤ use key' + lost := by
  intro m keys use lost
  have h : Follows config xs m := memoryLoop_follows config xs
  have hlags := h.lags family hfamily
  refine ⟨fun key => ⟨(hlags key).le, (hlags key).ge⟩, fun key hout => ?_⟩
  have hranked := memoryLoop_ranked exactMomentum_ordered config xs hfamily
  cases hget : (m.tally family).momentum.get key with
  | none =>
    have hscore : (m.tally family).score key = 0 := by rw [Tally.score, hget]; rfl
    have hge := (hlags key).ge
    rw [hscore, zero_add] at hge
    exact .inl hge
  | some d =>
    obtain ⟨hlen, hbest⟩ := hranked.fair key d hget hout
    refine .inr ⟨by rw [List.length_map, hlen], fun key' hkey' => ?_⟩
    obtain ⟨d', hget', hle⟩ := hbest key' hkey'
    have hscore : (m.tally family).score key = d := by rw [Tally.score, hget]; rfl
    have hscore' : (m.tally family).score key' = d' := by rw [Tally.score, hget']; rfl
    have hdd' : d ≤ d' := hle.elim le_of_lt fun heq => heq.1.le
    calc use key ≤ (m.tally family).score key + lost := (hlags key).ge
      _ ≤ (m.tally family).score key' + lost := by rw [hscore, hscore']; linarith
      _ ≤ use key' + lost := by linarith [(hlags key').le]

open PrewarmSample in
theorem behaviorProfile_follows_use_overlapping :
    let m := ((memoryLoop exactMomentum).run (.withConfig {}) overlapping).1
    m.foreground.score "com.mail" ≤ 181 / 100 ∧
      181 / 100 ≤ m.foreground.score "com.mail" + 1 / 10 := by
  intro m
  have hdecay : ModelMemoryConfig.decay {} = 9 / 10 := by decide +kernel
  have hlost : (1 / 100 / (1 - 9 / 10) : ℚ) = 1 / 10 := by norm_num
  have huse : decayedUse (9 / 10) overlapping .foreground "com.mail" = 181 / 100 := by
    decide +kernel
  have h := (behaviorProfile_follows_use {} overlapping .foreground rfl).1 "com.mail"
  rwa [hdecay, hlost, huse] at h

end Dipecs.Core
