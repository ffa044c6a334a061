import Dipecs.Library.Descending
import Dipecs.Library.Merging
import Mathlib.Data.List.Sort

/-! The first few of a list in descending order of a key. -/

namespace Dipecs.Library

variable {α K : Type} [LinearOrder K] {key : α → K} {l : List α} {n : Nat}

def byKey (key : α → K) (a b : α) : Bool := key b ≤ key a

theorem byKey_trans (a b c : α) (hab : byKey key a b = true) (hbc : byKey key b c = true) :
    byKey key a c = true := by
  rw [byKey, decide_eq_true_eq] at *
  exact hbc.trans hab

theorem byKey_total (a b : α) : (byKey key a b || byKey key b a) = true := by
  rw [byKey, byKey, Bool.or_eq_true, decide_eq_true_eq, decide_eq_true_eq]
  exact le_total _ _

def topRanked (key : α → K) (n : Nat) (l : List α) : List α := (l.mergeSort (byKey key)).take n

theorem take_mergeSort_eq {le : α → α → Bool} (h : ∀ a ∈ l, ∀ b ∈ l, le a b = byKey key a b) :
    (l.mergeSort le).take n = topRanked key n l := by
  have hmap := List.map_mergeSort (f := id) h
  rw [List.map_id, List.map_id] at hmap
  rw [hmap, topRanked]

theorem mem_of_mem_topRanked {a : α} (h : a ∈ topRanked key n l) : a ∈ l :=
  List.mem_mergeSort.mp (List.mem_of_mem_take h)

@[simp] theorem length_topRanked : (topRanked key n l).length = min n l.length := by
  rw [topRanked, List.length_take, List.length_mergeSort]

theorem descending_topRanked : Descending key (topRanked key n l) := by
  have hsorted : (l.mergeSort (byKey key)).Pairwise fun a b => byKey key a b = true :=
    List.pairwise_mergeSort byKey_trans byKey_total l
  refine (hsorted.imp fun hab => ?_).sublist (List.take_sublist _ _)
  rwa [byKey, decide_eq_true_eq] at hab

theorem nodup_map_topRanked {β : Type} {f : α → β} (h : (l.map f).Nodup) :
    ((topRanked key n l).map f).Nodup := by
  have hperm := (List.mergeSort_perm l (byKey key)).map f
  exact (hperm.nodup_iff.mpr h).sublist ((List.take_sublist _ _).map f)

theorem le_of_not_mem_topRanked {a : α} (ha : a ∈ l) (hout : a ∉ topRanked key n l) :
    (topRanked key n l).length = n ∧ ∀ b ∈ topRanked key n l, key a ≤ key b := by
  constructor
  · rw [length_topRanked]
    refine Nat.min_eq_left (Nat.le_of_lt (Nat.lt_of_not_le fun hle => hout ?_))
    rw [topRanked, List.take_of_length_le (by rwa [List.length_mergeSort])]
    exact List.mem_mergeSort.mpr ha
  · intro b hb
    have hle := le_of_mem_take_mergeSort byKey_trans byKey_total hb ha hout
    rwa [byKey, decide_eq_true_eq] at hle

theorem topRanked_ne_nil (h : l ≠ []) (hn : 0 < n) : topRanked key n l ≠ [] := by
  have hpos := List.length_pos_of_ne_nil h
  refine List.ne_nil_of_length_pos ?_
  rw [length_topRanked]
  exact lt_min hn hpos

end Dipecs.Library
