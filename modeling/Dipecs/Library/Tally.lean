import Dipecs.Library.SortedMap

/-! Counting the members of a list in a sorted map. -/

namespace Dipecs.Library.SortedMap

variable {κ ν : Type} [LinearOrder κ]

theorem ext_get {m m' : SortedMap κ ν} (h : ∀ k, m.get k = m'.get k) : m = m' := by
  have hmem : ∀ x, x ∈ m.entries ↔ x ∈ m'.entries := fun x =>
    ⟨fun hx => mem_of_get (h x.1 ▸ get_of_mem hx), fun hx => mem_of_get (h x.1 ▸ get_of_mem hx)⟩
  have hnodup : ∀ m : SortedMap κ ν, m.entries.Nodup := fun m => m.nodup_keys.of_map
  have hperm := (List.perm_ext_iff_of_nodup (hnodup m) (hnodup m')).mpr hmem
  have hentries : m.entries = m'.entries :=
    hperm.eq_of_pairwise (fun _ _ _ _ hab hba => absurd hab hba.not_gt) m.sorted m'.sorted
  cases m
  cases m'
  cases hentries
  rfl

theorem pairwise_setOf (l : List κ) : (setOf l).Pairwise (· < ·) :=
  List.pairwise_map.mpr (ofList _).sorted

theorem setOf_congr {l l' : List κ} (h : ∀ k, k ∈ l ↔ k ∈ l') : setOf l = setOf l' := by
  have hperm := (List.perm_ext_iff_of_nodup (nodup_setOf l) (nodup_setOf l')).mpr fun k => by
    rw [mem_setOf, mem_setOf, h]
  exact hperm.eq_of_pairwise (fun _ _ _ _ hab hba => absurd hab hba.not_gt) (pairwise_setOf l)
    (pairwise_setOf l')

/-- Counters of 32 bits, which wrap. -/
def count (m : SortedMap κ UInt32) (k : κ) : SortedMap κ UInt32 :=
  m.upsert k fun n => n.getD 0 + 1

def tally (l : List κ) : SortedMap κ UInt32 := l.foldl count empty

theorem tally_concat (l : List κ) (k : κ) : tally (l ++ [k]) = (tally l).count k := by
  rw [tally, List.foldl_append]
  rfl

theorem get_tally (l : List κ) (k : κ) :
    (tally l).get k = if k ∈ l then some (UInt32.ofNat (l.count k)) else none := by
  have hfold : ∀ (l : List κ) (m : SortedMap κ UInt32), (l.foldl count m).get k =
      if k ∈ l then some ((m.get k).getD 0 + UInt32.ofNat (l.count k)) else m.get k := by
    intro l
    induction l with
    | nil => simp
    | cons a l ih =>
      intro m
      rw [List.foldl_cons, ih, count, get_upsert]
      by_cases hk : k = a
      · subst hk
        have hsucc : UInt32.ofNat (l.count k + 1) = 1 + UInt32.ofNat (l.count k) := by
          rw [UInt32.ofNat_add, UInt32.add_comm]
          rfl
        by_cases hmem : k ∈ l
        · simp [hmem, hsucc, UInt32.add_assoc]
        · simp [hmem, List.count_eq_zero_of_not_mem hmem]
      · simp [hk, Ne.symm hk]
  rw [tally, hfold, get_empty]
  simp

theorem lookup_map_pair (f : κ → ν) (l : List κ) (k : κ) :
    (l.map fun a => (a, f a)).lookup k = if k ∈ l then some (f k) else none := by
  induction l with
  | nil => rfl
  | cons a l ih =>
    rw [List.map_cons, lookup_cons_if, ih]
    by_cases hk : k = a
    · simp [hk]
    · simp [hk]

theorem entries_of_get {m : SortedMap κ ν} {l : List κ} {f : κ → ν}
    (h : ∀ k, m.get k = if k ∈ l then some (f k) else none) :
    m.entries = (setOf l).map fun k => (k, f k) := by
  have heq : m = ⟨(setOf l).map fun k => (k, f k),
      List.pairwise_map.mpr (pairwise_setOf l)⟩ := by
    refine ext_get fun k => ?_
    rw [h]
    simp only [get, lookup_map_pair, mem_setOf]
  rw [heq]

theorem entries_tally (l : List κ) :
    (tally l).entries = (setOf l).map fun k => (k, UInt32.ofNat (l.count k)) :=
  entries_of_get (get_tally l)

end Dipecs.Library.SortedMap
