import Mathlib.Data.List.Perm.Basic

/-! Iteration over a hash map: some permutation of its entries, fixed by nothing. -/

namespace Dipecs.Library

structure Reordering (α : Type) where
  reorder : List α → List α
  perm : ∀ l, (reorder l).Perm l

namespace Reordering
variable {α : Type}

def id : Reordering α := ⟨fun l => l, fun _ => .refl _⟩

def reverse : Reordering α := ⟨List.reverse, List.reverse_perm⟩

theorem reorder_eq_self (r : Reordering α) {l : List α} (h : l.length ≤ 1) :
    r.reorder l = l := by
  match l, h with
  | [], _ => exact List.perm_nil.mp (r.perm [])
  | [x], _ => exact List.perm_singleton.mp (r.perm [x])

theorem length_le_one_of_reverse_eq {l : List α} (hl : l.Nodup) (h : l.reverse = l) :
    l.length ≤ 1 := by
  match l, hl, h with
  | [], _, _ => simp
  | [_], _, _ => simp
  | x :: y :: rest, hl, h =>
    have hlast : (x :: y :: rest).getLast? = some x := by
      rw [← h, List.getLast?_reverse, List.head?_cons]
    rw [List.getLast?_cons_cons] at hlast
    exact absurd (List.mem_of_getLast? hlast) (List.nodup_cons.mp hl).1

theorem mergeSort_reorder (r : Reordering α) {le : α → α → Bool} {l : List α}
    (trans : ∀ a b c, le a b = true → le b c = true → le a c = true)
    (total : ∀ a b, (le a b || le b a) = true)
    (antisymm : ∀ a ∈ l, ∀ b ∈ l, le a b = true → le b a = true → a = b) :
    (r.reorder l).mergeSort le = l.mergeSort le := by
  have hperm : ((r.reorder l).mergeSort le).Perm (l.mergeSort le) :=
    (List.mergeSort_perm _ _).trans ((r.perm l).trans (List.mergeSort_perm _ _).symm)
  have hsorted := List.pairwise_mergeSort trans total (r.reorder l)
  have hsorted' := List.pairwise_mergeSort trans total l
  refine hperm.eq_of_pairwise ?_ hsorted hsorted'
  intro a b ha hb
  exact antisymm a ((r.perm l).mem_iff.mp (List.mem_mergeSort.mp ha)) b (List.mem_mergeSort.mp hb)

end Reordering

end Dipecs.Library
