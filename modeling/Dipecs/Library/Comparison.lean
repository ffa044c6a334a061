import Mathlib.Order.Compare
import Mathlib.Order.Defs.LinearOrder
import Mathlib.Order.MinMax
import Mathlib.Tactic.Order

/-! Comparison in a number format whose order may leave values incomparable, built from `≤`
alone, and what it comes to in a linear order. -/

namespace Dipecs.Library

section
variable {F : Type} [LE F] [DecidableLE F]

def partialCmp (a b : F) : Option Ordering :=
  if a ≤ b then if b ≤ a then some .eq else some .lt
  else if b ≤ a then some .gt else none

def maxNum (a b : F) : F := if a ≤ b then b else if a ≤ a then a else b

end

def clamp {F : Type} [LT F] [DecidableLT F] (lo hi x : F) : F :=
  if x < lo then lo else if hi < x then hi else x

/-- A greatest element, the last of those that compare equal. -/
def maxBy {α : Type} (cmp : α → α → Ordering) : List α → Option α
  | [] => none
  | a :: l => some (l.foldl (fun x y => if cmp x y = .gt then x else y) a)

theorem maxBy_mem {α : Type} {cmp : α → α → Ordering} {l : List α} {a : α}
    (h : maxBy cmp l = some a) : a ∈ l := by
  have hfold : ∀ (l : List α) (a : α),
      l.foldl (fun x y => if cmp x y = .gt then x else y) a ∈ a :: l := by
    intro l
    induction l with
    | nil => simp
    | cons b l ih =>
      intro a
      rw [List.foldl_cons]
      rcases List.mem_cons.mp (ih (if cmp a b = .gt then a else b)) with heq | hmem
      · rw [heq]
        split <;> simp
      · simp [hmem]
  cases l with
  | nil => cases h
  | cons b l =>
    cases h
    exact hfold l b

theorem le_of_maxBy {α κ : Type} [LinearOrder κ] {cmp : α → α → Ordering} {key : α → κ}
    (hcmp : ∀ a b, cmp a b = .gt ↔ key b < key a) {l : List α} {a : α}
    (h : maxBy cmp l = some a) : ∀ b ∈ l, key b ≤ key a := by
  have hfold : ∀ (l : List α) (a : α), ∀ b ∈ a :: l,
      key b ≤ key (l.foldl (fun x y => if cmp x y = .gt then x else y) a) := by
    intro l
    induction l with
    | nil => simp
    | cons c l ih =>
      intro a b hb
      rw [List.foldl_cons]
      have hhead : key a ≤ key (if cmp a c = .gt then a else c) ∧
          key c ≤ key (if cmp a c = .gt then a else c) := by
        split <;> rename_i hgt
        · exact ⟨le_refl _, ((hcmp a c).mp hgt).le⟩
        · exact ⟨not_lt.mp (mt (hcmp a c).mpr hgt), le_refl _⟩
      have hacc := ih (if cmp a c = .gt then a else c) _ List.mem_cons_self
      rcases List.mem_cons.mp hb with rfl | hb
      · exact hhead.1.trans hacc
      rcases List.mem_cons.mp hb with rfl | hb
      · exact hhead.2.trans hacc
      · exact ih _ b (List.mem_cons_of_mem _ hb)
  cases l with
  | nil => cases h
  | cons b l =>
    cases h
    exact hfold l b

section
variable {F : Type} [LinearOrder F]

theorem partialCmp_eq_compare (a b : F) : partialCmp a b = some (compare a b) := by
  unfold partialCmp
  split <;> rename_i hab
  · split <;> rename_i hba
    · rw [compare_eq_iff_eq.mpr (le_antisymm hab hba)]
    · rw [compare_lt_iff_lt.mpr (not_le.mp hba)]
  · rw [if_pos (le_of_not_ge hab), compare_gt_iff_gt.mpr (not_le.mp hab)]

theorem clamp_mono {lo hi x y : F} (hle : lo ≤ hi) (h : x ≤ y) :
    clamp lo hi x ≤ clamp lo hi y := by
  unfold clamp
  split_ifs <;> order

end

end Dipecs.Library
