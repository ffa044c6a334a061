import Dipecs.Library.Checks
import Mathlib.Data.List.Sort

/-! Sorting by a comparison that may be no total order of the members of a list. -/

namespace Dipecs.Library

section
variable {α : Type} (cmp : α → α → Ordering)

structure TotalOn (l : List α) : Prop where
  swap : ∀ a ∈ l, ∀ b ∈ l, cmp a b = (cmp b a).swap
  trans : ∀ a ∈ l, ∀ b ∈ l, ∀ c ∈ l, cmp a b ≠ .gt → cmp b c ≠ .gt → cmp a c ≠ .gt

instance (l : List α) : Decidable (TotalOn cmp l) :=
  decidable_of_iff ((∀ a ∈ l, ∀ b ∈ l, cmp a b = (cmp b a).swap) ∧
      ∀ a ∈ l, ∀ b ∈ l, ∀ c ∈ l, cmp a b ≠ .gt → cmp b c ≠ .gt → cmp a c ≠ .gt)
    ⟨fun h => ⟨h.1, h.2⟩, fun h => ⟨h.1, h.2⟩⟩

/-- What is made of a list in no total order: any order at all, or none where the sort panics. -/
abbrev Unordered (α : Type) := (l : List α) → Option { sorted : List α // sorted.Perm l }

def sortBy (unordered : Unordered α) (l : List α) : Except Fault (List α) :=
  if TotalOn cmp l then .ok (l.mergeSort fun a b => cmp a b != .gt)
  else match unordered l with
    | some sorted => .ok sorted.val
    | none => .error .unordered

variable {cmp} {unordered : Unordered α} {l sorted : List α}

theorem totalOn_nil : TotalOn cmp [] :=
  ⟨fun _ ha => absurd ha List.not_mem_nil, fun _ ha => absurd ha List.not_mem_nil⟩

theorem sortBy_of_total (h : TotalOn cmp l) :
    sortBy cmp unordered l = .ok (l.mergeSort fun a b => cmp a b != .gt) := if_pos h

theorem sortBy_of_not_total (h : ¬TotalOn cmp l) (hpanics : unordered l = none) :
    sortBy cmp unordered l = .error .unordered := by
  rw [sortBy, if_neg h, hpanics]

theorem perm_of_sortBy (h : sortBy cmp unordered l = .ok sorted) : sorted.Perm l := by
  unfold sortBy at h
  split at h
  · exact Except.ok.inj h ▸ List.mergeSort_perm l _
  · split at h
    · rename_i answer _
      exact Except.ok.inj h ▸ answer.property
    · cases h

theorem totalOn_of_key {κ : Type} [Preorder κ] (key : α → κ)
    (hswap : ∀ a b, cmp a b = (cmp b a).swap) (hkey : ∀ a b, cmp a b ≠ .gt ↔ key b ≤ key a)
    (l : List α) : TotalOn cmp l where
  swap a _ b _ := hswap a b
  trans a _ b _ c _ hab hbc := by
    rw [hkey] at *
    exact hbc.trans hab

end

end Dipecs.Library
