import Mathlib.Data.List.Basic
import Mathlib.Data.List.Forall2

/-! Two sequences compared position by position, by a test for the elements. -/

namespace Dipecs.Library

namespace Positional

variable {α β γ : Type} (same : α → β → Bool)

def AgreeAt (xs : List α) (ys : List β) (i : Nat) : Prop :=
  ∃ x y, xs[i]? = some x ∧ ys[i]? = some y ∧ same x y

def zipped (xs : List α) (ys : List β) : List Nat :=
  ((xs.zip ys).zipIdx.filter fun p => !same p.1.1 p.1.2).map Prod.snd

def unmatched (xs : List α) (ys : List β) : List Nat :=
  let short := min xs.length ys.length
  List.range' short (max xs.length ys.length - short)

def divergences (xs : List α) (ys : List β) : List Nat := zipped same xs ys ++ unmatched xs ys

variable {same}

theorem mem_zipped {xs : List α} {ys : List β} {i : Nat} :
    i ∈ zipped same xs ys ↔ ∃ x y, xs[i]? = some x ∧ ys[i]? = some y ∧ same x y = false := by
  simp only [zipped, List.mem_map, List.mem_filter, Prod.exists, List.mk_mem_zipIdx_iff_getElem?,
    List.getElem?_zip_eq_some, Bool.not_eq_true']
  constructor
  · rintro ⟨x, y, j, ⟨⟨hx, hy⟩, hdiff⟩, rfl⟩
    exact ⟨x, y, hx, hy, hdiff⟩
  · rintro ⟨x, y, hx, hy, hdiff⟩
    exact ⟨x, y, i, ⟨⟨hx, hy⟩, hdiff⟩, rfl⟩

theorem mem_unmatched {xs : List α} {ys : List β} {i : Nat} :
    i ∈ unmatched xs ys ↔ min xs.length ys.length ≤ i ∧ i < max xs.length ys.length := by
  rw [unmatched, List.mem_range'_1]
  omega

theorem lt_of_mem_zipped {xs : List α} {ys : List β} {i : Nat} (h : i ∈ zipped same xs ys) :
    i < min xs.length ys.length := by
  obtain ⟨x, y, hx, hy, -⟩ := mem_zipped.mp h
  have hxs := (List.getElem?_eq_some_iff.mp hx).1
  have hys := (List.getElem?_eq_some_iff.mp hy).1
  omega

theorem mem_divergences {xs : List α} {ys : List β} {i : Nat} :
    i ∈ divergences same xs ys ↔
      i < max xs.length ys.length ∧ ¬ AgreeAt same xs ys i := by
  rw [divergences, List.mem_append, mem_unmatched]
  constructor
  · rintro (h | ⟨hmin, hmax⟩)
    · refine ⟨by have := lt_of_mem_zipped h; omega, ?_⟩
      obtain ⟨x, y, hx, hy, hdiff⟩ := mem_zipped.mp h
      rintro ⟨x', y', hx', hy', hsame⟩
      obtain rfl := Option.some.inj (hx.symm.trans hx')
      obtain rfl := Option.some.inj (hy.symm.trans hy')
      rw [hdiff] at hsame
      cases hsame
    · refine ⟨hmax, ?_⟩
      rintro ⟨x, y, hx, hy, -⟩
      have hxs := (List.getElem?_eq_some_iff.mp hx).1
      have hys := (List.getElem?_eq_some_iff.mp hy).1
      omega
  · rintro ⟨hmax, hdiff⟩
    by_cases hmin : i < min xs.length ys.length
    · have hx := List.getElem?_eq_getElem (l := xs) (i := i) (by omega)
      have hy := List.getElem?_eq_getElem (l := ys) (i := i) (by omega)
      refine .inl (mem_zipped.mpr ⟨_, _, hx, hy, ?_⟩)
      rw [← Bool.not_eq_true]
      exact fun hsame => hdiff ⟨_, _, hx, hy, hsame⟩
    · exact .inr ⟨by omega, hmax⟩

theorem zipped_increasing (xs : List α) (ys : List β) :
    (zipped same xs ys).Pairwise (· < ·) := by
  have hsub := (List.filter_sublist
    (p := fun p : (α × β) × Nat => !same p.1.1 p.1.2) (l := (xs.zip ys).zipIdx)).map Prod.snd
  rw [List.zipIdx_map_snd] at hsub
  exact List.Pairwise.sublist hsub List.pairwise_lt_range'

theorem divergences_increasing (xs : List α) (ys : List β) :
    (divergences same xs ys).Pairwise (· < ·) := by
  refine List.pairwise_append.mpr ⟨zipped_increasing xs ys, List.pairwise_lt_range', ?_⟩
  intro i hi j hj
  have hlow := lt_of_mem_zipped hi
  have hhigh := (mem_unmatched.mp hj).1
  omega

/-! Comparison that stops short of positions: the pairs that a zip sees. -/

theorem forall_zipIdx_iff {xs : List α} {p : α → Prop} :
    (∀ q ∈ xs.zipIdx, p q.1) ↔ ∀ x ∈ xs, p x := by
  constructor
  · intro h x hx
    obtain ⟨i, hi⟩ := List.getElem?_of_mem hx
    exact h (x, i) (List.mk_mem_zipIdx_iff_getElem?.mpr hi)
  · exact fun h q hq => h q.1 (List.fst_mem_of_mem_zipIdx hq)

theorem forall₂_iff {R : α → β → Prop} {xs : List α} {ys : List β} :
    List.Forall₂ R xs ys ↔ xs.length = ys.length ∧ ∀ p ∈ xs.zip ys, R p.1 p.2 := by
  rw [List.forall₂_iff_zip]
  exact and_congr_right fun _ => ⟨fun h p hp => h hp, fun h a b hab => h (a, b) hab⟩

end Positional

end Dipecs.Library
