import Mathlib.Algebra.BigOperators.Group.List.Basic
import Mathlib.Algebra.BigOperators.Group.Multiset.Basic
import Mathlib.Algebra.GroupWithZero.Nat
import Mathlib.Data.List.Forall2
import Mathlib.Data.List.Nodup
import Mathlib.Data.Prod.Lex
import Mathlib.Order.Defs.PartialOrder

/-! Numbered and keyed lists: the ordinals of a nested list, lookup by a key under which the
last entry wins, and the groups that keys make of a list. -/

namespace Dipecs.Library

variable {α β κ : Type}

/-- Lookup in a map collected from a list: of two entries with one key the later stays. -/
def lastWith [DecidableEq κ] (key : α → κ) (l : List α) (k : κ) : Option α :=
  l.reverse.find? fun x => key x = k

theorem lastWith_eq_some [DecidableEq κ] {key : α → κ} {l : List α} (h : (l.map key).Nodup)
    {k : κ} {x : α} : lastWith key l k = some x ↔ x ∈ l ∧ key x = k := by
  constructor
  · intro hx
    exact ⟨by simpa using List.mem_of_find?_eq_some hx, by simpa using List.find?_some hx⟩
  · rintro ⟨hx, rfl⟩
    cases hy : lastWith key l (key x) with
    | none => simpa using List.find?_eq_none.mp hy x (by simpa using hx)
    | some y =>
      have hmem : y ∈ l := by simpa using List.mem_of_find?_eq_some hy
      have hkey : key y = key x := by simpa using List.find?_some hy
      rw [List.inj_on_of_nodup_map h hmem hx hkey]

theorem zipIdx_pairwise_lt (l : List α) (k : Nat) :
    (l.zipIdx k).Pairwise fun x y => x.2 < y.2 := by
  rw [← List.pairwise_map (f := Prod.snd), List.zipIdx_map_snd]
  exact List.pairwise_lt_range'

/-- The ordinals of a nested list, in the order of a nested loop. -/
def nestedOrdinals (f : α → List β) (l : List α) : List (Nat × Nat) :=
  l.zipIdx.flatMap fun (x, i) => (f x).zipIdx.map fun (_, j) => (i, j)

theorem nestedOrdinals_pairwise (f : α → List β) (l : List α) :
    (nestedOrdinals f l).Pairwise (Prod.Lex (· < ·) (· < ·)) := by
  rw [nestedOrdinals, List.pairwise_flatMap]
  constructor
  · intro (x, i) _
    rw [List.pairwise_map]
    exact (zipIdx_pairwise_lt (f x) 0).imp fun h => .right _ h
  · refine (zipIdx_pairwise_lt l 0).imp fun {x y} h => ?_
    intro a ha b hb
    obtain ⟨_, _, rfl⟩ := List.mem_map.mp ha
    obtain ⟨_, _, rfl⟩ := List.mem_map.mp hb
    exact .left _ _ h

theorem nestedOrdinals_nodup (f : α → List β) (l : List α) : (nestedOrdinals f l).Nodup := by
  refine (nestedOrdinals_pairwise f l).imp fun {a b} h hab => ?_
  subst hab
  cases h with
  | left _ _ h => exact lt_irrefl _ h
  | right _ h => exact lt_irrefl _ h

theorem mem_nestedOrdinals {f : α → List β} {l : List α} {p : Nat × Nat} :
    p ∈ nestedOrdinals f l ↔ ∃ x, l[p.1]? = some x ∧ p.2 < (f x).length := by
  obtain ⟨i, j⟩ := p
  simp only [nestedOrdinals, List.mem_flatMap, List.mem_map, Prod.exists, Prod.mk.injEq,
    List.mem_zipIdx_iff_getElem?]
  constructor
  · rintro ⟨x, i, hx, _, j, hj, rfl, rfl⟩
    exact ⟨x, hx, (List.getElem?_eq_some_iff.mp hj).1⟩
  · rintro ⟨x, hx, hj⟩
    exact ⟨x, i, hx, _, j, List.getElem?_eq_getElem hj, rfl, rfl⟩

theorem map_eq_map_of_forall₂ {γ : Type} {f : α → γ} {g : β → γ} {l : List α} {l' : List β}
    (h : List.Forall₂ (fun a b => f a = g b) l l') : l.map f = l'.map g := by
  rw [← List.forall₂_eq_eq_eq, List.forall₂_map_left_iff, List.forall₂_map_right_iff]
  exact h

theorem sum_comm (f : α → β → Nat) (l : List α) (l' : List β) :
    (l.map fun a => (l'.map (f a)).sum).sum = (l'.map fun b => (l.map (f · b)).sum).sum := by
  simpa using Multiset.sum_map_sum_map (l : Multiset α) (l' : Multiset β) (f := f)

theorem sum_groups [DecidableEq κ] {keys : List κ} (hnodup : keys.Nodup) {key : α → κ}
    {l : List α} (hkeys : ∀ x ∈ l, key x ∈ keys) (n : α → Nat) :
    (keys.map fun k => ((l.filter fun x => key x == k).map n).sum).sum = (l.map n).sum := by
  induction l with
  | nil => simp
  | cons x l ih =>
    obtain ⟨hx, hl⟩ := List.forall_mem_cons.mp hkeys
    have hgroup : ∀ k, (((x :: l).filter fun y => key y == k).map n).sum =
        (if key x = k then n x else 0) + ((l.filter fun y => key y == k).map n).sum := by
      intro k
      by_cases h : key x = k <;> simp [h]
    have hone : (keys.map fun k => if key x = k then n x else 0).sum = n x := by
      rw [List.sum_map_eq_nsmul_single (key x) _ fun k hk _ => if_neg (Ne.symm hk),
        List.count_eq_one_of_mem hnodup hx, one_nsmul, if_pos rfl]
    simp only [hgroup, List.sum_map_add, hone, ih hl, List.map_cons, List.sum_cons]

end Dipecs.Library
