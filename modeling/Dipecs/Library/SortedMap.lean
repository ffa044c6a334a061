import Mathlib.Algebra.GroupWithZero.Nat
import Mathlib.Data.List.Sort
import Mathlib.Order.Defs.LinearOrder

/-! Maps as lists sorted by key: the iteration order of an ordered-tree map. -/

namespace Dipecs.Library

structure SortedMap (κ ν : Type) [LinearOrder κ] where
  entries : List (κ × ν)
  sorted : entries.Pairwise fun x y => x.1 < y.1

namespace SortedMap

variable {κ ν : Type} [LinearOrder κ]

def empty : SortedMap κ ν := ⟨[], .nil⟩

def get (m : SortedMap κ ν) (k : κ) : Option ν := m.entries.lookup k

def insertWith (f : Option ν → ν) (k : κ) : List (κ × ν) → List (κ × ν)
  | [] => [(k, f none)]
  | (k', v) :: rest =>
    if k < k' then (k, f none) :: (k', v) :: rest
    else if k = k' then (k, f (some v)) :: rest
    else (k', v) :: insertWith f k rest

theorem fst_mem_insertWith {f : Option ν → ν} {k : κ} {l : List (κ × ν)} {x : κ × ν}
    (hx : x ∈ insertWith f k l) : x.1 = k ∨ x ∈ l := by
  induction l with
  | nil => exact .inl (by simp_all [insertWith])
  | cons y l ih =>
    rw [insertWith] at hx
    split at hx
    · rcases List.mem_cons.mp hx with rfl | hx
      · exact .inl rfl
      · exact .inr hx
    · split at hx
      · rcases List.mem_cons.mp hx with rfl | hx
        · exact .inl rfl
        · exact .inr (List.mem_cons_of_mem _ hx)
      · rcases List.mem_cons.mp hx with rfl | hx
        · exact .inr List.mem_cons_self
        · exact (ih hx).imp_right (List.mem_cons_of_mem _)

theorem insertWith_sorted (f : Option ν → ν) (k : κ) {l : List (κ × ν)}
    (h : l.Pairwise fun x y => x.1 < y.1) :
    (insertWith f k l).Pairwise fun x y => x.1 < y.1 := by
  induction l with
  | nil => exact List.pairwise_singleton _ _
  | cons y l ih =>
    have hl : ∀ x ∈ l, y.1 < x.1 := fun x hx => List.rel_of_pairwise_cons h hx
    rw [insertWith]
    split
    · refine h.cons fun x hx => ?_
      rcases List.mem_cons.mp hx with rfl | hx
      · assumption
      · exact lt_trans ‹_› (hl x hx)
    · split
      · subst_vars
        exact h.of_cons.cons fun x hx => hl x hx
      · refine (ih h.of_cons).cons fun x hx => ?_
        rcases fst_mem_insertWith hx with hk | hx
        · rw [hk]
          exact lt_of_le_of_ne (not_lt.mp ‹_›) (Ne.symm ‹_›)
        · exact hl x hx

def upsert (m : SortedMap κ ν) (k : κ) (f : Option ν → ν) : SortedMap κ ν :=
  ⟨insertWith f k m.entries, insertWith_sorted f k m.sorted⟩

def mapValues (m : SortedMap κ ν) (f : ν → ν) : SortedMap κ ν :=
  ⟨m.entries.map fun x => (x.1, f x.2), List.pairwise_map.mpr m.sorted⟩

def filterValues (m : SortedMap κ ν) (p : ν → Bool) : SortedMap κ ν :=
  ⟨m.entries.filter fun x => p x.2, m.sorted.filter _⟩

def map {μ : Type} (m : SortedMap κ ν) (f : ν → μ) : SortedMap κ μ :=
  ⟨m.entries.map fun x => (x.1, f x.2), List.pairwise_map.mpr m.sorted⟩

/-- The last value given for each key. -/
def ofList (l : List (κ × ν)) : SortedMap κ ν :=
  l.foldl (fun m x => m.upsert x.1 fun _ => x.2) empty

def setOf (l : List κ) : List κ := (ofList (l.map fun k => (k, ()))).entries.map Prod.fst

@[simp] theorem get_empty (k : κ) : (empty : SortedMap κ ν).get k = none := rfl

theorem lookup_cons_if (k : κ) (x : κ × ν) (l : List (κ × ν)) :
    (x :: l).lookup k = if k = x.1 then some x.2 else l.lookup k := by
  rw [List.lookup_cons]
  by_cases hk : k = x.1
  · simp [hk]
  · rw [beq_eq_false_iff_ne.mpr hk, if_neg hk]

theorem lookup_eq_none {k : κ} {l : List (κ × ν)} (h : ∀ x ∈ l, k < x.1) :
    l.lookup k = none := by
  rw [List.lookup_eq_none_iff]
  intro x hx
  simpa using (h x hx).ne

theorem lookup_insertWith (f : Option ν → ν) (k k' : κ) {l : List (κ × ν)}
    (h : l.Pairwise fun x y => x.1 < y.1) :
    (insertWith f k l).lookup k' = if k' = k then some (f (l.lookup k)) else l.lookup k' := by
  induction l with
  | nil => rw [insertWith, lookup_cons_if, List.lookup_nil, List.lookup_nil]
  | cons y l ih =>
    have hl : ∀ x ∈ l, y.1 < x.1 := fun x hx => List.rel_of_pairwise_cons h hx
    rw [insertWith]
    split
    · -- `k` comes before every key, so it was absent
      have hnone : (y :: l).lookup k = none :=
        lookup_eq_none fun x hx => (List.mem_cons.mp hx).elim (fun hx => hx ▸ ‹_›)
          fun hx => lt_trans ‹_› (hl x hx)
      rw [hnone, lookup_cons_if]
    · split
      · subst_vars
        simp only [lookup_cons_if]
        split <;> simp
      · simp only [lookup_cons_if, ih h.of_cons]
        split <;> split <;> simp_all

theorem get_upsert (m : SortedMap κ ν) (k k' : κ) (f : Option ν → ν) :
    (m.upsert k f).get k' = if k' = k then some (f (m.get k)) else m.get k' :=
  lookup_insertWith f k k' m.sorted

theorem mem_of_get {m : SortedMap κ ν} {k : κ} {v : ν} (h : m.get k = some v) :
    (k, v) ∈ m.entries := by
  obtain ⟨l₁, l₂, hl, -⟩ := List.lookup_eq_some_iff.mp h
  simp [hl]

theorem fst_mem_upsert {m : SortedMap κ ν} {k : κ} {f : Option ν → ν} {x : κ × ν}
    (h : x ∈ (m.upsert k f).entries) : x.1 = k ∨ x ∈ m.entries := fst_mem_insertWith h

theorem get_of_mem {m : SortedMap κ ν} {x : κ × ν} (h : x ∈ m.entries) :
    m.get x.1 = some x.2 := by
  obtain ⟨l₁, l₂, hl⟩ := List.append_of_mem h
  refine List.lookup_eq_some_iff.mpr ⟨l₁, l₂, hl, fun y hy => ?_⟩
  have hsorted := m.sorted
  rw [hl, List.pairwise_append] at hsorted
  simpa using (hsorted.2.2 y hy x List.mem_cons_self).ne'

theorem get_eq_some_iff {m : SortedMap κ ν} {k : κ} {v : ν} :
    m.get k = some v ↔ (k, v) ∈ m.entries := ⟨mem_of_get, fun h => get_of_mem h⟩

theorem mem_upsert {m : SortedMap κ ν} {k : κ} {f : Option ν → ν} {x : κ × ν}
    (h : x ∈ (m.upsert k f).entries) : x = (k, f (m.get k)) ∨ x ∈ m.entries := by
  have hget := get_of_mem h
  rw [get_upsert] at hget
  split at hget
  · rename_i hk
    exact .inl (Prod.ext hk (Option.some.inj hget).symm)
  · exact .inr (mem_of_get hget)

theorem mem_of_mem_ofList {l : List (κ × ν)} {x : κ × ν} (h : x ∈ (ofList l).entries) :
    x ∈ l := by
  refine List.foldlRecOn l _ (motive := fun m : SortedMap κ ν => ∀ x ∈ m.entries, x ∈ l)
    (fun x hx => absurd hx List.not_mem_nil) (fun m ih y hy x hx => ?_) x h
  rcases mem_upsert hx with rfl | hmem
  · exact hy
  · exact ih x hmem

theorem isSome_get_ofList {l : List (κ × ν)} {k : κ} :
    ((ofList l).get k).isSome ↔ k ∈ l.map Prod.fst := by
  have hfold : ∀ (l : List (κ × ν)) (m : SortedMap κ ν),
      ((l.foldl (fun m x => m.upsert x.1 fun _ => x.2) m).get k).isSome ↔
        (m.get k).isSome ∨ k ∈ l.map Prod.fst := by
    intro l
    induction l with
    | nil => simp
    | cons x l ih =>
      intro m
      rw [List.foldl_cons, ih, get_upsert, List.map_cons, List.mem_cons, ← or_assoc]
      split <;> simp_all
  simpa [ofList] using hfold l empty

theorem isSome_get {m : SortedMap κ ν} {k : κ} :
    (m.get k).isSome ↔ k ∈ m.entries.map Prod.fst := by
  rw [Option.isSome_iff_exists, List.mem_map]
  constructor
  · rintro ⟨v, hv⟩
    exact ⟨(k, v), mem_of_get hv, rfl⟩
  · rintro ⟨x, hx, rfl⟩
    exact ⟨x.2, get_of_mem hx⟩

theorem mem_setOf {l : List κ} {k : κ} : k ∈ setOf l ↔ k ∈ l := by
  rw [setOf, ← isSome_get, isSome_get_ofList, List.map_map]
  simp

theorem nodup_setOf (l : List κ) : (setOf l).Nodup :=
  List.pairwise_map.mpr ((ofList _).sorted.imp fun h => h.ne)

theorem get_map {μ : Type} (m : SortedMap κ ν) (f : ν → μ) (k : κ) :
    (m.map f).get k = (m.get k).map f := by
  change (m.entries.map fun x => (x.1, f x.2)).lookup k = (m.entries.lookup k).map f
  induction m.entries with
  | nil => rfl
  | cons x l ih =>
    rw [List.map_cons, lookup_cons_if, lookup_cons_if, ih]
    split <;> rfl

theorem get_mapValues (m : SortedMap κ ν) (f : ν → ν) (k : κ) :
    (m.mapValues f).get k = (m.get k).map f := get_map m f k

theorem get_filterValues (m : SortedMap κ ν) (p : ν → Bool) (k : κ) :
    (m.filterValues p).get k = (m.get k).filter p := by
  refine Option.ext fun v => ?_
  rw [get_eq_some_iff, Option.filter_eq_some_iff, get_eq_some_iff]
  exact List.mem_filter

theorem nodup_keys (m : SortedMap κ ν) : (m.entries.map Prod.fst).Nodup :=
  List.pairwise_map.mpr (m.sorted.imp fun h => h.ne)

def total (g : ν → Nat) (m : SortedMap κ ν) : Nat := (m.entries.map fun x => g x.2).sum

@[simp] theorem total_empty (g : ν → Nat) : (empty : SortedMap κ ν).total g = 0 := rfl

theorem sum_insertWith (g : ν → Nat) (f : Option ν → ν) (k : κ) {l : List (κ × ν)}
    (h : l.Pairwise fun x y => x.1 < y.1) :
    ((insertWith f k l).map fun x => g x.2).sum + ((l.lookup k).map g).getD 0 =
      (l.map fun x => g x.2).sum + g (f (l.lookup k)) := by
  induction l with
  | nil => simp [insertWith]
  | cons y l ih =>
    have hl : ∀ x ∈ l, y.1 < x.1 := fun x hx => List.rel_of_pairwise_cons h hx
    rw [insertWith]
    split
    · have hnone : (y :: l).lookup k = none :=
        lookup_eq_none fun x hx => (List.mem_cons.mp hx).elim (fun hx => hx ▸ ‹_›)
          fun hx => lt_trans ‹_› (hl x hx)
      rw [hnone]
      simp [Nat.add_comm]
    · split
      · subst_vars
        simp only [lookup_cons_if, if_true, Option.map_some, Option.getD_some, List.map_cons,
          List.sum_cons]
        omega
      · have := ih h.of_cons
        simp only [lookup_cons_if, if_neg ‹¬k = y.1›, List.map_cons, List.sum_cons]
        omega

theorem total_upsert (g : ν → Nat) (m : SortedMap κ ν) (k : κ) (f : Option ν → ν) :
    (m.upsert k f).total g + ((m.get k).map g).getD 0 = m.total g + g (f (m.get k)) :=
  sum_insertWith g f k m.sorted

end SortedMap

end Dipecs.Library
