import Dipecs.Library.Tally

/-! The groups of a list by a key, in a sorted map, each in the order of the list. -/

namespace Dipecs.Library.SortedMap

variable {α κ : Type} [LinearOrder κ] (key : α → κ)

def group (l : List α) : SortedMap κ (List α) :=
  l.foldl (fun m x => m.upsert (key x) fun xs => xs.getD [] ++ [x]) empty

theorem get_group (l : List α) (k : κ) :
    (group key l).get k =
      if k ∈ l.map key then some (l.filter fun x => key x = k) else none := by
  have hfold : ∀ (l : List α) (m : SortedMap κ (List α)),
      (l.foldl (fun m x => m.upsert (key x) fun xs => xs.getD [] ++ [x]) m).get k =
        if k ∈ l.map key then some ((m.get k).getD [] ++ l.filter fun x => key x = k)
        else m.get k := by
    intro l
    induction l with
    | nil => simp
    | cons x l ih =>
      intro m
      rw [List.foldl_cons, ih, get_upsert]
      by_cases hk : k = key x
      · subst hk
        by_cases hmem : key x ∈ l.map key
        · simp [hmem]
        · have hnone : l.filter (fun y => key y = key x) = [] :=
            List.filter_eq_nil_iff.mpr fun y hy h =>
              hmem (List.mem_map.mpr ⟨y, hy, of_decide_eq_true h⟩)
          rw [if_neg hmem, if_pos rfl, List.map_cons, if_pos List.mem_cons_self,
            List.filter_cons_of_pos (by simp), hnone]
      · rw [if_neg hk, List.map_cons, List.filter_cons_of_neg (by simpa using Ne.symm hk)]
        simp [hk]
  rw [group, hfold, get_empty]
  simp

theorem entries_group (l : List α) :
    (group key l).entries =
      (setOf (l.map key)).map fun k => (k, l.filter fun x => key x = k) :=
  entries_of_get (get_group key l)

theorem flatMap_filter_perm {keys : List κ} (hnodup : keys.Nodup) {l : List α}
    (hkeys : ∀ x ∈ l, key x ∈ keys) :
    (keys.flatMap fun k => l.filter fun x => key x = k).Perm l := by
  induction keys generalizing l with
  | nil =>
    obtain rfl : l = [] := List.eq_nil_iff_forall_not_mem.mpr fun x hx => by simpa using hkeys x hx
    rfl
  | cons k keys ih =>
    obtain ⟨hk, hkeysNodup⟩ := List.nodup_cons.mp hnodup
    have hrest : (keys.flatMap fun k' => l.filter fun x => key x = k').Perm
        (l.filter fun x => !decide (key x = k)) := by
      have hgroups : keys.flatMap (fun k' => l.filter fun x => key x = k') =
          keys.flatMap fun k' => (l.filter fun x => !decide (key x = k)).filter
            fun x => key x = k' := by
        refine List.flatMap_congr fun k' hk' => ?_
        rw [List.filter_filter]
        refine List.filter_congr fun x _ => ?_
        by_cases hx : key x = k'
        · have hne : key x ≠ k := fun h => hk (h ▸ hx ▸ hk')
          simp [hx, hx ▸ hne]
        · simp [hx]
      rw [hgroups]
      refine ih hkeysNodup fun x hx => ?_
      obtain ⟨hmem, hne⟩ := List.mem_filter.mp hx
      exact (List.mem_cons.mp (hkeys x hmem)).resolve_left (by simpa using hne)
    rw [List.flatMap_cons]
    exact (hrest.append_left _).trans (List.filter_append_perm _ l)

theorem filter_flatMap_key {keys : List κ} (hnodup : keys.Nodup) {f : κ → List α}
    (hf : ∀ k, ∀ x ∈ f k, key x = k) (k : κ) :
    ((keys.flatMap f).filter fun x => key x = k) = if k ∈ keys then f k else [] := by
  have hfilter : ∀ k', ((f k').filter fun x => key x = k) = if k' = k then f k' else [] := by
    intro k'
    split <;> rename_i hk
    · exact List.filter_eq_self.mpr fun x hx => by simpa [hk] using hf k' x hx
    · exact List.filter_eq_nil_iff.mpr fun x hx => by simpa [hf k' x hx] using hk
  induction keys with
  | nil => rfl
  | cons k' keys ih =>
    obtain ⟨hk', hkeys⟩ := List.nodup_cons.mp hnodup
    rw [List.flatMap_cons, List.filter_append, hfilter, ih hkeys]
    by_cases hk : k' = k
    · subst hk
      rw [if_pos rfl, if_neg hk', if_pos List.mem_cons_self, List.append_nil]
    · simp [hk, Ne.symm hk]

end Dipecs.Library.SortedMap
