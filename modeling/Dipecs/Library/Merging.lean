import Mathlib.Data.List.Induction
import Mathlib.Data.List.Sort

/-! Lists merged by key, and the head of a ranking. -/

namespace Dipecs.Library

section
variable {α κ : Type} [DecidableEq κ]

def insertMerged (key : α → κ) (merge : α → α → α) (a : α) : List α → List α
  | [] => [a]
  | b :: l => if key b = key a then merge b a :: l else b :: insertMerged key merge a l

def mergeByKey (key : α → κ) (merge : α → α → α) (l : List α) : List α :=
  l.foldl (fun merged a => insertMerged key merge a merged) []

variable {key : α → κ} {merge : α → α → α}

def KeepsKey (key : α → κ) (merge : α → α → α) : Prop :=
  ∀ b a, key b = key a → key (merge b a) = key b

theorem keys_insertMerged (h : KeepsKey key merge) (a : α) (l : List α) :
    (insertMerged key merge a l).map key =
      if key a ∈ l.map key then l.map key else l.map key ++ [key a] := by
  induction l with
  | nil => simp [insertMerged]
  | cons b l ih =>
    rw [insertMerged]
    split
    · rename_i hkey
      simp [h b a hkey, hkey]
    · rename_i hkey
      rw [List.map_cons, ih]
      by_cases hmem : key a ∈ l.map key <;> simp [hmem, Ne.symm hkey]

theorem mem_insertMerged {a x : α} {l : List α} (hl : (l.map key).Nodup)
    (hx : x ∈ insertMerged key merge a l) :
    (x ∈ l ∧ key x ≠ key a) ∨ (x = a ∧ key a ∉ l.map key) ∨
      ∃ b ∈ l, key b = key a ∧ x = merge b a := by
  induction l with
  | nil => exact .inr (.inl (by simpa [insertMerged] using hx))
  | cons b l ih =>
    obtain ⟨hb, hl⟩ := List.nodup_cons.mp hl
    rw [insertMerged] at hx
    split at hx
    · rename_i hkey
      rcases List.mem_cons.mp hx with rfl | hx
      · exact .inr (.inr ⟨b, List.mem_cons_self, hkey, rfl⟩)
      · refine .inl ⟨List.mem_cons_of_mem _ hx, fun hxa => hb ?_⟩
        rw [hkey, ← hxa]
        exact List.mem_map_of_mem hx
    · rename_i hkey
      rcases List.mem_cons.mp hx with rfl | hx
      · exact .inl ⟨List.mem_cons_self, hkey⟩
      · rcases ih hl hx with ⟨hx, hne⟩ | ⟨rfl, hnot⟩ | ⟨b', hb', hkey', rfl⟩
        · exact .inl ⟨List.mem_cons_of_mem _ hx, hne⟩
        · exact .inr (.inl ⟨rfl, by simpa [Ne.symm hkey] using hnot⟩)
        · exact .inr (.inr ⟨b', List.mem_cons_of_mem _ hb', hkey', rfl⟩)

theorem mergeByKey_append_singleton (l : List α) (a : α) :
    mergeByKey key merge (l ++ [a]) = insertMerged key merge a (mergeByKey key merge l) := by
  simp [mergeByKey, List.foldl_append]

theorem mem_keys_mergeByKey (h : KeepsKey key merge) {l : List α} {k : κ} :
    k ∈ (mergeByKey key merge l).map key ↔ k ∈ l.map key := by
  induction l using List.reverseRecOn with
  | nil => rfl
  | append_singleton l a ih =>
    rw [mergeByKey_append_singleton, keys_insertMerged h, List.map_append, List.mem_append,
      List.map_singleton, List.mem_singleton]
    split
    · rename_i hmem
      rw [ih]
      refine ⟨.inl, fun hk => hk.elim id ?_⟩
      rintro rfl
      exact ih.mp hmem
    · rw [List.mem_append, ih, List.mem_singleton]

theorem nodup_keys_mergeByKey (h : KeepsKey key merge) (l : List α) :
    ((mergeByKey key merge l).map key).Nodup := by
  induction l using List.reverseRecOn with
  | nil => exact List.nodup_nil
  | append_singleton l a ih =>
    rw [mergeByKey_append_singleton, keys_insertMerged h]
    split
    · exact ih
    · rename_i hnot
      exact List.nodup_append.mpr ⟨ih, List.nodup_singleton _, fun x hx y hy hxy =>
        hnot (List.mem_singleton.mp hy ▸ hxy ▸ hx)⟩

/-- What holds of single entries and is kept by merging holds of each merged entry and the
group of entries with its key. -/
theorem mergeByKey_group (h : KeepsKey key merge) {R : List α → α → Prop}
    (single : ∀ a, R [a] a)
    (snoc : ∀ group b a, key b = key a → R group b → R (group ++ [a]) (merge b a)) (l : List α) :
    ∀ x ∈ mergeByKey key merge l, R (l.filter fun a => key a = key x) x := by
  induction l using List.reverseRecOn with
  | nil => exact fun x hx => absurd hx List.not_mem_nil
  | append_singleton l a ih =>
    intro x hx
    rw [mergeByKey_append_singleton] at hx
    rw [List.filter_append]
    rcases mem_insertMerged (nodup_keys_mergeByKey h l) hx with
      ⟨hx, hne⟩ | ⟨rfl, hnot⟩ | ⟨b, hb, hkey, rfl⟩
    · rw [List.filter_cons_of_neg (by simpa using Ne.symm hne), List.filter_nil, List.append_nil]
      exact ih x hx
    · have hnone : l.filter (fun a => key a = key x) = [] := by
        rw [List.filter_eq_nil_iff]
        intro a ha heq
        refine hnot ((mem_keys_mergeByKey h).mpr ?_)
        rw [← of_decide_eq_true heq]
        exact List.mem_map_of_mem ha
      rw [hnone]
      simpa using single x
    · rw [h b a hkey, List.filter_cons_of_pos (by simpa using hkey.symm), List.filter_nil]
      exact snoc _ b a hkey (ih b hb)

end

section
variable {α : Type} {le : α → α → Bool}

theorem le_of_mem_take_mergeSort (trans : ∀ a b c, le a b = true → le b c = true → le a c = true)
    (total : ∀ a b, (le a b || le b a) = true) {l : List α} {n : Nat} {x y : α}
    (hx : x ∈ (l.mergeSort le).take n) (hy : y ∈ l) (hout : y ∉ (l.mergeSort le).take n) :
    le x y = true := by
  have hsorted := List.pairwise_mergeSort trans total l
  rw [← List.take_append_drop n (l.mergeSort le), List.pairwise_append] at hsorted
  refine hsorted.2.2 x hx y ?_
  have hmem : y ∈ (l.mergeSort le).take n ++ (l.mergeSort le).drop n := by
    rw [List.take_append_drop]
    exact List.mem_mergeSort.mpr hy
  exact (List.mem_append.mp hmem).resolve_left hout

end

end Dipecs.Library
