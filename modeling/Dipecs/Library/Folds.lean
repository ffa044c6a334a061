import Mathlib.Data.List.Basic

/-! Folds told from what they have consumed, and the list that keeps the first occurrence of
each element. -/

namespace Dipecs.Library

/-- Invariant rule with history: what each step keeps of the elements consumed and the state
holds at the end of the fold. -/
theorem foldl_history {σ α : Type} {f : σ → α → σ} (Inv : List α → σ → Prop)
    (hstep : ∀ pre s a, Inv pre s → Inv (pre ++ [a]) (f s a)) {s : σ} (h : Inv [] s)
    (l : List α) : Inv l (l.foldl f s) := by
  have hfrom : ∀ pre s, Inv pre s → Inv (pre ++ l) (l.foldl f s) := by
    induction l with
    | nil =>
      intro pre s h
      rwa [List.append_nil]
    | cons a l ih =>
      intro pre s h
      rw [List.foldl_cons, List.append_cons]
      exact ih _ _ (hstep pre s a h)
  exact hfrom [] s h

/-- The elements of `source`, each once, in the order in which they first occur. -/
structure FirstOccurrences {α : Type} [DecidableEq α] (source l : List α) : Prop where
  nodup : l.Nodup
  mem : ∀ a, a ∈ l ↔ a ∈ source
  order : l.Pairwise fun a b => source.idxOf a < source.idxOf b

namespace FirstOccurrences

variable {α β σ : Type} [DecidableEq α] {source l : List α}

protected theorem nil : FirstOccurrences ([] : List α) [] := ⟨.nil, fun _ => .rfl, .nil⟩

theorem push (h : FirstOccurrences source l) (a : α) :
    FirstOccurrences (source ++ [a]) (if a ∈ l then l else l ++ [a]) := by
  have hidx : ∀ x ∈ l, (source ++ [a]).idxOf x = source.idxOf x := fun x hx =>
    List.idxOf_append_of_mem ((h.mem x).mp hx)
  have horder : l.Pairwise fun x y => (source ++ [a]).idxOf x < (source ++ [a]).idxOf y :=
    h.order.imp_of_mem fun hx hy hlt => by rwa [hidx _ hx, hidx _ hy]
  split <;> rename_i ha
  · refine ⟨h.nodup, fun x => ?_, horder⟩
    rw [List.mem_append, List.mem_singleton, ← h.mem]
    exact ⟨.inl, fun hx => hx.elim id fun hx => hx ▸ ha⟩
  · have hlast : (source ++ [a]).idxOf a = source.length := by
      rw [List.idxOf_append_of_notMem (mt (h.mem a).mpr ha), List.idxOf_cons_self, Nat.add_zero]
    refine ⟨?_, fun x => ?_, ?_⟩
    · rw [List.nodup_append]
      exact ⟨h.nodup, List.pairwise_singleton _ _, fun x hx y hy hxy =>
        ha (List.mem_singleton.mp hy ▸ hxy ▸ hx)⟩
    · rw [List.mem_append, List.mem_append, h.mem]
    · rw [List.pairwise_append]
      refine ⟨horder, List.pairwise_singleton _ _, fun x hx y hy => ?_⟩
      rw [List.mem_singleton.mp hy, hlast, hidx x hx]
      exact List.idxOf_lt_length_of_mem ((h.mem x).mp hx)

theorem pushAll (h : FirstOccurrences source l) (xs : List α) :
    FirstOccurrences (source ++ xs)
      (xs.foldl (fun l a => if a ∈ l then l else l ++ [a]) l) := by
  induction xs generalizing source l with
  | nil => rwa [List.append_nil]
  | cons x xs ih =>
    rw [List.foldl_cons, List.append_cons]
    exact ih (h.push x)

theorem foldl {f : σ → β → σ} (get : σ → List α) {occurs : β → List α} {s : σ}
    (hstep : ∀ s b, get (f s b) =
      (occurs b).foldl (fun l a => if a ∈ l then l else l ++ [a]) (get s))
    (hs : get s = []) (xs : List β) :
    FirstOccurrences (xs.flatMap occurs) (get (xs.foldl f s)) := by
  refine foldl_history (fun pre s => FirstOccurrences (pre.flatMap occurs) (get s))
    (fun pre s b h => ?_) (hs ▸ .nil) xs
  rw [List.flatMap_append, List.flatMap_singleton, hstep]
  exact h.pushAll _

theorem head?_eq (h : FirstOccurrences source l) : l.head? = source.head? := by
  cases source with
  | nil =>
    have hnil : l = [] := List.eq_nil_iff_forall_not_mem.mpr fun a ha => by
      simpa using (h.mem a).mp ha
    rw [hnil]
  | cons a source =>
    cases l with
    | nil => exact absurd ((h.mem a).mpr List.mem_cons_self) List.not_mem_nil
    | cons b l =>
      have ha := (h.mem a).mpr List.mem_cons_self
      rcases List.mem_cons.mp ha with rfl | ha
      · rfl
      · have hlt := List.rel_of_pairwise_cons h.order ha
        simp at hlt

end FirstOccurrences

end Dipecs.Library
