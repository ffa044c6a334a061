import Dipecs.Library.Machine
import Mathlib.Algebra.GroupWithZero.Nat

/-! Machines whose steps may be refused, and how many steps of a kind a run can have. -/

namespace Dipecs.Library

/-- A machine in which an input that is not enabled leaves everything as it is. -/
def Machine.guarded {σ ι ο : Type} (advance : σ → ι → Option (σ × List ο)) : Machine σ ι ο :=
  ⟨fun s x => (advance s x).getD (s, [])⟩

theorem Machine.guarded_step {σ ι ο : Type} {advance : σ → ι → Option (σ × List ο)} {s s' : σ}
    {x : ι} {out : List ο} (h : advance s x = some (s', out)) :
    (guarded advance).step s x = (s', out) := by
  simp [guarded, h]

namespace Machine

variable {σ ι ο : Type} {m : Machine σ ι ο}

theorem along_append {ok : σ → ι → Prop} {s : σ} {xs ys : List ι} :
    m.Along ok s (xs ++ ys) ↔ m.Along ok s xs ∧ m.Along ok (m.run s xs).1 ys := by
  induction xs generalizing s with
  | nil => exact (iff_of_eq (true_and _)).symm
  | cons x xs ih =>
    rw [List.cons_append, run_cons]
    exact (and_congr_right fun _ => ih).trans and_assoc.symm

/-- Work rule: if every counted step uses up a unit of work and no step makes more work than
it brings, a run has no more counted steps than there was work to do. -/
theorem countP_add_work_le {Inv : σ → Prop} {ok : σ → ι → Prop} (counted : ι → Bool)
    (work : σ → Nat) (brings : ι → Nat)
    (hstep : ∀ s x, Inv s → ok s x → Inv (m.step s x).1 ∧
      work (m.step s x).1 + (counted x).toNat ≤ work s + brings x)
    {s : σ} (h : Inv s) {xs : List ι} (hxs : m.Along ok s xs) :
    xs.countP counted + work (m.run s xs).1 ≤ work s + (xs.map brings).sum := by
  induction xs generalizing s with
  | nil => simp
  | cons x xs ih =>
    obtain ⟨hnext, hwork⟩ := hstep s x h hxs.1
    have hrest := ih hnext hxs.2
    rw [run_cons, List.countP_cons, List.map_cons, List.sum_cons]
    have hcounted : (if counted x = true then 1 else 0) = (counted x).toNat := by
      cases counted x <;> rfl
    rw [hcounted]
    dsimp only at hrest ⊢
    omega

theorem countP_le_work {Inv : σ → Prop} {ok : σ → ι → Prop} (counted : ι → Bool)
    (work : σ → Nat)
    (hstep : ∀ s x, Inv s → ok s x → Inv (m.step s x).1 ∧
      work (m.step s x).1 + (counted x).toNat ≤ work s)
    {s : σ} (h : Inv s) {xs : List ι} (hxs : m.Along ok s xs) : xs.countP counted ≤ work s := by
  have hbrings : ∀ l : List ι, (l.map fun _ => 0).sum = 0 := by
    intro l
    induction l with
    | nil => rfl
    | cons x l ih => exact (Nat.zero_add _).trans ih
  have := countP_add_work_le counted work (fun _ => 0) hstep h hxs
  rw [hbrings] at this
  omega

end Machine

end Dipecs.Library
