import Mathlib.Data.List.Chain
import Mathlib.Order.Lattice

/-! Windows driven by the times of the items they collect: an item that comes `span` or more
after the start of the open window closes it, and opens the next. -/

namespace Dipecs.Library

structure Window (τ α : Type) where
  start : τ
  finish : τ
  items : List (τ × α)

namespace Windowing

variable {τ α : Type} [LinearOrder τ] [Add τ]

/-- The windows from the open one on, the last of which is closed at `finish`. -/
def windowsFrom (span finish start : τ) (items : List (τ × α)) :
    List (τ × α) → List (Window τ α)
  | [] => [⟨start, finish, items⟩]
  | x :: xs =>
    if start + span ≤ x.1 then ⟨start, x.1, items⟩ :: windowsFrom span finish x.1 [x] xs
    else windowsFrom span finish start (items ++ [x]) xs

def windows (span finish : τ) : List (τ × α) → List (Window τ α)
  | [] => []
  | x :: xs => windowsFrom span finish x.1 [x] xs

variable {span finish : τ}

theorem windowsFrom_items (start : τ) (items xs : List (τ × α)) :
    (windowsFrom span finish start items xs).flatMap Window.items = items ++ xs := by
  induction xs generalizing start items with
  | nil => simp [windowsFrom]
  | cons x xs ih =>
    rw [windowsFrom]
    split
    · rw [List.flatMap_cons, ih, List.singleton_append]
    · rw [ih, List.append_assoc, List.singleton_append]

theorem windowsFrom_head (span finish start : τ) (items xs : List (τ × α)) :
    ∃ w ws, windowsFrom span finish start items xs = w :: ws ∧ w.start = start := by
  induction xs generalizing items with
  | nil => exact ⟨_, _, rfl, rfl⟩
  | cons x xs ih =>
    rw [windowsFrom]
    split
    · exact ⟨_, _, rfl, rfl⟩
    · exact ih _

theorem windowsFrom_chain (start : τ) (items xs : List (τ × α)) :
    (windowsFrom span finish start items xs).IsChain fun w w' => w'.start = w.finish := by
  induction xs generalizing start items with
  | nil => exact .singleton _
  | cons x xs ih =>
    rw [windowsFrom]
    split
    · refine (ih _ _).cons fun w hw => ?_
      obtain ⟨w', ws, hws, hstart⟩ := windowsFrom_head span finish x.1 [x] xs
      rw [hws] at hw
      obtain rfl := Option.some.inj hw
      exact hstart
    · exact ih _ _

theorem windowsFrom_span (start : τ) (items xs : List (τ × α)) :
    ∀ w ∈ (windowsFrom span finish start items xs).dropLast, w.start + span ≤ w.finish := by
  induction xs generalizing start items with
  | nil => simp [windowsFrom]
  | cons x xs ih =>
    rw [windowsFrom]
    split
    · obtain ⟨w', ws, hws, -⟩ := windowsFrom_head span finish x.1 [x] xs
      rw [hws, List.dropLast_cons_cons, ← hws, List.forall_mem_cons]
      exact ⟨‹_›, ih _ _⟩
    · exact ih _ _

theorem windowsFrom_within (hspan : ∀ t : τ, t < t + span) {start : τ}
    {items : List (τ × α)} (hitems : ∀ x ∈ items, x.1 < start + span) (xs : List (τ × α)) :
    ∀ w ∈ windowsFrom span finish start items xs, ∀ x ∈ w.items, x.1 < w.start + span := by
  induction xs generalizing start items with
  | nil => simpa [windowsFrom] using hitems
  | cons x xs ih =>
    rw [windowsFrom]
    split
    · rw [List.forall_mem_cons]
      refine ⟨hitems, ih fun y hy => ?_⟩
      rw [List.mem_singleton.mp hy]
      exact hspan _
    · refine ih fun y hy => ?_
      rcases List.mem_append.mp hy with hy | hy
      · exact hitems y hy
      · rw [List.mem_singleton.mp hy]
        exact lt_of_not_ge ‹_›

/-! ### From the first item -/

theorem windows_items (xs : List (τ × α)) :
    (windows span finish xs).flatMap Window.items = xs := by
  cases xs with
  | nil => rfl
  | cons x xs => exact windowsFrom_items _ _ _

theorem windows_chain (xs : List (τ × α)) :
    (windows span finish xs).IsChain fun w w' => w'.start = w.finish := by
  cases xs with
  | nil => exact .nil
  | cons x xs => exact windowsFrom_chain _ _ _

theorem windows_span (xs : List (τ × α)) :
    ∀ w ∈ (windows span finish xs).dropLast, w.start + span ≤ w.finish := by
  cases xs with
  | nil => simp [windows]
  | cons x xs => exact windowsFrom_span _ _ _

theorem windows_within (hspan : ∀ t : τ, t < t + span) (xs : List (τ × α)) :
    ∀ w ∈ windows span finish xs, ∀ x ∈ w.items, x.1 < w.start + span := by
  cases xs with
  | nil => simp [windows]
  | cons x xs =>
    refine windowsFrom_within hspan (fun y hy => ?_) xs
    rw [List.mem_singleton.mp hy]
    exact hspan _

end Windowing

end Dipecs.Library
