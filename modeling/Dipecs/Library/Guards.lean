import Mathlib.Data.List.Basic

/-! Ordered guard chains.  A decision procedure that tries its conditions in a
fixed order and reports the first one that fails is a list of guards. -/

namespace Dipecs.Library

/-- A guard: does the condition hold, and what is reported when it does not. -/
abbrev Guard (ε : Type) := Bool × ε

def firstFailure {ε : Type} : List (Guard ε) → Option ε
  | [] => none
  | (ok, e) :: gs => if ok then firstFailure gs else some e

section
variable {ε : Type}

@[simp] theorem firstFailure_nil : firstFailure ([] : List (Guard ε)) = none := rfl

@[simp] theorem firstFailure_cons_true (e : ε) (gs : List (Guard ε)) :
    firstFailure ((true, e) :: gs) = firstFailure gs := rfl

@[simp] theorem firstFailure_cons_false (e : ε) (gs : List (Guard ε)) :
    firstFailure ((false, e) :: gs) = some e := rfl

theorem firstFailure_eq_none {gs : List (Guard ε)} :
    firstFailure gs = none ↔ ∀ g ∈ gs, g.1 = true := by
  induction gs with
  | nil => simp
  | cons g gs ih =>
    obtain ⟨ok, e⟩ := g
    cases ok <;> simp [ih]

end

end Dipecs.Library
