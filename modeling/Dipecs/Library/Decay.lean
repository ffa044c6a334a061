import Mathlib.Algebra.Order.Field.Basic
import Mathlib.Tactic.FieldSimp
import Mathlib.Tactic.Linarith
import Mathlib.Tactic.Ring

/-! Sums in which what came earlier counts less, and what a tally that loses a little at every
decay can be behind by. -/

namespace Dipecs.Library

variable {K : Type} [Field K]

/-- Each amount, times one factor for every amount after it. -/
def decayedSum (d : K) : List K → K
  | [] => 0
  | a :: l => a * d ^ l.length + decayedSum d l

@[simp] theorem decayedSum_nil (d : K) : decayedSum d [] = 0 := rfl

theorem decayedSum_concat (d : K) (l : List K) (a : K) :
    decayedSum d (l ++ [a]) = d * decayedSum d l + a := by
  induction l with
  | nil => simp [decayedSum]
  | cons b l ih =>
    rw [List.cons_append, decayedSum, decayedSum, ih, List.length_append, List.length_singleton,
      pow_succ]
    ring

variable [LinearOrder K] [IsStrictOrderedRing K]

/-- `v` is behind `e` by at most what losing `δ` at every decay adds up to. -/
structure Lags (d δ v e : K) : Prop where
  le : v ≤ e
  ge : e ≤ v + δ / (1 - d)

namespace Lags
variable {d δ v w e : K}

theorem refl (hδ : 0 ≤ δ) (hd : d < 1) (v : K) : Lags d δ v v :=
  ⟨le_refl _, le_add_of_nonneg_right (div_nonneg hδ (sub_pos.mpr hd).le)⟩

theorem add (h : Lags d δ v e) (a : K) : Lags d δ (v + a) (e + a) := by
  refine ⟨add_le_add_left h.le a, ?_⟩
  have := h.ge
  linarith

theorem decay (h : Lags d δ v e) (hd : 0 ≤ d) (hd' : d < 1) (hle : w ≤ d * v)
    (hlost : d * v ≤ w + δ) : Lags d δ w (d * e) := by
  have hpos : 0 < 1 - d := sub_pos.mpr hd'
  have hsum : d * (δ / (1 - d)) + δ = δ / (1 - d) := by
    field_simp
    ring
  constructor
  · exact hle.trans (mul_le_mul_of_nonneg_left h.le hd)
  · have hge := mul_le_mul_of_nonneg_left h.ge hd
    rw [mul_add] at hge
    linarith

end Lags

end Dipecs.Library
