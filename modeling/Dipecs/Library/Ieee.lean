import Mathlib.Data.Rat.Defs
import Mathlib.Algebra.Order.Ring.Rat
import Mathlib.Algebra.Order.Group.Unbundled.Abs

/-! The data of an IEEE binary format.  A finite datum is its exact value, zeros with either
sign being one; the format itself is the rounding of an exact result. -/

namespace Dipecs.Library

inductive Ieee
  | nan
  | infinite (negative : Bool)
  | finite (value : ℚ)
  deriving DecidableEq

namespace Ieee

def isNan : Ieee → Bool
  | .nan => true
  | _ => false

def isFinite : Ieee → Bool
  | .finite _ => true
  | _ => false

def eq (x y : Ieee) : Bool := !x.isNan && decide (x = y)

def lt : Ieee → Ieee → Bool
  | .finite x, .finite y => decide (x < y)
  | .finite _, .infinite negative => !negative
  | .infinite negative, .finite _ => negative
  | .infinite negative, .infinite negative' => negative && !negative'
  | _, _ => false

def le (x y : Ieee) : Bool := x.lt y || x.eq y

def abs : Ieee → Ieee
  | .nan => .nan
  | .infinite _ => .infinite false
  | .finite x => .finite |x|

/-- Rounding to a format, which may overflow but keeps zero. -/
structure Rounding where
  round : ℚ → Ieee
  isNan_round : ∀ x, (round x).isNan = false
  round_zero : round 0 = .finite 0

/-- A format wide enough for every value. -/
def Rounding.exact : Rounding := ⟨.finite, fun _ => rfl, rfl⟩

def sub (ρ : Rounding) : Ieee → Ieee → Ieee
  | .nan, _ => .nan
  | _, .nan => .nan
  | .infinite negative, .infinite negative' =>
    if negative = negative' then .nan else .infinite negative
  | .infinite negative, .finite _ => .infinite negative
  | .finite _, .infinite negative => .infinite !negative
  | .finite x, .finite y => ρ.round (x - y)

@[simp] theorem isNan_abs (x : Ieee) : x.abs.isNan = x.isNan := by cases x <;> rfl

theorem eq_iff {x y : Ieee} : x.eq y ↔ x.isNan = false ∧ x = y := by
  simp [eq]

@[simp] theorem lt_nan (x : Ieee) : x.lt .nan = false := by cases x <;> rfl

@[simp] theorem nan_lt (x : Ieee) : nan.lt x = false := by cases x <;> rfl

theorem not_lt_self (x : Ieee) : x.lt x = false := by
  cases x with
  | nan => rfl
  | infinite negative => cases negative <;> rfl
  | finite x => simp [lt]

theorem lt_asymm {x y : Ieee} (h : x.lt y) : y.lt x = false := by
  cases x with
  | nan => simp at h
  | infinite s =>
    cases y with
    | nan => simp at h
    | infinite t => cases s <;> cases t <;> simp_all [lt]
    | finite y => simpa [lt] using h
  | finite x =>
    cases y with
    | nan => simp at h
    | infinite t => simpa [lt] using h
    | finite y =>
      have hxy : x < y := by simpa [lt] using h
      simpa [lt] using hxy.le

theorem not_lt_of_le {x y : Ieee} (h : x.le y) : y.lt x = false := by
  rcases Bool.or_eq_true_iff.mp h with hlt | heq
  · exact lt_asymm hlt
  · obtain ⟨-, rfl⟩ := eq_iff.mp heq
    exact not_lt_self x

theorem isNan_of_le {x y : Ieee} (h : x.le y) : x.isNan = false := by
  cases x with
  | nan => cases y <;> simp [le, lt, eq, isNan] at h
  | infinite | finite => rfl

theorem le_or_lt {x y : Ieee} (hx : x.isNan = false) (hy : y.isNan = false) : x.le y ∨ y.lt x := by
  cases x with
  | nan => simp [isNan] at hx
  | infinite s =>
    cases y with
    | nan => simp [isNan] at hy
    | infinite t => cases s <;> cases t <;> simp [le, lt, eq, isNan]
    | finite y => cases s <;> simp [le, lt]
  | finite x =>
    cases y with
    | nan => simp [isNan] at hy
    | infinite t => cases t <;> simp [le, lt]
    | finite y =>
      rcases lt_trichotomy x y with h | rfl | h
      · exact .inl (by simp [le, lt, h])
      · exact .inl (by simp [le, eq, isNan])
      · exact .inr (by simp [lt, h])

theorem isNan_sub {ρ : Rounding} {x y : Ieee} (h : (x.sub ρ y).isNan) :
    x.isNan ∨ y.isNan ∨ x = y := by
  cases x with
  | nan => exact .inl rfl
  | infinite s =>
    cases y with
    | nan => exact .inr (.inl rfl)
    | infinite t =>
      by_cases hst : s = t
      · exact .inr (.inr (congrArg _ hst))
      · simp [sub, hst, isNan] at h
    | finite y => cases h
  | finite x =>
    cases y with
    | nan => exact .inr (.inl rfl)
    | infinite t => cases h
    | finite y => simp [sub, ρ.isNan_round] at h

@[simp] theorem sub_nan (ρ : Rounding) (x : Ieee) : x.sub ρ .nan = .nan := by cases x <;> rfl

@[simp] theorem nan_sub (ρ : Rounding) (x : Ieee) : nan.sub ρ x = .nan := rfl

theorem sub_self (ρ : Rounding) (x : Ieee) : (x.sub ρ x).isNan ∨ x.sub ρ x = .finite 0 := by
  cases x with
  | nan => exact .inl rfl
  | infinite s => exact .inl (by simp [sub, isNan])
  | finite x => exact .inr (by rw [sub, Rat.sub_self, ρ.round_zero])

/-! Closeness up to a tolerance.  Comparing for excess is not the negation of comparing for
closeness: both are false of `nan`. -/

section
variable (ρ : Rounding) (ε : Ieee)

def apart (x y : Ieee) : Bool := ε.lt (x.sub ρ y).abs

def within (x y : Ieee) : Bool := x.eq y || (x.sub ρ y).abs.le ε

variable {ρ ε} {x y : Ieee}

theorem apart_of_isNan (h : x.isNan ∨ y.isNan) : apart ρ ε x y = false := by
  have hsub : x.sub ρ y = .nan := by
    cases x <;> cases y <;> simp_all [isNan]
  rw [apart, hsub]
  exact lt_nan ε

theorem number_of_within (h : within ρ ε x y) : x.isNan = false ∧ y.isNan = false := by
  rcases Bool.or_eq_true_iff.mp h with heq | hle
  · obtain ⟨hx, rfl⟩ := eq_iff.mp heq
    exact ⟨hx, hx⟩
  · have hnumber := isNan_of_le hle
    rw [isNan_abs] at hnumber
    cases x <;> cases y <;> simp_all [isNan]

theorem not_apart_of_within (hε : ε.lt (.finite 0) = false) (h : within ρ ε x y) :
    apart ρ ε x y = false := by
  rcases Bool.or_eq_true_iff.mp h with heq | hle
  · obtain ⟨-, rfl⟩ := eq_iff.mp heq
    rcases sub_self ρ x with hnan | hzero
    · rw [apart]
      cases hsub : x.sub ρ x with
      | nan => exact lt_nan ε
      | infinite | finite => simp [hsub, isNan] at hnan
    · rw [apart, hzero, abs, abs_zero]
      exact hε
  · exact not_lt_of_le hle

theorem within_of_not_apart (hε : ε.isNan = false) (hx : x.isNan = false) (hy : y.isNan = false)
    (h : apart ρ ε x y = false) : within ρ ε x y := by
  rw [within, Bool.or_eq_true_iff, eq_iff]
  by_cases hsub : (x.sub ρ y).isNan
  · rcases isNan_sub hsub with hnan | hnan | heq
    · simp [hx] at hnan
    · simp [hy] at hnan
    · exact .inl ⟨hx, heq⟩
  · have hnumber : (x.sub ρ y).abs.isNan = false := by simpa using hsub
    rcases le_or_lt hnumber hε with hle | hlt
    · exact .inr hle
    · rw [apart, hlt] at h
      cases h

end

/-! The operators of a format wide enough for every value, in which a zero divisor is positive. -/

def negative : Ieee → Bool
  | .nan => false
  | .infinite negative => negative
  | .finite x => decide (x < 0)

def neg : Ieee → Ieee
  | .nan => .nan
  | .infinite negative => .infinite !negative
  | .finite x => .finite (-x)

def mul : Ieee → Ieee → Ieee
  | .nan, _ => .nan
  | _, .nan => .nan
  | .finite x, .finite y => .finite (x * y)
  | x, y =>
    if x = .finite 0 ∨ y = .finite 0 then .nan else .infinite (x.negative != y.negative)

def div : Ieee → Ieee → Ieee
  | .nan, _ => .nan
  | _, .nan => .nan
  | .infinite _, .infinite _ => .nan
  | .finite _, .infinite _ => .finite 0
  | .infinite negative, y => .infinite (negative != y.negative)
  | .finite x, .finite y =>
    if y ≠ 0 then .finite (x / y) else if x = 0 then .nan else .infinite (x < 0)

instance : LE Ieee := ⟨fun x y => x.le y⟩
instance : LT Ieee := ⟨fun x y => x.lt y⟩
instance : DecidableLE Ieee := fun x y => inferInstanceAs (Decidable (x.le y = true))
instance : DecidableLT Ieee := fun x y => inferInstanceAs (Decidable (x.lt y = true))
instance : Neg Ieee := ⟨neg⟩
instance : Sub Ieee := ⟨sub .exact⟩
instance : Add Ieee := ⟨fun x y => x - -y⟩
instance : Mul Ieee := ⟨mul⟩
instance : Div Ieee := ⟨div⟩
instance : NatCast Ieee := ⟨fun n => .finite n⟩
instance : OfScientific Ieee := ⟨fun m s e => .finite (OfScientific.ofScientific m s e)⟩

end Ieee

end Dipecs.Library
