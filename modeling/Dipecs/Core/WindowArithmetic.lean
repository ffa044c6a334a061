import Dipecs.Core.ContextBuilder

/-! When the window's machine arithmetic is exact: the length of a window wraps as a 64-bit
product, the elapsed time of `close` as a 64-bit difference, and the duration is cut to 32 bits. -/

namespace Dipecs.Core.WindowAggregator

open Dipecs.Spec Dipecs.Library

theorem windowMs_eq (windowSecs : UInt64) :
    (windowSecs * 1000).toInt64.toInt = i64 (windowSecs.toNat * 1000) := by
  have hthousand : (1000 : UInt64).toNat = 1000 := rfl
  have hcast : ((windowSecs.toNat * 1000 % 2 ^ 64 : Nat) : Int) =
      (windowSecs.toNat * 1000 : Int) % (2 ^ 64 : Nat) := by
    rw [Int.natCast_mod, Int.natCast_mul]
    rfl
  rw [Int64.toInt, UInt64.toBitVec_toInt64, BitVec.toInt_eq_toNat_bmod, UInt64.toNat_toBitVec,
    UInt64.toNat_mul, hthousand, hcast]
  exact Int.emod_bmod _ _

/-- The time of a window is over in exact arithmetic. -/
def Expired (w : WindowAggregator) (nowMs : Int) : Prop :=
  w.windowSecs.toNat * 1000 ≤ nowMs - w.windowStartMs

/-- Nothing overflows when the window is closed, and its duration is the time elapsed. -/
def ClosesExactly (w : WindowAggregator) (nowMs : Int) (draw : WindowDraw) : Prop :=
  ∀ context ∈ (w.close nowMs draw).1,
    (-2 ^ 63 ≤ nowMs - w.windowStartMs ∧ nowMs - w.windowStartMs < 2 ^ 63) ∧
      (context.durationSecs.toNat : Int) = max (nowMs - w.windowStartMs) 0 / 1000

/-- What `is_expired` tells of the times of a window is what exact arithmetic tells. -/
def ExpiresExactly (windowSecs : UInt64) : Prop :=
  ∀ (buffer : List SanitizedEvent) (windowStartMs nowMs : I64),
    isExpired ⟨buffer, windowSecs, windowStartMs⟩ nowMs = true ↔
      Expired ⟨buffer, windowSecs, windowStartMs⟩ nowMs

theorem isExpired_iff {w : WindowAggregator} (hfits : w.windowSecs.toNat * 1000 < 2 ^ 63)
    (nowMs : Int) : w.isExpired nowMs = true ↔ w.Expired nowMs := by
  unfold isExpired Expired satSub
  rw [windowMs_eq, decide_eq_true_eq, ge_iff_le, i64_of_range (by omega) (by omega)]
  omega

/-- A length of 2^63 ms or more wraps to one that 2^63 - 1 ms always reach. -/
theorem isExpired_of_overflow {w : WindowAggregator} (h : 2 ^ 63 ≤ w.windowSecs.toNat * 1000)
    {nowMs : Int} (helapsed : nowMs - w.windowStartMs = 2 ^ 63 - 1) :
    w.isExpired nowMs = true ∧ ¬w.Expired nowMs := by
  unfold isExpired Expired satSub
  rw [windowMs_eq, decide_eq_true_eq, ge_iff_le, helapsed]
  have hrange := i64_range (w.windowSecs.toNat * 1000)
  omega

theorem expiresExactly_iff (windowSecs : UInt64) :
    ExpiresExactly windowSecs ↔ windowSecs.toNat * 1000 < 2 ^ 63 := by
  constructor
  · intro h
    by_contra hlong
    have helapsed : (I64.wrap (2 ^ 63 - 1) - I64.wrap 0 : Int) = 2 ^ 63 - 1 := by decide
    obtain ⟨hexpired, hnot⟩ := isExpired_of_overflow (w := ⟨[], windowSecs, I64.wrap 0⟩)
      (Nat.le_of_not_lt hlong) helapsed
    exact hnot ((h [] (I64.wrap 0) (I64.wrap (2 ^ 63 - 1))).mp hexpired)
  · intro hfits buffer windowStartMs nowMs
    exact isExpired_iff (w := ⟨buffer, windowSecs, windowStartMs⟩) hfits nowMs

theorem closesExactly_iff {w : WindowAggregator} (hbuffer : w.buffer ≠ []) (nowMs : Int)
    (draw : WindowDraw) :
    w.ClosesExactly nowMs draw ↔
      -2 ^ 63 ≤ nowMs - w.windowStartMs ∧ nowMs - w.windowStartMs < 2 ^ 32 * 1000 := by
  unfold ClosesExactly
  rw [close_of_nonempty hbuffer]
  simp only [Option.mem_def, Option.some.injEq, forall_eq', context]
  constructor
  · rintro ⟨hrange, hduration⟩
    rw [i64_of_range hrange.1 hrange.2] at hduration
    have hlt := (UInt32.ofNat (max (nowMs - w.windowStartMs) 0 / 1000).toNat).toNat_lt
    omega
  · intro h
    have hrange : nowMs - w.windowStartMs < 2 ^ 63 := by omega
    have hsecs : (max (nowMs - w.windowStartMs) 0 / 1000).toNat < 2 ^ 32 := by omega
    refine ⟨⟨h.1, hrange⟩, ?_⟩
    rw [i64_of_range h.1 hrange, UInt32.toNat_ofNat_of_lt' hsecs]
    omega

/-- The expiry of a length is exact at all times exactly when the length fits, and closing is
exact exactly when, if there is anything to close, the time elapsed fits. -/
theorem arithmeticExact_iff (windowSecs : UInt64) :
    (ExpiresExactly windowSecs ↔ windowSecs.toNat * 1000 < 2 ^ 63) ∧
    ∀ (buffer : List SanitizedEvent) (windowStartMs nowMs : I64) (draw : WindowDraw),
      ClosesExactly ⟨buffer, windowSecs, windowStartMs⟩ nowMs draw ↔
        (buffer = [] ∨ -2 ^ 63 ≤ (nowMs - windowStartMs : Int) ∧
          (nowMs - windowStartMs : Int) < 2 ^ 32 * 1000) := by
  refine ⟨expiresExactly_iff windowSecs, fun buffer windowStartMs nowMs draw => ?_⟩
  by_cases hbuffer : buffer = []
  · subst hbuffer
    have hnone : ClosesExactly ⟨[], windowSecs, windowStartMs⟩ nowMs draw := by
      intro context hmem
      cases hmem
    simp [hnone]
  · rw [closesExactly_iff hbuffer, or_iff_right hbuffer]

/-- Two lines of a trace lie 2^63 ms apart; a window of 2^61 s is over at once. -/
theorem arithmetic_overflows :
    ¬ClosesExactly ⟨[⟨"e1", 0, .screen .interactive, .publicApi, none, none⟩], 10,
      -9223372036854775808⟩ 0 ⟨"w1", .id⟩ ∧
    isExpired ⟨[], 2305843009213693952, 0⟩ 1 = true ∧
    ¬Expired ⟨[], 2305843009213693952, 0⟩ 1 := by
  refine ⟨fun h => ?_, by decide, by unfold Expired; decide⟩
  exact absurd ((closesExactly_iff (by simp) _ _).mp h).2 (by decide)

end Dipecs.Core.WindowAggregator
