import Dipecs.Device.ActionSocketServer

/-! When an envelope is fresh, and what becomes of one that is issued for a minute. -/

namespace Dipecs.Device

open Dipecs.Library

/-- The times at which an envelope may be accepted. -/
def InWindow (issuedAtMs expiresAtMs now : I64) : Prop :=
  issuedAtMs.val - clockSkewMs ≤ now.val ∧ now.val ≤ expiresAtMs.val + clockSkewMs

instance (issuedAtMs expiresAtMs now : I64) : Decidable (InWindow issuedAtMs expiresAtMs now) :=
  inferInstanceAs (Decidable (_ ∧ _))

theorem BridgeExecuteProtocol.validateFreshnessWindow_eq_none {issuedAtMs expiresAtMs now : I64} :
    validateFreshnessWindow issuedAtMs expiresAtMs now = none ↔
      0 < issuedAtMs.val ∧ issuedAtMs.val < expiresAtMs.val ∧
      expiresAtMs.val - issuedAtMs.val ≤ maxTtlMs ∧
      InWindow issuedAtMs expiresAtMs now ∧ now.val + clockSkewMs < 2 ^ 63 := by
  obtain ⟨i, hi⟩ := issuedAtMs
  obtain ⟨e, he⟩ := expiresAtMs
  obtain ⟨n, hn⟩ := now
  have hspan := i64_cases (x := e - i) (by omega) (by omega)
  have hlater := i64_cases (x := n + clockSkewMs) (by unfold clockSkewMs; omega)
    (by unfold clockSkewMs; omega)
  have hearlier := i64_cases (x := n - clockSkewMs) (by unfold clockSkewMs; omega)
    (by unfold clockSkewMs; omega)
  simp only [validateFreshnessWindow, InWindow]
  split
  · simp only [reduceCtorEq, false_iff]
    omega
  · split
    · simp only [reduceCtorEq, false_iff]
      omega
    · split
      · simp only [reduceCtorEq, false_iff]
        unfold maxTtlMs clockSkewMs at *
        omega
      · simp only [true_iff]
        unfold maxTtlMs clockSkewMs at *
        omega

theorem BridgeExecuteProtocol.fresh_throughout_iff (issuedAtMs : I64) :
    (∀ now, InWindow issuedAtMs (I64.wrap (issuedAtMs.val + 60000)) now →
      validateFreshnessWindow issuedAtMs (I64.wrap (issuedAtMs.val + 60000)) now = none) ↔
    0 < issuedAtMs.val ∧ issuedAtMs.val ≤ 2 ^ 63 - 1 - 120000 ∨
      2 ^ 63 - 1 - 60000 < issuedAtMs.val := by
  obtain ⟨i, hi⟩ := issuedAtMs
  have hwrap := i64_cases (x := i + 60000) (by omega) (by omega)
  simp only [validateFreshnessWindow_eq_none, InWindow, I64.wrap, maxTtlMs, clockSkewMs]
  constructor
  · intro hfresh
    by_contra hnot
    have hnow := hfresh ⟨min (2 ^ 63 - 1) (i + 90000), by omega, by omega⟩
      (by dsimp only; omega)
    dsimp only at hnow
    omega
  · rintro hbound ⟨n, hn⟩ hin
    dsimp only at hin ⊢
    omega

theorem BridgeExecuteProtocol.fresh_iff (issuedAtMs expiresAtMs now : I64) :
    (if issuedAtMs.val ≤ 0 ∨ expiresAtMs.val ≤ 0 ∨ expiresAtMs.val ≤ issuedAtMs.val then false
      else if i64 (expiresAtMs.val - issuedAtMs.val) > maxTtlMs then false
      else decide (i64 (now.val + clockSkewMs) ≥ issuedAtMs.val ∧
        i64 (now.val - clockSkewMs) ≤ expiresAtMs.val)) = true ↔
      validateFreshnessWindow issuedAtMs expiresAtMs now = none := by
  rw [validateFreshnessWindow]
  split
  · simp
  · split
    · simp
    · rw [decide_eq_true_eq]
      split
      · simp only [reduceCtorEq, iff_false]
        omega
      · simp only [iff_true]
        omega

theorem AuthorizedActionSocketServer.hasFreshActionWindow_iff (rt : Runtime) (now : I64)
    (payload : JSONObject)
    (haction : (!JSONObject.has payload "action" || JSONObject.isNull payload "action") = false) :
    hasFreshActionWindow rt now payload = true ↔
      BridgeExecuteProtocol.validateFreshnessWindow (BridgeExecuteProtocol.issuedAt rt payload)
        (BridgeExecuteProtocol.expiresAt rt payload) now = none := by
  rw [hasFreshActionWindow, haction, if_neg Bool.false_ne_true]
  exact BridgeExecuteProtocol.fresh_iff _ _ _

end Dipecs.Device
