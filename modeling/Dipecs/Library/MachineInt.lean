import Mathlib.Algebra.Group.Int.Defs
import Mathlib.Algebra.Group.Nat.Defs
import Mathlib.Algebra.GroupWithZero.Nat
import Mathlib.Data.Int.Init

/-! Fixed-width integers of the release build: signed 64-bit values are `Int`s, and an
operation on them wraps or saturates as the source says. -/

namespace Dipecs.Library

def i64 (x : Int) : Int := x.bmod (2 ^ 64)

theorem i64_range (x : Int) : -2 ^ 63 ≤ i64 x ∧ i64 x < 2 ^ 63 := by
  have hle := Int.le_bmod (x := x) (m := 2 ^ 64) (by decide)
  have hlt := Int.bmod_lt (x := x) (m := 2 ^ 64) (by decide)
  unfold i64
  omega

abbrev I64 := { n : Int // -2 ^ 63 ≤ n ∧ n < 2 ^ 63 }

def I64.wrap (x : Int) : I64 := ⟨i64 x, i64_range x⟩

def satSub (a b : Int) : Int := max (-2 ^ 63) (min (2 ^ 63 - 1) (a - b))

def satSucc8 (x : UInt8) : UInt8 := if x = 255 then 255 else x + 1

def satSucc32 (x : UInt32) : UInt32 := if x = 4294967295 then 4294967295 else x + 1

def sum32 (l : List UInt32) : UInt32 := l.foldl (· + ·) 0

theorem sum32_map_ofNat (l : List Nat) : sum32 (l.map UInt32.ofNat) = UInt32.ofNat l.sum := by
  have hfold : ∀ (l : List Nat) (n : Nat),
      (l.map UInt32.ofNat).foldl (· + ·) (UInt32.ofNat n) = UInt32.ofNat (n + l.sum) := by
    intro l
    induction l with
    | nil => simp
    | cons a l ih =>
      intro n
      rw [List.map_cons, List.foldl_cons, ← UInt32.ofNat_add, ih, List.sum_cons, Nat.add_assoc]
  exact (hfold l 0).trans (by rw [Nat.zero_add])

theorem satSucc8_toNat {x : UInt8} (h : x.toNat < 255) : (satSucc8 x).toNat = x.toNat + 1 := by
  have hx : x ≠ 255 := by
    rintro rfl
    exact absurd h (by decide)
  rw [satSucc8, if_neg hx, UInt8.toNat_add]
  exact Nat.mod_eq_of_lt (by simpa using Nat.succ_lt_succ h)

theorem lt_satSucc8 {horizon age : UInt8} (hle : horizon ≤ age) (hlt : horizon < 255) :
    horizon < satSucc8 age := by
  unfold satSucc8
  split
  · exact hlt
  · rw [UInt8.lt_iff_toNat_lt, UInt8.toNat_add]
    have hage : age.toNat ≠ 255 := fun h => ‹¬age = 255› (UInt8.toNat.inj h)
    have hbound := age.toNat_lt
    have hle := UInt8.le_iff_toNat_le.mp hle
    change horizon.toNat < (age.toNat + 1) % 256
    omega

theorem le_satSucc32 (n : UInt32) : n ≤ satSucc32 n := by
  unfold satSucc32
  split
  · subst n
    exact UInt32.le_refl _
  · have hn : n.toNat ≠ 4294967295 := fun h => ‹¬n = 4294967295› (UInt32.toNat.inj h)
    have hbound := n.toNat_lt
    rw [UInt32.le_iff_toNat_le, UInt32.toNat_add]
    change n.toNat ≤ (n.toNat + 1) % 4294967296
    omega

theorem toNat_satSucc32 (n : UInt32) : (satSucc32 n).toNat = min (n.toNat + 1) (2 ^ 32 - 1) := by
  have hbound := n.toNat_lt
  unfold satSucc32
  split
  · subst n
    rfl
  · have hn : n.toNat ≠ 4294967295 := fun h => ‹¬n = 4294967295› (UInt32.toNat.inj h)
    rw [UInt32.toNat_add]
    change (n.toNat + 1) % 4294967296 = _
    omega

theorem toNat_ofNat_of_le {n : Nat} {x : UInt8} (h : n ≤ x.toNat) : (UInt8.ofNat n).toNat = n :=
  UInt8.toNat_ofNat_of_lt' (Nat.lt_of_le_of_lt h x.toNat_lt)

theorem i64_of_range {x : Int} (h : -2 ^ 63 ≤ x) (h' : x < 2 ^ 63) : i64 x = x := by
  unfold i64
  exact Int.bmod_eq_of_le (by omega) (by omega)

theorem i64_cases {x : Int} (h : -2 ^ 64 ≤ x) (h' : x < 2 ^ 64) :
    (-2 ^ 63 ≤ x ∧ x < 2 ^ 63 ∧ i64 x = x) ∨ (2 ^ 63 ≤ x ∧ i64 x = x - 2 ^ 64) ∨
      (x < -2 ^ 63 ∧ i64 x = x + 2 ^ 64) := by
  simp only [i64, Int.bmod]
  split <;> omega

end Dipecs.Library
