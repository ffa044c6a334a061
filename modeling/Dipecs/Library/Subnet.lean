import Mathlib.Algebra.Group.Nat.Defs
import Mathlib.Data.List.Induction

/-! Blocks of network addresses: the addresses of one size whose first bits are given. -/

namespace Dipecs.Library

def bigEndian (bytes : List UInt8) : Nat := bytes.foldl (fun n b => n * 256 + b.toNat) 0

theorem bigEndian_concat (bytes : List UInt8) (b : UInt8) :
    bigEndian (bytes ++ [b]) = bigEndian bytes * 256 + b.toNat := by
  rw [bigEndian, List.foldl_append]
  rfl

@[simp] theorem bigEndian_nil : bigEndian [] = 0 := rfl

@[simp] theorem bigEndian_one (b : UInt8) : bigEndian [b] = b.toNat := by simp [bigEndian]

@[simp] theorem bigEndian_two (a b : UInt8) : bigEndian [a, b] = a.toNat * 256 + b.toNat := by
  simp [bigEndian]

theorem bigEndian_eq_zero_iff (bytes : List UInt8) :
    bigEndian bytes = 0 ↔ bytes.all (· == 0) = true := by
  induction bytes using List.reverseRecOn with
  | nil => simp
  | append_singleton bytes b ih =>
    rw [bigEndian_concat, List.all_append, Bool.and_eq_true, ← ih]
    have hzero : b.toNat = 0 ↔ b = 0 := UInt8.toNat_inj (b := 0)
    simp only [List.all_cons, List.all_nil, Bool.and_true, beq_iff_eq, ← hzero]
    omega

theorem bigEndian_eq_one_iff (bytes : List UInt8) :
    bigEndian bytes = 1 ↔
      (bytes.dropLast.all (· == 0) && bytes.getLast? == some 1) = true := by
  induction bytes using List.reverseRecOn with
  | nil => simp
  | append_singleton bytes b _ =>
    have hone : b.toNat = 1 ↔ b = 1 := UInt8.toNat_inj (b := 1)
    rw [bigEndian_concat, List.dropLast_concat, List.getLast?_concat, Bool.and_eq_true,
      ← bigEndian_eq_zero_iff, beq_iff_eq, Option.some_inj, ← hone]
    omega

/-- The addresses of `size` bytes whose first `len` bits are those of `front`. -/
structure Subnet where
  size : Nat
  front : List UInt8
  len : Nat
  deriving DecidableEq

namespace Subnet

def Contains (s : Subnet) (address : List UInt8) : Prop :=
  address.length = s.size ∧
    bigEndian (address.take s.front.length) / 2 ^ (8 * s.front.length - s.len) =
      bigEndian s.front / 2 ^ (8 * s.front.length - s.len)

instance (s : Subnet) (address : List UInt8) : Decidable (s.Contains address) :=
  inferInstanceAs (Decidable (_ ∧ _))

end Subnet

end Dipecs.Library
