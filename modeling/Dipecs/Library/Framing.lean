import Mathlib.Data.List.Basic

/-! Text records written without escapes: numbers in decimal, bytes in hexadecimal, and
fields that end at a character their contents cannot hold. -/

namespace Dipecs.Library.Framing

def decimal (n : Int) : List Char := (toString n).toList

theorem toDigits_injective : Function.Injective (Nat.toDigits 10) := by
  intro m n h
  rw [← Nat.ofDigitChars_ten_toDigits (n := m), h, Nat.ofDigitChars_ten_toDigits]

theorem decimal_eq (n : Int) :
    decimal n = if 0 ≤ n then Nat.toDigits 10 n.toNat else '-' :: Nat.toDigits 10 (-n).toNat := by
  rw [decimal, Int.toString_eq_repr, Int.repr_eq_if]
  split
  · exact Nat.toList_repr
  · rw [String.toList_append, Nat.toList_repr]
    rfl

theorem mem_decimal {n : Int} {c : Char} (h : c ∈ decimal n) : c = '-' ∨ c.isDigit = true := by
  rw [decimal_eq] at h
  split at h
  · exact .inr (Nat.isDigit_of_mem_toDigits (by decide) (by decide) h)
  · rcases List.mem_cons.mp h with h | h
    · exact .inl h
    · exact .inr (Nat.isDigit_of_mem_toDigits (by decide) (by decide) h)

theorem dash_notMem_toDigits (n : Nat) : '-' ∉ Nat.toDigits 10 n := by
  intro h
  have hdigit := Nat.isDigit_of_mem_toDigits (by decide) (by decide) h
  revert hdigit
  decide

theorem decimal_injective : Function.Injective decimal := by
  intro m n h
  rw [decimal_eq, decimal_eq] at h
  split at h
  · split at h
    · have := toDigits_injective h
      omega
    · exact absurd (h ▸ List.mem_cons_self) (dash_notMem_toDigits _)
  · split at h
    · exact absurd (h ▸ List.mem_cons_self) (dash_notMem_toDigits _)
    · have := toDigits_injective (List.cons.inj h).2
      omega

theorem newline_notMem_decimal (n : Int) : '\n' ∉ decimal n := by
  intro h
  rcases mem_decimal h with h | h <;> revert h <;> decide

theorem colon_notMem_decimal (n : Int) : ':' ∉ decimal n := by
  intro h
  rcases mem_decimal h with h | h <;> revert h <;> decide

theorem field_inj {α : Type} {d : α} {xs ys rest rest' : List α} (hx : d ∉ xs) (hy : d ∉ ys) :
    xs ++ d :: rest = ys ++ d :: rest' ↔ xs = ys ∧ rest = rest' := by
  constructor
  · intro h
    induction xs generalizing ys with
    | nil =>
      cases ys with
      | nil => exact ⟨rfl, (List.cons.inj h).2⟩
      | cons y ys =>
        rw [List.mem_cons, not_or] at hy
        exact absurd (List.cons.inj h).1 hy.1
    | cons x xs ih =>
      rw [List.mem_cons, not_or] at hx
      cases ys with
      | nil => exact absurd (List.cons.inj h).1.symm hx.1
      | cons y ys =>
        rw [List.mem_cons, not_or] at hy
        obtain ⟨hxy, hrest⟩ := List.cons.inj h
        obtain ⟨rfl, rfl⟩ := ih hx.2 hy.2 hrest
        exact ⟨by rw [hxy], rfl⟩
  · rintro ⟨rfl, rfl⟩
    rfl

theorem separated_inj {α : Type} {d : α} {sep xs ys rest rest' : List α}
    (hsep : sep.head? = some d) (hx : d ∉ xs) (hy : d ∉ ys) :
    xs ++ (sep ++ rest) = ys ++ (sep ++ rest') ↔ xs = ys ∧ rest = rest' := by
  obtain ⟨ds, rfl⟩ := List.head?_eq_some_iff.mp hsep
  rw [List.cons_append, List.cons_append, field_inj hx hy, List.append_cancel_left_eq]

theorem counted_inj {α β : Type} {f : α → List β} (hf : ∀ x, f x ≠ []) {xs ys rest rest' : List α}
    (h : xs ++ rest = ys ++ rest') (hlength : (xs.flatMap f).length = (ys.flatMap f).length) :
    xs = ys ∧ rest = rest' := by
  have hnil : ∀ l : List α, (l.flatMap f).length = 0 → l = [] := by
    intro l hl
    cases l with
    | nil => rfl
    | cons x l =>
      rw [List.flatMap_cons, List.length_append] at hl
      exact absurd (List.length_eq_zero_iff.mp (Nat.eq_zero_of_add_eq_zero_right hl)) (hf x)
  rcases List.append_eq_append_iff.mp h with ⟨l, rfl, hrest⟩ | ⟨l, rfl, hrest⟩
  · rw [List.flatMap_append, List.length_append] at hlength
    obtain rfl := hnil l (by omega)
    exact ⟨(List.append_nil _).symm, hrest⟩
  · rw [List.flatMap_append, List.length_append] at hlength
    obtain rfl := hnil l (by omega)
    exact ⟨List.append_nil _, hrest.symm⟩

def hexDigit (n : Nat) : Char := "0123456789abcdef".toList.getD n '0'

def hexByte (b : UInt8) : List Char := [hexDigit (b.toNat / 16), hexDigit (b.toNat % 16)]

def hex (bytes : List UInt8) : List Char := bytes.flatMap hexByte

theorem hexDigit_inj {m n : Nat} (hm : m < 16) (hn : n < 16) (h : hexDigit m = hexDigit n) :
    m = n := by
  have hall : ∀ m n : Fin 16, hexDigit m = hexDigit n → m = n := by decide
  exact congrArg Fin.val (hall ⟨m, hm⟩ ⟨n, hn⟩ h)

theorem hexByte_injective : Function.Injective hexByte := by
  intro a b h
  have ha := a.toNat_lt
  have hb := b.toNat_lt
  simp only [hexByte, List.cons.injEq, and_true] at h
  have hquot := hexDigit_inj (by omega) (by omega) h.1
  have hrem := hexDigit_inj (by omega) (by omega) h.2
  apply UInt8.toNat_inj.mp
  omega

theorem length_hex (bytes : List UInt8) : (hex bytes).length = 2 * bytes.length := by
  induction bytes with
  | nil => rfl
  | cons b bytes ih =>
    rw [hex, List.flatMap_cons, List.length_append, ← hex, ih, List.length_cons, Nat.mul_add,
      Nat.add_comm]
    rfl

theorem hex_injective : Function.Injective hex := by
  intro as bs h
  induction as generalizing bs with
  | nil =>
    cases bs with
    | nil => rfl
    | cons b bs => simp [hex, hexByte] at h
  | cons a as ih =>
    cases bs with
    | nil => simp [hex, hexByte] at h
    | cons b bs =>
      obtain ⟨hbyte, hrest⟩ := List.append_inj h rfl
      rw [hexByte_injective hbyte, ih hrest]

end Dipecs.Library.Framing
