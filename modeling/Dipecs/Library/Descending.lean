import Mathlib.Data.List.Basic
import Mathlib.Order.Defs.LinearOrder

/-! Lists in descending order of a key, and lists put together from elements that are there or
not. -/

namespace Dipecs.Library

variable {α F : Type}

def Descending [LE F] (key : α → F) (l : List α) : Prop := l.Pairwise fun a b => key b ≤ key a

section
variable [LE F] {key : α → F}

theorem descending_map {β : Type} {f : β → α} {l : List β} :
    Descending key (l.map f) ↔ Descending (fun b => key (f b)) l := List.pairwise_map

theorem descending_iff_keys {l : List α} : Descending key l ↔ Descending id (l.map key) := by
  rw [descending_map]
  rfl

theorem descending_congr {β : Type} {key' : β → F} {l : List α} {l' : List β}
    (h : l.map key = l'.map key') : Descending key l ↔ Descending key' l' := by
  rw [descending_iff_keys, h, ← descending_iff_keys]

theorem Descending.sublist {l l' : List α} (h : Descending key l) (hsub : l'.Sublist l) :
    Descending key l' := List.Pairwise.sublist hsub h

theorem descending_singleton (a : α) : Descending key [a] := List.pairwise_singleton _ _

theorem descending_toList (x : Option α) : Descending key x.toList := by
  cases x with
  | none => exact List.Pairwise.nil
  | some a => exact descending_singleton a

theorem descending_append {l l' : List α} :
    Descending key (l ++ l') ↔
      Descending key l ∧ Descending key l' ∧ ∀ a ∈ l, ∀ b ∈ l', key b ≤ key a :=
  List.pairwise_append

end

def given (c : Bool) (a : α) : List α := if c then [a] else []

theorem forall_given {c : Bool} {a : α} {P : α → Prop} : (∀ b ∈ given c a, P b) ↔ (c → P a) := by
  cases c <;> simp [given]

theorem forall_mem_append {l l' : List α} {P : α → Prop} :
    (∀ a ∈ l ++ l', P a) ↔ (∀ a ∈ l, P a) ∧ ∀ a ∈ l', P a := List.forall_mem_append

theorem descending_given [LE F] {key : α → F} (c : Bool) (a : α) :
    Descending key (given c a) := by
  cases c with
  | false => exact List.Pairwise.nil
  | true => exact descending_singleton a

end Dipecs.Library
