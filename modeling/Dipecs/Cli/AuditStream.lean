import Dipecs.Spec.Serialize
import Mathlib.Data.String.Basic

/-! The canonical audit stream: every record with its keys sorted and the volatile ones
dropped, one to a line, and the digest of them all. -/

namespace Dipecs.Cli

open Dipecs.Spec Dipecs.Library

def volatileKeys : List String :=
  ["event_id", "window_id", "intent_id", "latency_us", "backend_error"]

mutual

def canonicalize : Json → Json
  | .obj fields => .obj ((canonicalizeFields fields).mergeSort fun x y => decide (x.1 ≤ y.1))
  | .arr items => .arr (canonicalizeItems items)
  | .null => .null
  | .bool b => .bool b
  | .posInt n => .posInt n
  | .negInt n => .negInt n
  | .float bits => .float bits
  | .str s => .str s

def canonicalizeItems : List Json → List Json
  | [] => []
  | v :: vs => canonicalize v :: canonicalizeItems vs

def canonicalizeFields : List (String × Json) → List (String × Json)
  | [] => []
  | (k, v) :: rest =>
    if k ∈ volatileKeys then canonicalizeFields rest
    else (k, canonicalize v) :: canonicalizeFields rest

end

/-- The digest of the lines, each known by the value it prints; `sha256` is taken over
the printed bytes. -/
def auditHash (sha256 : List Json → String) (lines : List Json) : String :=
  "sha256:" ++ sha256 lines

theorem canonicalizeItems_eq_map (items : List Json) :
    canonicalizeItems items = items.map canonicalize := by
  induction items with
  | nil => rw [canonicalizeItems, List.map_nil]
  | cons v vs ih => rw [canonicalizeItems, ih, List.map_cons]

@[simp] theorem canonicalize_arr (items : List Json) :
    canonicalize (.arr items) = .arr (items.map canonicalize) := by
  rw [canonicalize, canonicalizeItems_eq_map]

@[simp] theorem canonicalize_str (s : String) : canonicalize (.str s) = .str s := by
  rw [canonicalize]

theorem canonicalize_obj_congr {fields fields' : List (String × Json)}
    (h : canonicalizeFields fields = canonicalizeFields fields') :
    canonicalize (.obj fields) = canonicalize (.obj fields') := by
  rw [canonicalize, canonicalize, h]

theorem canonicalizeFields_cons_volatile {k : String} {v v' : Json}
    {rest rest' : List (String × Json)} (hk : k ∈ volatileKeys)
    (hrest : canonicalizeFields rest = canonicalizeFields rest') :
    canonicalizeFields ((k, v) :: rest) = canonicalizeFields ((k, v') :: rest') := by
  rw [canonicalizeFields, canonicalizeFields, if_pos hk, if_pos hk, hrest]

theorem canonicalizeFields_cons_congr {k : String} {v v' : Json}
    {rest rest' : List (String × Json)} (hv : canonicalize v = canonicalize v')
    (hrest : canonicalizeFields rest = canonicalizeFields rest') :
    canonicalizeFields ((k, v) :: rest) = canonicalizeFields ((k, v') :: rest') := by
  rw [canonicalizeFields, canonicalizeFields, hv, hrest]

theorem mem_canonicalizeFields {fields : List (String × Json)} {k : String} {w : Json} :
    (k, w) ∈ canonicalizeFields fields ↔
      k ∉ volatileKeys ∧ ∃ v, (k, v) ∈ fields ∧ canonicalize v = w := by
  induction fields with
  | nil => simp [canonicalizeFields]
  | cons field fields ih =>
    obtain ⟨k', v'⟩ := field
    rw [canonicalizeFields]
    split
    · rw [ih]
      grind
    · rw [List.mem_cons, ih]
      grind

theorem stable_field_of_canonicalize_eq {fields fields' : List (String × Json)}
    (h : canonicalize (.obj fields) = canonicalize (.obj fields')) {k : String} {v : Json}
    (hk : k ∉ volatileKeys) (hv : (k, v) ∈ fields) :
    ∃ v', (k, v') ∈ fields' ∧ canonicalize v' = canonicalize v := by
  rw [canonicalize, canonicalize, Json.obj.injEq] at h
  have hmem : (k, canonicalize v) ∈ canonicalizeFields fields :=
    mem_canonicalizeFields.mpr ⟨hk, v, hv, rfl⟩
  have hsorted : (k, canonicalize v) ∈
      (canonicalizeFields fields).mergeSort fun x y => decide (x.1 ≤ y.1) :=
    List.mem_mergeSort.mpr hmem
  rw [h, List.mem_mergeSort] at hsorted
  exact (mem_canonicalizeFields.mp hsorted).2

end Dipecs.Cli
