import Dipecs.Library.Keyed
import Dipecs.Library.Reordering

/-! Change feeds: a source emits the rows of a table that are new or changed since the table
before, and whoever listens keeps the last event for each key. -/

namespace Dipecs.Library

variable {α κ ε β : Type} [DecidableEq κ]

def collectByKey (key : α → κ) : List α → List α
  | [] => []
  | x :: xs =>
    if xs.any fun y => key y = key x then collectByKey key xs else x :: collectByKey key xs

theorem mem_of_mem_collectByKey {key : α → κ} {l : List α} {x : α}
    (h : x ∈ collectByKey key l) : x ∈ l := by
  induction l with
  | nil => exact h
  | cons y l ih =>
    rw [collectByKey] at h
    split at h
    · exact List.mem_cons_of_mem _ (ih h)
    · rcases List.mem_cons.mp h with rfl | h
      · exact List.mem_cons_self
      · exact List.mem_cons_of_mem _ (ih h)

theorem collectByKey_nodup (key : α → κ) (l : List α) : ((collectByKey key l).map key).Nodup := by
  induction l with
  | nil => exact List.nodup_nil
  | cons x l ih =>
    rw [collectByKey]
    split
    · exact ih
    · rename_i hnone
      rw [List.map_cons, List.nodup_cons]
      refine ⟨fun hmem => ?_, ih⟩
      obtain ⟨y, hy, hkey⟩ := List.mem_map.mp hmem
      exact hnone (List.any_eq_true.mpr ⟨y, mem_of_mem_collectByKey hy, decide_eq_true hkey⟩)

theorem lastWith_append (key : α → κ) (l l' : List α) (k : κ) :
    lastWith key (l ++ l') k = (lastWith key l' k).or (lastWith key l k) := by
  rw [lastWith, List.reverse_append, List.find?_append]
  rfl

theorem lastWith_eq_none {key : α → κ} {l : List α} {k : κ} (h : ∀ x ∈ l, key x ≠ k) :
    lastWith key l k = none :=
  List.find?_eq_none.mpr fun x hx => by simpa using h x (by simpa using hx)

namespace ChangeFeed

variable (key : α → κ) (unchanged : α → α → Bool)

def entry (table : List α) (k : κ) : Option α := table.find? fun x => key x = k

def diff (prev curr : List α) : List α :=
  curr.filter fun c =>
    match entry key prev (key c) with
    | some p => !unchanged p c
    | none => true

section
variable {key : α → κ} {emitKey : ε → κ} {emit : α → ε}
variable {view : ε → β} {row : α → β}

/-- The last event for every row of the table shows what the row shows. -/
def Mirrors (key : α → κ) (emitKey : ε → κ) (view : ε → β) (row : α → β) (events : List ε)
    (table : List α) : Prop :=
  ∀ c ∈ table, (lastWith emitKey events (key c)).map view = some (row c)

theorem mirrors_nil : Mirrors key emitKey view row ([] : List ε) [] := nofun

theorem lastWith_emit {rows : List α} (hnodup : (rows.map key).Nodup) (order : Reordering α)
    (hkey : ∀ c, emitKey (emit c) = key c) {c : α} (hc : c ∈ rows) :
    lastWith emitKey ((order.reorder rows).map emit) (key c) = some (emit c) := by
  have hperm := order.perm rows
  have hkeys : ((order.reorder rows).map emit).map emitKey = (order.reorder rows).map key := by
    rw [List.map_map]
    exact List.map_congr_left fun x _ => hkey x
  rw [lastWith_eq_some (by rw [hkeys]; exact (hperm.map key).nodup_iff.mpr hnodup)]
  exact ⟨List.mem_map_of_mem (hperm.mem_iff.mpr hc), hkey c⟩

theorem lastWith_emit_none {rows : List α} (order : Reordering α)
    (hkey : ∀ c, emitKey (emit c) = key c) {k : κ} (h : ∀ c ∈ rows, key c ≠ k) :
    lastWith emitKey ((order.reorder rows).map emit) k = none := by
  refine lastWith_eq_none fun e he => ?_
  obtain ⟨c, hc, rfl⟩ := List.mem_map.mp he
  rw [hkey]
  exact h c ((order.perm rows).mem_iff.mp hc)

/-- A listener stays up to date exactly when every row that is taken for unchanged shows
what it showed. -/
theorem mirrors_diff_iff (unchanged : α → α → Bool) (emit : α → ε) {events : List ε}
    {prev curr : List α} (order : Reordering α)
    (hkey : ∀ c, emitKey (emit c) = key c) (hview : ∀ c, view (emit c) = row c)
    (hnodup : (curr.map key).Nodup) (h : Mirrors key emitKey view row events prev) :
    Mirrors key emitKey view row
        (events ++ (order.reorder (diff key unchanged prev curr)).map emit) curr ↔
      ∀ c ∈ curr, ∀ p, entry key prev (key c) = some p → unchanged p c = true →
        row p = row c := by
  have hrows : ((diff key unchanged prev curr).map key).Nodup :=
    hnodup.sublist (List.filter_sublist.map key)
  refine forall_congr' fun c => forall_congr' fun hc => ?_
  rw [lastWith_append]
  cases hentry : entry key prev (key c) with
  | none =>
    have hdiff : c ∈ diff key unchanged prev curr := by simp [diff, hc, hentry]
    simp [lastWith_emit hrows order hkey hdiff, hview]
  | some p =>
    have hp : p ∈ prev ∧ key p = key c :=
      ⟨List.mem_of_find?_eq_some hentry, by simpa using List.find?_some hentry⟩
    cases hsame : unchanged p c with
    | false =>
      have hdiff : c ∈ diff key unchanged prev curr := by simp [diff, hc, hentry, hsame]
      simp [lastWith_emit hrows order hkey hdiff, hview, hsame]
    | true =>
      have hquiet : ∀ x ∈ diff key unchanged prev curr, key x ≠ key c := by
        intro x hx heq
        obtain ⟨hx, hchanged⟩ := List.mem_filter.mp hx
        rw [List.inj_on_of_nodup_map hnodup hx hc heq, hentry] at hchanged
        simp [hsame] at hchanged
      have hlast := h p hp.1
      rw [hp.2] at hlast
      rw [lastWith_emit_none order hkey hquiet, Option.none_or, hlast]
      simp [hsame]

end

end ChangeFeed

end Dipecs.Library
