import Dipecs.Core.ContextBuilder

/-! What the summary of a window is: the apps and hints of its events in order of first
occurrence, the file activity counted, the last system status and the strongest tier. -/

namespace Dipecs.Core

open Dipecs.Spec Dipecs.Library

namespace ContextBuilder

def fileEvents (events : List SanitizedEvent) (category : ExtensionCategory) : Nat :=
  (events.filterMap SanitizedEvent.fileCategory).count category

/-- What the summary of a window is to say. -/
structure SummaryOf (events : List SanitizedEvent) (s : ContextSummary) : Prop where
  foregroundApps : FirstOccurrences (events.filterMap shownBy) s.foregroundApps
  notifiedApps : FirstOccurrences (events.filterMap SanitizedEvent.notifiedBy) s.notifiedApps
  allSemanticHints : FirstOccurrences (events.flatMap SanitizedEvent.hints) s.allSemanticHints
  fileCategories_nodup : (s.fileActivity.map Prod.fst).Nodup
  mem_fileCategories : ∀ category, category ∈ s.fileActivity.map Prod.fst ↔
    category ∈ events.filterMap SanitizedEvent.fileCategory
  fileCounts : ∀ entry ∈ s.fileActivity, entry.2.toNat = fileEvents events entry.1
  latestSystemStatus : s.latestSystemStatus = (events.filterMap systemStatus).getLast?
  sourceTier : s.sourceTier = .daemon ↔ ∃ e ∈ events, e.sourceTier = .daemon

/-! ### Counts -/

theorem mem_bump {α : Type} [DecidableEq α] {x : α} {l : List (α × UInt32)}
    (hl : (l.map Prod.fst).Nodup) {entry : α × UInt32} (h : entry ∈ bump x l) :
    (entry.1 ≠ x ∧ entry ∈ l) ∨ (∃ n, (x, n) ∈ l ∧ entry = (x, n + 1)) ∨
      (x ∉ l.map Prod.fst ∧ entry = (x, 1)) := by
  induction l with
  | nil => exact .inr (.inr ⟨by simp, by simpa [bump] using h⟩)
  | cons head l ih =>
    obtain ⟨y, n⟩ := head
    rw [List.map_cons, List.nodup_cons] at hl
    rw [bump] at h
    split at h <;> rename_i hxy
    · subst hxy
      rcases List.mem_cons.mp h with rfl | h
      · exact .inr (.inl ⟨n, List.mem_cons_self, rfl⟩)
      · exact .inl ⟨fun heq => hl.1 (List.mem_map.mpr ⟨entry, h, heq⟩),
          List.mem_cons_of_mem _ h⟩
    · rcases List.mem_cons.mp h with rfl | h
      · exact .inl ⟨Ne.symm hxy, List.mem_cons_self⟩
      · rcases ih hl.2 h with ⟨hne, hmem⟩ | ⟨m, hmem, rfl⟩ | ⟨hnot, rfl⟩
        · exact .inl ⟨hne, List.mem_cons_of_mem _ hmem⟩
        · exact .inr (.inl ⟨m, List.mem_cons_of_mem _ hmem, rfl⟩)
        · refine .inr (.inr ⟨?_, rfl⟩)
          rw [List.map_cons, List.mem_cons]
          exact not_or_intro hxy hnot

structure Counted {α : Type} [DecidableEq α] (keys : List α) (l : List (α × UInt32)) : Prop where
  nodup : (l.map Prod.fst).Nodup
  mem : ∀ x, x ∈ l.map Prod.fst ↔ x ∈ keys
  count : ∀ entry ∈ l, entry.2 = UInt32.ofNat (keys.count entry.1)

theorem Counted.bump {α : Type} [DecidableEq α] {keys : List α} {l : List (α × UInt32)}
    (h : Counted keys l) (x : α) : Counted (keys ++ [x]) (ContextBuilder.bump x l) := by
  refine ⟨?_, fun y => ?_, fun entry hentry => ?_⟩
  · rw [keys_bump]
    exact nodup_pushNew h.nodup
  · rw [keys_bump, mem_pushNew, h.mem, List.mem_append, List.mem_singleton]
  · rw [List.count_append, List.count_singleton]
    rcases mem_bump h.nodup hentry with ⟨hne, hmem⟩ | ⟨n, hmem, rfl⟩ | ⟨hnot, rfl⟩
    · rw [if_neg (by simpa using Ne.symm hne), Nat.add_zero]
      exact h.count entry hmem
    · have hn : n = UInt32.ofNat (keys.count x) := h.count (x, n) hmem
      rw [if_pos (beq_self_eq_true x), UInt32.ofNat_add, ← hn]
      rfl
    · rw [List.count_eq_zero_of_not_mem (mt (h.mem x).mpr hnot), if_pos (beq_self_eq_true x)]
      rfl

theorem countFiles_counted (events : List SanitizedEvent) :
    Counted (events.filterMap SanitizedEvent.fileCategory) (countFiles events) := by
  refine foldl_history
    (fun pre (s : ContextSummary) =>
      Counted (pre.filterMap SanitizedEvent.fileCategory) s.fileActivity)
    (s := emptySummary) (fun pre s e h => ?_)
    ⟨.nil, fun x => by simp [emptySummary], by simp [emptySummary]⟩ events
  rw [List.filterMap_append, summarize_eq]
  cases hcategory : e.fileCategory with
  | none =>
    rw [List.filterMap_cons_none hcategory, List.filterMap_nil, List.append_nil]
    exact h
  | some category =>
    rw [List.filterMap_cons_some hcategory, List.filterMap_nil]
    exact h.bump category

theorem foldl_latestSystemStatus (events : List SanitizedEvent) :
    (events.foldl summarize emptySummary).latestSystemStatus =
      (events.filterMap systemStatus).getLast? := by
  refine foldl_history
    (fun pre (s : ContextSummary) =>
      s.latestSystemStatus = (pre.filterMap systemStatus).getLast?)
    (s := emptySummary) (fun pre s e h => ?_) rfl events
  rw [List.filterMap_append, summarize_eq, List.getLast?_append, h]
  cases hstatus : systemStatus e with
  | none => rw [List.filterMap_cons_none hstatus]; rfl
  | some status => rw [List.filterMap_cons_some hstatus]; rfl

theorem foldl_sourceTier (events : List SanitizedEvent) :
    (events.foldl summarize emptySummary).sourceTier = .daemon ↔
      ∃ e ∈ events, e.sourceTier = .daemon := by
  refine foldl_history
    (fun pre (s : ContextSummary) =>
      s.sourceTier = .daemon ↔ ∃ e ∈ pre, e.sourceTier = .daemon)
    (s := emptySummary) (fun pre s e h => ?_) (by simp [emptySummary]) events
  have hstep : (summarize s e).sourceTier = .daemon ↔
      s.sourceTier = .daemon ∨ e.sourceTier = .daemon := by
    rw [summarize_eq]
    dsimp only
    split <;> simp [*]
  simp only [hstep, h, List.mem_append, List.mem_singleton, or_and_right, exists_or,
    exists_eq_left]

/-! ### The whole window -/

section
variable (order : Reordering (ExtensionCategory × UInt32)) (events : List SanitizedEvent)

theorem SummaryOf.fileEvents_lt {events : List SanitizedEvent} {s : ContextSummary}
    (h : SummaryOf events s) (category : ExtensionCategory) :
    fileEvents events category < 2 ^ 32 := by
  by_cases hmem : category ∈ events.filterMap SanitizedEvent.fileCategory
  · obtain ⟨entry, hentry, rfl⟩ := List.mem_map.mp ((h.mem_fileCategories category).mpr hmem)
    rw [← h.fileCounts entry hentry]
    exact entry.2.toNat_lt
  · rw [fileEvents, List.count_eq_zero_of_not_mem hmem]
    exact Nat.two_pow_pos 32

/-- The summary of a window is what it is to be exactly when no file category is touched so
often that its counter of 32 bits wraps. -/
theorem buildSummary_summaryOf_iff :
    SummaryOf events (buildSummary order events) ↔
      ∀ category, fileEvents events category < 2 ^ 32 := by
  have hcounted := countFiles_counted events
  have hperm : (buildSummary order events).fileActivity.Perm (countFiles events) :=
    order.perm _
  constructor
  · exact SummaryOf.fileEvents_lt
  · intro h
    refine ⟨buildSummary_foregroundApps order events, buildSummary_notifiedApps order events,
      buildSummary_allSemanticHints order events, ?nodup, fun category => ?mem,
      fun entry hentry => ?counts, foldl_latestSystemStatus events, foldl_sourceTier events⟩
    case nodup => exact (hperm.map Prod.fst).nodup_iff.mpr hcounted.nodup
    case mem => rw [(hperm.map Prod.fst).mem_iff, hcounted.mem]
    case counts =>
      rw [hcounted.count entry (hperm.mem_iff.mp hentry)]
      exact UInt32.toNat_ofNat_of_lt' (h entry.1)

end

def notesTouched : SanitizedEvent :=
  ⟨"e1", 1000, .fileActivity none .document .write false, .publicApi, none, none⟩

theorem buildSummary_wraps :
    ¬ SummaryOf (List.replicate (2 ^ 32) notesTouched)
      (buildSummary .id (List.replicate (2 ^ 32) notesTouched)) := by
  intro h
  have hcategory := h.fileEvents_lt .document
  rw [fileEvents, List.filterMap_replicate_of_some (show notesTouched.fileCategory = _ from rfl),
    List.count_replicate_self] at hcategory
  exact Nat.lt_irrefl _ hcategory

end ContextBuilder

end Dipecs.Core
