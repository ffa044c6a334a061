import Dipecs.Library.Folds
import Dipecs.Library.MachineInt
import Dipecs.Library.Reordering
import Dipecs.Spec.Context

/-! The context builder: events are collected in a window, and a closed window is
summarized.  File activity is counted in a hash map, so its order is a parameter. -/

namespace Dipecs.Core

open Dipecs.Spec Dipecs.Library

namespace ContextBuilder

def pushNew {α : Type} [DecidableEq α] (l : List α) (x : α) : List α :=
  if x ∈ l then l else l ++ [x]

def bump {α : Type} [DecidableEq α] (x : α) : List (α × UInt32) → List (α × UInt32)
  | [] => [(x, 1)]
  | (y, n) :: rest => if x = y then (y, n + 1) :: rest else (y, n) :: bump x rest

def emptySummary : ContextSummary := ⟨[], [], [], [], none, .publicApi⟩

def summarizeType (s : ContextSummary) : SanitizedEventType → ContextSummary
  | .appTransition package _ .foreground =>
    { s with foregroundApps := pushNew s.foregroundApps package }
  | .appTransition _ _ .background => s
  | .processResource _ (some package) _ _ _ _ =>
    { s with foregroundApps := pushNew s.foregroundApps package }
  | .processResource _ none _ _ _ _ => s
  | .notification package _ _ _ _ hints _ _ =>
    { s with
      notifiedApps := pushNew s.notifiedApps package
      allSemanticHints := hints.foldl pushNew s.allSemanticHints }
  | .fileActivity _ category _ _ => { s with fileActivity := bump category s.fileActivity }
  | .systemStatus battery charging network ringer location headphone =>
    { s with
      latestSystemStatus := some ⟨battery, charging, network, ringer, location, headphone⟩ }
  | .interAppInteraction (some package) _ _ =>
    { s with foregroundApps := pushNew s.foregroundApps package }
  | .interAppInteraction none _ _ => s
  | .screen _ => s

def summarize (s : ContextSummary) (e : SanitizedEvent) : ContextSummary :=
  summarizeType (if e.sourceTier = .daemon then { s with sourceTier := .daemon } else s)
    e.eventType

def buildSummary (order : Reordering (ExtensionCategory × UInt32)) (events : List SanitizedEvent) :
    ContextSummary :=
  let s := events.foldl summarize emptySummary
  { s with fileActivity := order.reorder s.fileActivity }

theorem mem_pushNew {α : Type} [DecidableEq α] {l : List α} {x y : α} :
    y ∈ pushNew l x ↔ y ∈ l ∨ y = x := by
  unfold pushNew
  split
  · exact ⟨.inl, fun h => h.elim id fun h => h ▸ ‹x ∈ l›⟩
  · simp

theorem nodup_pushNew {α : Type} [DecidableEq α] {l : List α} {x : α} (h : l.Nodup) :
    (pushNew l x).Nodup := by
  unfold pushNew
  split
  · exact h
  · rw [List.nodup_append]
    refine ⟨h, List.pairwise_singleton _ _, fun a ha b hb hab => ?_⟩
    rw [hab, List.mem_singleton.mp hb] at ha
    exact ‹x ∉ l› ha

/-! ### One event -/

def shownBy (e : SanitizedEvent) : Option String := e.openedBy.or e.runningBy

def systemStatus (e : SanitizedEvent) : Option SystemStatusSnapshot :=
  match e.eventType with
  | .systemStatus battery charging network ringer location headphone =>
    some ⟨battery, charging, network, ringer, location, headphone⟩
  | _ => none

theorem summarize_eq (s : ContextSummary) (e : SanitizedEvent) :
    summarize s e = {
      foregroundApps := (shownBy e).toList.foldl pushNew s.foregroundApps
      notifiedApps := e.notifiedBy.toList.foldl pushNew s.notifiedApps
      allSemanticHints := e.hints.foldl pushNew s.allSemanticHints
      fileActivity := e.fileCategory.elim s.fileActivity (bump · s.fileActivity)
      latestSystemStatus := (systemStatus e).or s.latestSystemStatus
      sourceTier := if e.sourceTier = .daemon then .daemon else s.sourceTier } := by
  unfold summarize shownBy SanitizedEvent.openedBy SanitizedEvent.runningBy
    SanitizedEvent.notifiedBy SanitizedEvent.hints SanitizedEvent.fileCategory systemStatus
  cases e.eventType with
  | appTransition package cls transition => cases transition <;> split <;> rfl
  | processResource pid package rss swap threads oom => cases package <;> split <;> rfl
  | interAppInteraction package service type => cases package <;> split <;> rfl
  | _ => split <;> rfl

theorem shownBy_eq_some {e : SanitizedEvent} {p : String} :
    shownBy e = some p ↔ e.openedBy = some p ∨ e.runningBy = some p := by
  unfold shownBy SanitizedEvent.openedBy SanitizedEvent.runningBy
  cases e.eventType with
  | appTransition package cls transition => cases transition <;> simp
  | _ => simp

/-! ### File activity -/

theorem keys_bump {α : Type} [DecidableEq α] (x : α) (l : List (α × UInt32)) :
    (bump x l).map Prod.fst = pushNew (l.map Prod.fst) x := by
  induction l with
  | nil => simp [bump, pushNew]
  | cons entry rest ih =>
    obtain ⟨y, n⟩ := entry
    rw [bump]
    split
    · simp [pushNew, ‹x = y›]
    · have hne : x ≠ y := ‹_›
      rw [List.map_cons, ih]
      simp only [pushNew, List.map_cons, List.mem_cons, hne, false_or]
      split <;> simp

def fileKeys (s : ContextSummary) : List ExtensionCategory := s.fileActivity.map Prod.fst

theorem fileKeys_summarize (s : ContextSummary) (e : SanitizedEvent) :
    fileKeys (summarize s e) = e.fileCategory.toList.foldl pushNew (fileKeys s) := by
  rw [summarize_eq, fileKeys]
  cases e.fileCategory with
  | none => rfl
  | some category => exact keys_bump category s.fileActivity

def countFiles (events : List SanitizedEvent) : List (ExtensionCategory × UInt32) :=
  (events.foldl summarize emptySummary).fileActivity

theorem countFiles_keys (events : List SanitizedEvent) :
    FirstOccurrences (events.filterMap SanitizedEvent.fileCategory)
      ((countFiles events).map Prod.fst) := by
  rw [List.filterMap_eq_flatMap_toList]
  exact .foldl fileKeys fileKeys_summarize rfl events

/-- All file activity of the window is of one kind. -/
def OneFileCategory (events : List SanitizedEvent) : Prop :=
  ∀ c ∈ events.filterMap SanitizedEvent.fileCategory,
    ∀ c' ∈ events.filterMap SanitizedEvent.fileCategory, c = c'

instance (events : List SanitizedEvent) : Decidable (OneFileCategory events) :=
  inferInstanceAs (Decidable (∀ c ∈ events.filterMap SanitizedEvent.fileCategory,
    ∀ c' ∈ events.filterMap SanitizedEvent.fileCategory, c = c'))

theorem countFiles_length_le_one_iff {events : List SanitizedEvent} :
    (countFiles events).length ≤ 1 ↔ OneFileCategory events := by
  have hnodup := (countFiles_keys events).nodup
  simp only [OneFileCategory, ← (countFiles_keys events).mem]
  rw [← List.length_map Prod.fst]
  match (countFiles events).map Prod.fst, hnodup with
  | [], _ => simp
  | [c], _ => simp
  | c :: c' :: rest, hnodup =>
    have hne : c ≠ c' := by
      rintro rfl
      simp at hnodup
    simp [hne]

theorem buildSummary_of_oneFileCategory {events : List SanitizedEvent}
    (h : OneFileCategory events) (order : Reordering (ExtensionCategory × UInt32)) :
    buildSummary order events = events.foldl summarize emptySummary := by
  have horder := order.reorder_eq_self (countFiles_length_le_one_iff.mpr h)
  unfold countFiles at horder
  unfold buildSummary
  simp only [horder]

/-! ### The whole window -/

section
variable (order : Reordering (ExtensionCategory × UInt32)) (events : List SanitizedEvent)

theorem buildSummary_foregroundApps :
    FirstOccurrences (events.filterMap shownBy) (buildSummary order events).foregroundApps := by
  rw [List.filterMap_eq_flatMap_toList]
  exact .foldl ContextSummary.foregroundApps (fun s e => by rw [summarize_eq]; rfl) rfl events

theorem buildSummary_notifiedApps :
    FirstOccurrences (events.filterMap SanitizedEvent.notifiedBy)
      (buildSummary order events).notifiedApps := by
  rw [List.filterMap_eq_flatMap_toList]
  exact .foldl ContextSummary.notifiedApps (fun s e => by rw [summarize_eq]; rfl) rfl events

theorem buildSummary_allSemanticHints :
    FirstOccurrences (events.flatMap SanitizedEvent.hints)
      (buildSummary order events).allSemanticHints :=
  .foldl ContextSummary.allSemanticHints (fun s e => by rw [summarize_eq]; rfl) rfl events

end

section
variable {order : Reordering (ExtensionCategory × UInt32)} {events : List SanitizedEvent}

/-- The summary calls an app a foreground app when it opened, but also when it ran. -/
theorem mem_foregroundApps {p : String} :
    p ∈ (buildSummary order events).foregroundApps ↔
      ∃ e ∈ events, e.openedBy = some p ∨ e.runningBy = some p := by
  rw [(buildSummary_foregroundApps order events).mem, List.mem_filterMap]
  simp only [shownBy_eq_some]

theorem mem_notifiedApps {p : String} :
    p ∈ (buildSummary order events).notifiedApps ↔ ∃ e ∈ events, e.notifiedBy = some p := by
  rw [(buildSummary_notifiedApps order events).mem, List.mem_filterMap]

theorem mem_allSemanticHints {h : SemanticHint} :
    h ∈ (buildSummary order events).allSemanticHints ↔ ∃ e ∈ events, h ∈ e.hints := by
  rw [(buildSummary_allSemanticHints order events).mem, List.mem_flatMap]

end

end ContextBuilder

/-- What closing a window draws: an identifier and an iteration order. -/
structure WindowDraw where
  windowId : String
  order : Reordering (ExtensionCategory × UInt32)

structure WindowAggregator where
  buffer : List SanitizedEvent
  windowSecs : UInt64
  windowStartMs : Int

namespace WindowAggregator

def new (windowSecs : UInt64) (nowMs : Int) : WindowAggregator := ⟨[], windowSecs, nowMs⟩

def push (w : WindowAggregator) (event : SanitizedEvent) : WindowAggregator :=
  { w with buffer := w.buffer ++ [event] }

def isExpired (w : WindowAggregator) (nowMs : Int) : Bool :=
  decide (satSub nowMs w.windowStartMs ≥ (w.windowSecs * 1000).toInt64.toInt)

def context (w : WindowAggregator) (nowMs : Int) (draw : WindowDraw) : StructuredContext where
  windowId := draw.windowId
  windowStartMs := w.windowStartMs
  windowEndMs := nowMs
  durationSecs := UInt32.ofNat (max (i64 (nowMs - w.windowStartMs)) 0 / 1000).toNat
  events := w.buffer
  summary := ContextBuilder.buildSummary draw.order w.buffer

def close (w : WindowAggregator) (nowMs : Int) (draw : WindowDraw) :
    Option StructuredContext × WindowAggregator :=
  if w.buffer.isEmpty then (none, { w with windowStartMs := nowMs })
  else (some (w.context nowMs draw), ⟨[], w.windowSecs, nowMs⟩)

@[simp] theorem new_buffer (windowSecs : UInt64) (nowMs : Int) :
    (new windowSecs nowMs).buffer = [] := rfl

@[simp] theorem push_buffer (w : WindowAggregator) (event : SanitizedEvent) :
    (w.push event).buffer = w.buffer ++ [event] := rfl

@[simp] theorem context_events (w : WindowAggregator) (nowMs : Int) (draw : WindowDraw) :
    (w.context nowMs draw).events = w.buffer := rfl

@[simp] theorem close_buffer (w : WindowAggregator) (nowMs : Int) (draw : WindowDraw) :
    (w.close nowMs draw).2.buffer = [] := by
  unfold close
  split
  · simpa using ‹w.buffer.isEmpty = true›
  · rfl

theorem close_of_empty {w : WindowAggregator} (h : w.buffer = []) (nowMs : Int)
    (draw : WindowDraw) : w.close nowMs draw = (none, { w with windowStartMs := nowMs }) := by
  rw [close, if_pos (List.isEmpty_iff.mpr h)]

theorem close_of_nonempty {w : WindowAggregator} (h : w.buffer ≠ []) (nowMs : Int)
    (draw : WindowDraw) :
    w.close nowMs draw = (some (w.context nowMs draw), ⟨[], w.windowSecs, nowMs⟩) := by
  rw [close, if_neg (by simpa using h)]

theorem close_fst (w : WindowAggregator) (nowMs : Int) (draw : WindowDraw) :
    (w.close nowMs draw).1 = if w.buffer = [] then none else some (w.context nowMs draw) := by
  unfold close
  cases w.buffer <;> simp

end WindowAggregator

end Dipecs.Core
