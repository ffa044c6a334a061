import Dipecs.Core.ContextBuilder
import Mathlib.Data.Rat.Init

/-! The decision backends that need no model: rules over the events of a window, and the
no-op behind the circuit breaker.  `F` carries `f32`. -/

namespace Dipecs.Agent

open Dipecs.Spec Dipecs.Core

variable {F : Type}

/-- What an evaluation draws: an identifier for each intent, and a measured latency. -/
structure BackendDraw where
  newId : Nat → String
  latencyUs : UInt64

def drawIds (draw : BackendDraw) (drafts : List (Intent F)) : List (Intent F) :=
  drafts.zipIdx.map fun (intent, i) => { intent with intentId := draw.newId i }

theorem map_drawIds {α : Type} {f : Intent F → α}
    (h : ∀ (intent : Intent F) id, f { intent with intentId := id } = f intent)
    (draw : BackendDraw) (drafts : List (Intent F)) :
    (drawIds draw drafts).map f = drafts.map f := by
  have hfst : drafts.zipIdx.map Prod.fst = drafts := List.zipIdx_map_fst 0 drafts
  rw [drawIds, List.map_map]
  conv_rhs => rw [← hfst, List.map_map]
  exact List.map_congr_left fun x _ => h x.1 _

def draft (intentType : IntentType) (confidence : F) (action : SuggestedAction) (tag : String) :
    Intent F :=
  ⟨"", intentType, confidence, .low, [action], [tag]⟩

namespace FallbackNoOpBackend

def evaluate [OfScientific F] (draw : BackendDraw) (context : StructuredContext) :
    DecisionBackendResult F where
  route := .fallbackNoOp
  intentBatch :=
    { windowId := context.windowId
      intents := drawIds draw [draft .idle 1.0 ⟨.noOp, none, .idleTime⟩ "fallback_noop"]
      generatedAtMs := context.windowEndMs
      model := "fallback-noop-v0.1" }
  rationaleTags := ["fallback_noop"]
  latencyUs := draw.latencyUs
  error := some "circuit breaker engaged — falling back to no-op"

end FallbackNoOpBackend

namespace RuleBasedBackend

structure Signals where
  hasFileMention : Bool
  observedForegroundApps : List String
  hasScreenOn : Bool
  isLowBattery : Bool
  memoryPressure : Option (UInt32 × Option String)

def noSignals : Signals := ⟨false, [], false, false, none⟩

def notePressure (pressure : Option (UInt32 × Option String)) (rss swap : UInt32)
    (package : Option String) : Option (UInt32 × Option String) :=
  if rss ≥ 1024 ∨ swap ≥ 128 then
    match pressure with
    | none => some (rss, package)
    | some (worst, _) => if rss > worst then some (rss, package) else pressure
  else pressure

def scanType (s : Signals) : SanitizedEventType → Signals
  | .notification _ _ _ _ _ hints _ _ =>
    if .fileMention ∈ hints then { s with hasFileMention := true } else s
  | .appTransition package _ .foreground =>
    { s with
      observedForegroundApps := ContextBuilder.pushNew s.observedForegroundApps package }
  | .screen .interactive => { s with hasScreenOn := true }
  | .systemStatus (some pct) _ _ _ _ _ =>
    if pct < 20 then { s with isLowBattery := true } else s
  | .processResource _ package rss swap _ _ =>
    { s with memoryPressure := notePressure s.memoryPressure rss swap package }
  | _ => s

def scan (s : Signals) (e : SanitizedEvent) : Signals := scanType s e.eventType

section
variable [OfScientific F]

def notificationDrafts (s : Signals) (notifiedApps : List String) : List (Intent F) :=
  if s.hasFileMention then
    let app := notifiedApps.head?.getD ""
    [draft (.openApp app) 0.70 ⟨.keepAlive, some app, .immediate⟩ "file_received"]
  else match notifiedApps.head? with
    | some app =>
      [draft (.openApp app) 0.55 ⟨.keepAlive, some app, .idleTime⟩ "notification_engagement"]
    | none => []

def foregroundDrafts (s : Signals) : List (Intent F) :=
  match s.observedForegroundApps.head? with
  | some target =>
    [draft (.switchToApp target) 0.80 ⟨.keepAlive, some target, .immediate⟩
      "app_foreground_observed"]
  | none => []

def screenDrafts (s : Signals) : List (Intent F) :=
  if s.hasScreenOn then
    [draft .idle 0.60 ⟨.keepAlive, some "work:collector_heartbeat", .idleTime⟩ "screen_on"]
  else []

def batteryDrafts (s : Signals) : List (Intent F) :=
  if s.isLowBattery then
    [draft .idle 0.80 ⟨.releaseMemory, some "cache:prefetch", .immediate⟩ "low_battery"]
  else []

def pressureDrafts (s : Signals) : List (Intent F) :=
  match s.memoryPressure with
  | some (_, target) => [draft .idle 0.65 ⟨.releaseMemory, target, .immediate⟩ "memory_pressure"]
  | none => []

def drafts (s : Signals) (notifiedApps : List String) : List (Intent F) :=
  let found := notificationDrafts s notifiedApps ++ foregroundDrafts s ++ screenDrafts s ++
    batteryDrafts s ++ pressureDrafts s
  if found.isEmpty then [draft .idle 0.50 ⟨.noOp, none, .idleTime⟩ "idle_window"] else found

def generateIntents (draw : BackendDraw) (context : StructuredContext) : List (Intent F) :=
  drawIds draw (drafts (context.events.foldl scan noSignals) context.summary.notifiedApps)

def evaluate (draw : BackendDraw) (context : StructuredContext) : DecisionBackendResult F :=
  let intents := generateIntents draw context
  { route := .ruleBased
    intentBatch := ⟨context.windowId, intents, context.windowEndMs, "rule-based-v0.3"⟩
    rationaleTags := intents.flatMap Intent.rationaleTags
    latencyUs := draw.latencyUs
    error := none }

end

/-! ### What the rules read of one event -/

/-- A process over one of the two thresholds: its resident size and its package. -/
def pressure (e : SanitizedEvent) : Option (UInt32 × Option String) :=
  match e.eventType with
  | .processResource _ package rss swap _ _ =>
    if rss ≥ 1024 ∨ swap ≥ 128 then some (rss, package) else none
  | _ => none

def worse (worst : Option (UInt32 × Option String)) (heavy : UInt32 × Option String) :
    Option (UInt32 × Option String) :=
  match worst with
  | none => some heavy
  | some (rss, _) => if heavy.1 > rss then some heavy else worst

def turnsScreenOn (e : SanitizedEvent) : Bool :=
  match e.eventType with
  | .screen .interactive => true
  | _ => false

def reportsLowBattery (e : SanitizedEvent) : Bool :=
  match e.eventType with
  | .systemStatus (some pct) _ _ _ _ _ => pct < 20
  | _ => false

theorem notePressure_eq (worst : Option (UInt32 × Option String)) (rss swap : UInt32)
    (package : Option String) :
    notePressure worst rss swap package =
      if rss ≥ 1024 ∨ swap ≥ 128 then worse worst (rss, package) else worst := rfl

theorem scan_eq (s : Signals) (e : SanitizedEvent) :
    scan s e = {
      hasFileMention := s.hasFileMention || decide (.fileMention ∈ e.hints)
      observedForegroundApps :=
        e.openedBy.toList.foldl ContextBuilder.pushNew s.observedForegroundApps
      hasScreenOn := s.hasScreenOn || turnsScreenOn e
      isLowBattery := s.isLowBattery || reportsLowBattery e
      memoryPressure := (pressure e).toList.foldl worse s.memoryPressure } := by
  unfold scan SanitizedEvent.hints SanitizedEvent.openedBy turnsScreenOn reportsLowBattery pressure
  cases e.eventType with
  | notification _ _ _ _ _ hints =>
    by_cases h : SemanticHint.fileMention ∈ hints <;> simp [scanType, h]
  | appTransition package cls transition => cases transition <;> simp [scanType]
  | screen state => cases state <;> simp [scanType]
  | systemStatus pct =>
    cases pct with
    | none => simp [scanType]
    | some pct => by_cases h : pct < 20 <;> simp [scanType, h]
  | processResource pid package rss swap threads oom =>
    by_cases h : rss ≥ 1024 ∨ swap ≥ 128 <;> simp [scanType, notePressure_eq, h]
  | _ => simp [scanType]

/-! ### What the rules read of the notifications -/

theorem scan_notification {e : SanitizedEvent} (h : e.isNotification = true) (s : Signals) :
    scan s e =
      { s with hasFileMention := s.hasFileMention || decide (.fileMention ∈ e.hints) } := by
  unfold scan SanitizedEvent.hints
  unfold SanitizedEvent.isNotification SanitizedEvent.notifiedBy at h
  split at h
  · rename_i hints _ _ heq
    simp only [heq, scanType]
    by_cases hmem : SemanticHint.fileMention ∈ hints <;> simp [hmem]
  · cases h

theorem scan_other {e : SanitizedEvent} (h : e.isNotification = false) (s : Signals) (b : Bool) :
    scan { s with hasFileMention := b } e = { scan s e with hasFileMention := b } := by
  rw [scan_eq, scan_eq, SanitizedEvent.hints_of_not_isNotification h]
  simp

theorem foldl_other {events : List SanitizedEvent} (h : ∀ e ∈ events, e.isNotification = false)
    (s : Signals) (b : Bool) :
    events.foldl scan { s with hasFileMention := b } =
      { events.foldl scan s with hasFileMention := b } := by
  induction events generalizing s with
  | nil => rfl
  | cons e events ih =>
    rw [List.foldl_cons, List.foldl_cons, scan_other (h e (by simp)),
      ih fun e he => h e (by simp [he])]

theorem foldl_scan (events : List SanitizedEvent) (s : Signals) :
    events.foldl scan s =
      { (events.filter (!·.isNotification)).foldl scan s with
        hasFileMention :=
          s.hasFileMention || decide (.fileMention ∈ events.flatMap SanitizedEvent.hints) } := by
  induction events generalizing s with
  | nil => simp
  | cons e events ih =>
    have hothers : ∀ e ∈ events.filter (!·.isNotification), e.isNotification = false := by
      intro e he
      simpa using (List.mem_filter.mp he).2
    cases he : e.isNotification with
    | true =>
      rw [List.foldl_cons, ih, scan_notification he, foldl_other hothers,
        List.filter_cons_of_neg (by simp [he])]
      simp [Bool.or_assoc]
    | false =>
      have hkeep : (scan s e).hasFileMention = s.hasFileMention := by
        rw [scan_eq, SanitizedEvent.hints_of_not_isNotification he]
        simp
      rw [List.foldl_cons, ih, List.filter_cons_of_pos (by simp [he]), List.foldl_cons, hkeep,
        List.flatMap_cons, SanitizedEvent.hints_of_not_isNotification he, List.nil_append]

theorem evaluate_congr [OfScientific F] (draw : BackendDraw) {c c' : StructuredContext}
    (hid : c.windowId = c'.windowId) (hend : c.windowEndMs = c'.windowEndMs)
    (hothers : c.events.filter (!·.isNotification) = c'.events.filter (!·.isNotification))
    (happs : c.summary.notifiedApps = c'.summary.notifiedApps)
    (hfile : .fileMention ∈ c.events.flatMap SanitizedEvent.hints ↔
      .fileMention ∈ c'.events.flatMap SanitizedEvent.hints) :
    evaluate (F := F) draw c = evaluate draw c' := by
  have hintents : generateIntents (F := F) draw c = generateIntents draw c' := by
    rw [generateIntents, generateIntents, foldl_scan, foldl_scan c'.events, hothers, happs,
      decide_eq_decide.mpr hfile]
  rw [evaluate, evaluate, hintents, hid, hend]

end RuleBasedBackend

end Dipecs.Agent
