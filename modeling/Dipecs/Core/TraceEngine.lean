import Dipecs.Library.Ieee
import Dipecs.Library.Positional
import Dipecs.Spec.Serialize
import Dipecs.Spec.Trace

/-! The trace engine: a replay against what a golden trace expects of its three layers.
The sanitizer draws identifiers and reads the clock, so it is given the number of the call;
what a divergence says of strings and numbers is left to their own rendering. -/

namespace Dipecs.Core

open Dipecs.Spec Dipecs.Library

/-- How messages show a string (`Debug`) and an `f32` (`Display`). -/
structure Rendering where
  str : String → String
  float : Ieee → String

namespace Rendering

def option (debug : α → String) : Option α → String
  | none => "None"
  | some x => s!"Some({debug x})"

def vec (debug : α → String) (l : List α) : String :=
  "[" ++ ", ".intercalate (l.map debug) ++ "]"

def intentType (r : Rendering) : IntentType → String
  | .openApp package => s!"OpenApp({r.str package})"
  | .switchToApp package => s!"SwitchToApp({r.str package})"
  | .checkNotification package => s!"CheckNotification({r.str package})"
  | .handleFile category => s!"HandleFile({category.debug})"
  | .enterContext context => s!"EnterContext({r.str context})"
  | .idle => "Idle"

def suggestedAction (r : Rendering) (a : SuggestedAction) : String :=
  s!"SuggestedAction \x7b action_type: {a.actionType.debug}, target: {option r.str a.target}, " ++
    s!"urgency: {a.urgency.debug} \x7d"

end Rendering

def epsilon : Ieee := .finite (1 / 8388608)

namespace DefaultTraceEngine

def sanitizedEq (a b : SanitizedEvent) : Bool :=
  a.eventType == b.eventType && a.sourceTier == b.sourceTier && a.appPackage == b.appPackage &&
    a.uid == b.uid

def executedEq (a b : ExecutedAction) : Bool :=
  a.actionType == b.actionType && a.target == b.target && a.success == b.success &&
    a.errorReason == b.errorReason

def suggestedEq (a b : SuggestedAction) : Bool :=
  a.actionType == b.actionType && a.target == b.target && a.urgency == b.urgency

/-- A tier for each event, the recorded ones first and then `publicApi` for ever. -/
def zipTiers : List RawEvent → List SourceTier → List (RawEvent × SourceTier)
  | [], _ => []
  | raw :: raws, [] => (raw, .publicApi) :: zipTiers raws []
  | raw :: raws, tier :: tiers => (raw, tier) :: zipTiers raws tiers

section
variable (ρ : Ieee.Rounding) (render : Rendering)
  (sanitizer : Nat → RawEvent → SourceTier → SanitizedEvent)

def actualSanitized {F : Type} (golden : GoldenTrace F) : List SanitizedEvent :=
  (zipTiers golden.rawEvents golden.sourceTiers).mapIdx fun i p => sanitizer i p.1 p.2

def sanitizationDivergences {F : Type} (golden : GoldenTrace F) : List Nat :=
  Positional.divergences sanitizedEq (actualSanitized sanitizer golden) golden.expectedSanitized

def executionDivergences (expected actual : List ExecutedAction) : List Nat :=
  Positional.divergences executedEq expected actual

def suggestedDiff (expected actual : List SuggestedAction) : Option String :=
  (expected.zip actual).zipIdx.findSome? fun p =>
    if suggestedEq p.1.1 p.1.2 then none
    else some (s!"suggested_actions[{p.2}]: expected={render.suggestedAction p.1.1} " ++
      s!"actual={render.suggestedAction p.1.2}")

def intentDiff (expected actual : Intent Ieee) : Option String :=
  if expected.intentType ≠ actual.intentType then
    some (s!"intent_type: expected={render.intentType expected.intentType} " ++
      s!"actual={render.intentType actual.intentType}")
  else if expected.riskLevel ≠ actual.riskLevel then
    some (s!"risk_level: expected={expected.riskLevel.debug} actual={actual.riskLevel.debug}")
  else if Ieee.apart ρ epsilon expected.confidence actual.confidence then
    some (s!"confidence: expected={render.float expected.confidence} " ++
      s!"actual={render.float actual.confidence}")
  else if expected.rationaleTags ≠ actual.rationaleTags then
    some (s!"rationale_tags: expected={Rendering.vec render.str expected.rationaleTags} " ++
      s!"actual={Rendering.vec render.str actual.rationaleTags}")
  else if expected.suggestedActions.length ≠ actual.suggestedActions.length then
    some (s!"suggested_actions count: expected={expected.suggestedActions.length} " ++
      s!"actual={actual.suggestedActions.length}")
  else suggestedDiff render expected.suggestedActions actual.suggestedActions

/-- Lists of different lengths are still compared as far as both go. -/
def intentDivergences (expected actual : IntentBatch Ieee) : List String :=
  (if expected.model ≠ actual.model then
    [s!"model mismatch: expected={render.str expected.model} actual={render.str actual.model}"]
  else []) ++
  (if expected.intents.length ≠ actual.intents.length then
    [s!"intent count mismatch: expected={expected.intents.length} " ++
      s!"actual={actual.intents.length}"]
  else []) ++
  (expected.intents.zip actual.intents).zipIdx.filterMap fun p =>
    (intentDiff ρ render p.1.1 p.1.2).map fun reason => s!"intent[{p.2}]: {reason}"

/-- Layers that are not checked do not match and have no divergences. -/
def validateSanitization {F : Type} (golden : GoldenTrace F) : ReplayResult :=
  let sanitization := sanitizationDivergences sanitizer golden
  { traceId := golden.traceId
    sanitizationMatch := sanitization.isEmpty
    sanitizationDivergences := sanitization
    policyMatch := false
    policyDivergences := []
    executionMatch := false
    executionDivergences := [] }

def validate (golden : GoldenTrace Ieee) (actualIntents : IntentBatch Ieee)
    (actualExecuted : List ExecutedAction) : ReplayResult :=
  let sanitization := sanitizationDivergences sanitizer golden
  let policy := intentDivergences ρ render golden.expectedIntents actualIntents
  let execution := executionDivergences golden.expectedActions actualExecuted
  { traceId := golden.traceId
    sanitizationMatch := sanitization.isEmpty
    sanitizationDivergences := sanitization
    policyMatch := policy.isEmpty
    policyDivergences := policy
    executionMatch := execution.isEmpty
    executionDivergences := execution }

end

/-! What the comparisons of a layer see. -/

theorem sanitizedEq_iff {a b : SanitizedEvent} : sanitizedEq a b ↔
    a.eventType = b.eventType ∧ a.sourceTier = b.sourceTier ∧ a.appPackage = b.appPackage ∧
      a.uid = b.uid := by
  simp [sanitizedEq, and_assoc]

theorem executedEq_iff {a b : ExecutedAction} : executedEq a b ↔
    a.actionType = b.actionType ∧ a.target = b.target ∧ a.success = b.success ∧
      a.errorReason = b.errorReason := by
  simp [executedEq, and_assoc]

theorem suggestedEq_iff {a b : SuggestedAction} : suggestedEq a b ↔ a = b := by
  cases a
  cases b
  simp [suggestedEq, and_assoc]

theorem getElem?_zipTiers (raws : List RawEvent) (tiers : List SourceTier) (i : Nat) :
    (zipTiers raws tiers)[i]? = raws[i]?.map fun raw => (raw, tiers[i]?.getD .publicApi) := by
  induction raws generalizing tiers i with
  | nil => rfl
  | cons raw raws ih =>
    cases tiers with
    | nil =>
      cases i with
      | zero => rfl
      | succ i => simpa [zipTiers] using ih [] i
    | cons tier tiers =>
      cases i with
      | zero => rfl
      | succ i => simpa [zipTiers] using ih tiers i

@[simp] theorem length_zipTiers (raws : List RawEvent) (tiers : List SourceTier) :
    (zipTiers raws tiers).length = raws.length := by
  induction raws generalizing tiers with
  | nil => rfl
  | cons raw raws ih => cases tiers <;> simp [zipTiers, ih]

variable {sanitizer : Nat → RawEvent → SourceTier → SanitizedEvent}
  {ρ : Ieee.Rounding} {render : Rendering}

theorem length_actualSanitized {F : Type} (golden : GoldenTrace F) :
    (actualSanitized sanitizer golden).length = golden.rawEvents.length := by
  simp [actualSanitized]

theorem getElem?_actualSanitized {F : Type} (golden : GoldenTrace F) (i : Nat) :
    (actualSanitized sanitizer golden)[i]? =
      golden.rawEvents[i]?.map fun raw =>
        sanitizer i raw (golden.sourceTiers[i]?.getD .publicApi) := by
  rw [actualSanitized, List.getElem?_mapIdx, getElem?_zipTiers, Option.map_map]
  rfl

end DefaultTraceEngine

end Dipecs.Core
