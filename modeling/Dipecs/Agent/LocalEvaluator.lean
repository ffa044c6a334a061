import Dipecs.Agent.PrefetchTarget
import Dipecs.Agent.RuleBased
import Dipecs.Library.MachineInt
import Dipecs.Library.Merging
import Dipecs.Library.Reordering
import Mathlib.Data.List.Sort
import Mathlib.Data.String.Basic
import Mathlib.Order.MinMax

/-! The local evaluator: every signal of a window is scored into a candidate, and the
candidates are filtered, merged by key and ranked.  Merging uses a hash map, so the order
in which the merged candidates come out is a parameter. -/

namespace Dipecs.Agent

open Dipecs.Spec Dipecs.Core Dipecs.Library

namespace LocalEvaluator

structure WindowAggregation where
  packageCounts : List (String × UInt32)
  notificationTimestamps : List (String × Int)
  fileTimestamps : List (String × Int)
  recentForeground : Option (Int × String)
  frequentForegroundApps : List (String × UInt32)
  frequentNotifyingApps : List (String × UInt32)
  recentPolicyRejections : List (String × UInt32)
  recentExecutionFailures : List (String × UInt32)

def containsKey (counts : List (String × UInt32)) (key : String) : Bool :=
  counts.any fun x => x.1 = key

def feedbackActionKey (actionType : String) (target : Option String) : String :=
  actionType ++ ":" ++ target.getD ""

def noteForeground (recent : Option (Int × String)) (timestampMs : Int) (package : String) :
    Option (Int × String) :=
  match recent with
  | some (latest, _) => if timestampMs ≥ latest then some (timestampMs, package) else recent
  | none => some (timestampMs, package)

def aggregateType (a : WindowAggregation) (timestampMs : Int) :
    SanitizedEventType → WindowAggregation
  | .appTransition package _ .foreground =>
    { a with
      packageCounts := ContextBuilder.bump package a.packageCounts
      recentForeground := noteForeground a.recentForeground timestampMs package }
  | .notification package _ _ _ _ _ _ _ =>
    { a with
      packageCounts := ContextBuilder.bump package a.packageCounts
      notificationTimestamps := a.notificationTimestamps ++ [(package, timestampMs)] }
  | .fileActivity (some package) _ _ _ =>
    { a with
      packageCounts := ContextBuilder.bump package a.packageCounts
      fileTimestamps := a.fileTimestamps ++ [(package, timestampMs)] }
  | .interAppInteraction (some package) _ _ =>
    { a with packageCounts := ContextBuilder.bump package a.packageCounts }
  | _ => a

def aggregate (a : WindowAggregation) (e : SanitizedEvent) : WindowAggregation :=
  aggregateType a e.timestampMs e.eventType

def isRejection (o : ActionFeedbackRecord) : Bool :=
  o.correctness = .policyRejected || Text.contains "Denied" o.terminal || o.denialReason.isSome

def isFailure (o : ActionFeedbackRecord) : Bool :=
  o.correctness = .executionFailed || Text.contains "Failed" o.terminal || o.error.isSome

def countKeys (outcomes : List ActionFeedbackRecord) : List (String × UInt32) :=
  outcomes.foldl (fun counts o =>
    ContextBuilder.bump (feedbackActionKey o.actionType o.target) counts) []

def WindowAggregation.fromContext (context : StructuredContext)
    (behaviorProfile : Option UserBehaviorProfile) (recentFeedback : List RecentDecisionRecord) :
    WindowAggregation :=
  let outcomes := recentFeedback.flatMap RecentDecisionRecord.actionOutcomes
  context.events.foldl aggregate
    { packageCounts := []
      notificationTimestamps := []
      fileTimestamps := []
      recentForeground := none
      frequentForegroundApps := (behaviorProfile.map (·.frequentForegroundApps)).getD []
      frequentNotifyingApps := (behaviorProfile.map (·.frequentNotifyingApps)).getD []
      recentPolicyRejections := countKeys (outcomes.filter isRejection)
      recentExecutionFailures := countKeys (outcomes.filter isFailure) }

structure WindowSignals where
  foregroundApps : List String
  lowBattery : Bool
  charging : Bool
  cellular : Bool
  offline : Bool
  screenNoninteractive : Bool

def isLowBattery (batteryPct : Option UInt8) : Bool := batteryPct.any (· < 20)

def signalType (s : WindowSignals) : SanitizedEventType → WindowSignals
  | .systemStatus battery charging network _ _ _ =>
    { s with
      lowBattery := s.lowBattery || isLowBattery battery
      charging := s.charging || charging
      cellular := s.cellular || decide (network = .cellular)
      offline := s.offline || decide (network = .offline) }
  | .screen .interactive => s
  | .screen _ => { s with screenNoninteractive := true }
  | _ => s

def signal (s : WindowSignals) (e : SanitizedEvent) : WindowSignals := signalType s e.eventType

def WindowSignals.fromContext (context : StructuredContext) : WindowSignals :=
  let apps := context.summary.foregroundApps
  context.events.foldl signal
    (match context.summary.latestSystemStatus with
    | some status =>
      ⟨apps, isLowBattery status.batteryPct, status.isCharging,
        decide (status.network = .cellular), decide (status.network = .offline), false⟩
    | none => ⟨apps, false, false, false, false, false⟩)

section
variable {F : Type} [LE F] [LT F] [DecidableLE F] [DecidableLT F] [Min F] [Max F] [Add F] [Sub F]
  [Neg F] [OfScientific F]

structure Score (F : Type) where
  value : F
  tags : List String
  packageBoost : F
  behaviorBoost : F
  correlationBoost : F

inductive BoostGroup
  | package | behavior | correlation
  deriving DecidableEq

namespace Score

def withTags (value : F) (tags : List String) : Score F := ⟨value, tags, 0.0, 0.0, 0.0⟩

def new (value : F) : Score F := withTags value []

def add (s : Score F) (delta : F) (tag : String) : Score F :=
  { s with value := s.value + delta, tags := s.tags ++ [tag] }

def remaining (s : Score F) : BoostGroup → F
  | .package => 0.08 - s.packageBoost
  | .behavior => 0.05 - s.behaviorBoost
  | .correlation => 0.08 - s.correlationBoost

def boost (s : Score F) (applied : F) : BoostGroup → Score F
  | .package => { s with packageBoost := s.packageBoost + applied }
  | .behavior => { s with behaviorBoost := s.behaviorBoost + applied }
  | .correlation => { s with correlationBoost := s.correlationBoost + applied }

def addGrouped (s : Score F) (group : BoostGroup) (delta : F) (tag : String) : Score F :=
  let applied := min delta (max (s.remaining group) 0.0)
  if applied ≤ 0.0 then { s with tags := s.tags ++ [tag ++ ":capped"] }
  else ({ s with value := s.value + applied, tags := s.tags ++ [tag] } : Score F).boost applied
    group

def addIf (s : Score F) (condition : Bool) (delta : F) (tag : String) : Score F :=
  if condition then s.add delta tag else s

def applyWindow (s : Score F) (signals : WindowSignals) (userVisibleHint : Bool) : Score F :=
  let s := s.addIf (signals.lowBattery && !signals.charging) (-0.18) "local:penalty:low_battery"
  let s := s.addIf signals.cellular (-0.06) "local:penalty:cellular_network"
  let s := s.addIf signals.offline (-0.20) "local:penalty:offline"
  let s := s.addIf (signals.screenNoninteractive && userVisibleHint) (-0.12)
    "local:penalty:screen_noninteractive"
  { s with value := min (max s.value 0.0) 0.99 }

end Score

namespace WindowAggregation

def applyPackageBoost (a : WindowAggregation) (package : Option String) (score : Score F) :
    Score F :=
  match package with
  | none => score
  | some package =>
    let score := if (a.packageCounts.lookup package).getD 0 ≥ 2 then
        score.addGrouped .package 0.04 "local:boost:repeated_package_in_window"
      else score
    let score := if containsKey a.frequentForegroundApps package then
        score.addGrouped .behavior 0.03 "local:boost:frequent_foreground_app"
      else score
    if containsKey a.frequentNotifyingApps package then
      score.addGrouped .behavior 0.03 "local:boost:frequent_notifying_app"
    else score

def nearestDeltaMs (timestamps : List (String × Int)) (package : String) (timestampMs : Int) :
    Option Int :=
  ((timestamps.filter fun x => x.1 = package).map fun x => i64 (satSub timestampMs x.2).natAbs).min?

/-- Activity of the same package nearby, strongly correlated within ten seconds. -/
def applyCorrelation (delta : Option Int) (tag : String) (score : Score F) : Score F :=
  match delta with
  | some delta =>
    if delta ≤ 10000 then score.addGrouped .correlation 0.06 (tag ++ "_strong")
    else score.addGrouped .correlation 0.03 (tag ++ "_weak")
  | none => score

def applyFileNotificationBoost (a : WindowAggregation) (package : Option String)
    (fileTimestampMs : Int) (score : Score F) : Score F :=
  match package with
  | none => score
  | some package =>
    applyCorrelation (nearestDeltaMs a.notificationTimestamps package fileTimestampMs)
      "local:boost:file_notification_same_package" score

def applyNotificationFileBoost (a : WindowAggregation) (package : String)
    (notificationTimestampMs : Int) (score : Score F) : Score F :=
  applyCorrelation (nearestDeltaMs a.fileTimestamps package notificationTimestampMs)
    "local:boost:notification_file_activity_link" score

def isRecentForeground (a : WindowAggregation) (package : String) : Bool :=
  a.recentForeground.map Prod.snd = some package

def applyActionFeedback (a : WindowAggregation) (actions : List SuggestedAction)
    (score : Score F) : Score F :=
  actions.foldl (fun score action =>
    let key := feedbackActionKey action.actionType.debug action.target
    let score := score.addIf (containsKey a.recentPolicyRejections key) (-0.12)
      "local:penalty:recent_policy_rejected"
    score.addIf (containsKey a.recentExecutionFailures key) (-0.08)
      "local:penalty:recent_execution_failed") score

end WindowAggregation

structure IntentCandidate (F : Type) where
  intentType : IntentType
  confidence : F
  actions : List SuggestedAction
  tags : List String
  deriving DecidableEq

def IntentCandidate.new (intentType : IntentType) (score : Score F)
    (actions : List SuggestedAction) (tags : List String) : IntentCandidate F :=
  ⟨intentType, score.value, actions, tags ++ score.tags⟩

def fileCandidate (a : WindowAggregation) (signals : WindowSignals) (timestampMs : Int)
    (package : Option String) (category : ExtensionCategory) (isHotFile : Bool) :
    IntentCandidate F :=
  let score := Score.new (if isHotFile then 0.80 else 0.72)
  let score := score.addIf isHotFile 0.06 "local:boost:hot_file"
  let score := a.applyPackageBoost package score
  let score := a.applyFileNotificationBoost package timestampMs score
  let score := score.applyWindow signals false
  let actions :=
    [⟨.prefetchFile, some (PrefetchTarget.defaultPrefetchTarget category package), .idleTime⟩]
  .new (.handleFile category) (a.applyActionFeedback actions score) actions
    ["local:file_activity", "local:extension:" ++ category.debug]

def notificationCandidate (a : WindowAggregation) (signals : WindowSignals) (timestampMs : Int)
    (package : String) (hints : List SemanticHint) (isOngoing : Bool) : IntentCandidate F :=
  let score := Score.new (if isOngoing then 0.66 else 0.74)
  let score := score.addIf (signals.foregroundApps.contains package) 0.08
    "local:boost:foreground_notification_app"
  let score := score.addIf (hints.contains .linkAttachment) 0.03 "local:boost:link_attachment"
  let score := a.applyPackageBoost (some package) score
  let score := a.applyNotificationFileBoost package timestampMs score
  let score := score.applyWindow signals true
  let actions := [⟨.preWarmProcess, some ("pkg:" ++ package), .immediate⟩]
  .new (.openApp package) (a.applyActionFeedback actions score) actions
    ["local:attachment_notification"]

def transitionCandidate (a : WindowAggregation) (signals : WindowSignals) (package : String) :
    IntentCandidate F :=
  let score := (Score.new 0.78).add 0.04 "local:boost:foreground"
  let score := a.applyPackageBoost (some package) score
  let score := if a.isRecentForeground package then
      score.addGrouped .package 0.03 "local:boost:recent_foreground"
    else score
  let score := score.applyWindow signals true
  let actions := [⟨.preWarmProcess, some ("pkg:" ++ package), .immediate⟩,
    ⟨.keepAlive, some "work:collector_heartbeat", .immediate⟩]
  .new (.switchToApp package) (a.applyActionFeedback actions score) actions
    ["local:foreground_transition"]

def interAppCandidate (a : WindowAggregation) (signals : WindowSignals) : IntentCandidate F :=
  let score := (Score.new 0.80).applyWindow signals false
  let actions := [⟨.preWarmProcess, some "own:resources", .immediate⟩]
  .new (.enterContext "inter_app_interaction") (a.applyActionFeedback actions score) actions
    ["local:inter_app_interaction"]

def isAttachmentHint (h : SemanticHint) : Bool :=
  h = .fileMention || h = .imageMention || h = .linkAttachment

def candidateType (a : WindowAggregation) (signals : WindowSignals) (timestampMs : Int) :
    SanitizedEventType → Option (IntentCandidate F)
  | .fileActivity package category _ isHotFile =>
    some (fileCandidate a signals timestampMs package category isHotFile)
  | .notification package _ _ _ _ hints isOngoing _ =>
    if hints.any isAttachmentHint then
      some (notificationCandidate a signals timestampMs package hints isOngoing)
    else none
  | .appTransition package _ .foreground => some (transitionCandidate a signals package)
  | .interAppInteraction _ _ .activityLaunch | .interAppInteraction _ _ .shareIntent =>
    some (interAppCandidate a signals)
  | _ => none

def candidateOf (a : WindowAggregation) (signals : WindowSignals) (e : SanitizedEvent) :
    Option (IntentCandidate F) :=
  candidateType a signals e.timestampMs e.eventType

def batteryCandidates (a : WindowAggregation) (signals : WindowSignals) :
    List (IntentCandidate F) :=
  if signals.lowBattery && !signals.charging then
    let actions := [⟨.releaseMemory, some "cache:prefetch", .immediate⟩]
    let score := Score.withTags 0.84 ["local:signal:low_battery"]
    [.new .idle (a.applyActionFeedback actions score) actions ["local:low_battery"]]
  else []

end

/-! ### Filtering, merging and ranking -/

def isSafePrefetchTarget (target : String) : Bool :=
  Text.startsWith "url:https://" target || Text.startsWith "uri:content://" target

def isSafePrewarmTarget (target : String) (signals : WindowSignals) : Bool :=
  if signals.screenNoninteractive &&
      (Text.startsWith "pkg:" target || Text.startsWith "notif:" target) then false
  else Text.startsWith "own:" target || Text.startsWith "notif:" target ||
    (Text.stripPrefix "pkg:" target).any PrefetchTarget.looksLikePackageName

def isPolicyAwareAction (action : SuggestedAction) (signals : WindowSignals) : Bool :=
  match action.actionType with
  | .prefetchFile =>
    (!signals.lowBattery || signals.charging) && !signals.offline &&
      action.target.any isSafePrefetchTarget
  | .preWarmProcess => action.target.any fun target => isSafePrewarmTarget target signals
  | .keepAlive => action.target.all fun target => Text.startsWith "work:" target
  | .releaseMemory =>
    action.target.all fun target => target == "cache:prefetch" || target == "cache:all"
  | .noOp => action.target.isNone

def extensionKey : ExtensionCategory → String
  | .document => "document"
  | .image => "image"
  | .video => "video"
  | .audio => "audio"
  | .archive => "archive"
  | .code => "code"
  | .other => "other"
  | .unknown => "unknown"

def intentKey : IntentType → String
  | .openApp package => "open:" ++ package
  | .switchToApp package => "switch:" ++ package
  | .checkNotification package => "notify:" ++ package
  | .handleFile category => "file:" ++ extensionKey category
  | .enterContext context => "context:" ++ context
  | .idle => "idle"

def mergeTags (target source : List String) : List String :=
  source.foldl ContextBuilder.pushNew target

section
variable {F : Type} [LE F] [DecidableLE F]

def candidateKey (c : IntentCandidate F) : String :=
  "|".intercalate (intentKey c.intentType ::
    c.actions.map fun action => action.actionType.debug ++ ":" ++ action.target.getD "")

def filterActions (signals : WindowSignals) (c : IntentCandidate F) : IntentCandidate F :=
  let actions := c.actions.filter fun action => isPolicyAwareAction action signals
  { c with
    actions := actions
    tags := if actions.length < c.actions.length then
      c.tags ++ ["local:suppress:policy_aware_filter"] else c.tags }

/-- Of two candidates with one key the more confident stays, the older of two equals. -/
def mergeCandidates (existing candidate : IntentCandidate F) : IntentCandidate F :=
  if existing.confidence ≥ candidate.confidence then
    { existing with tags := mergeTags existing.tags candidate.tags }
  else { candidate with tags := mergeTags candidate.tags existing.tags }

def dedupInsert (candidate : IntentCandidate F) :
    List (IntentCandidate F) → List (IntentCandidate F)
  | [] => [candidate]
  | existing :: rest =>
    if candidateKey existing = candidateKey candidate then
      mergeCandidates existing candidate :: rest
    else existing :: dedupInsert candidate rest

def dedup (candidates : List (IntentCandidate F)) : List (IntentCandidate F) :=
  candidates.foldl (fun deduped candidate => dedupInsert candidate deduped) []

@[simp] theorem candidateKey_mergeCandidates {existing candidate : IntentCandidate F}
    (h : candidateKey existing = candidateKey candidate) :
    candidateKey (mergeCandidates existing candidate) = candidateKey existing := by
  unfold mergeCandidates
  split
  · rfl
  · exact h.symm

theorem mergeCandidates_keepsKey :
    KeepsKey (candidateKey (F := F)) mergeCandidates :=
  fun _ _ => candidateKey_mergeCandidates

theorem dedup_eq (candidates : List (IntentCandidate F)) :
    dedup candidates = mergeByKey candidateKey mergeCandidates candidates := by
  have hinsert : ∀ (c : IntentCandidate F) (l : List (IntentCandidate F)),
      dedupInsert c l = insertMerged candidateKey mergeCandidates c l := by
    intro c l
    induction l with
    | nil => rfl
    | cons existing rest ih => rw [dedupInsert, insertMerged, ih]
  simp only [dedup, mergeByKey, hinsert]

theorem keys_dedup_nodup (candidates : List (IntentCandidate F)) :
    ((dedup candidates).map candidateKey).Nodup := by
  rw [dedup_eq]
  exact nodup_keys_mergeByKey mergeCandidates_keepsKey candidates

variable [LT F] [DecidableLT F]

def candidateLe (a b : IntentCandidate F) : Bool :=
  decide (b.confidence < a.confidence ∨
    ¬a.confidence < b.confidence ∧ candidateKey a ≤ candidateKey b)

def finalizeCandidates (order : Reordering (IntentCandidate F))
    (candidates : List (IntentCandidate F)) (signals : WindowSignals) (maxIntents : Nat) :
    List (IntentCandidate F) :=
  let candidates := candidates.map (filterActions signals)
  let candidates := candidates.filter fun c => !c.actions.isEmpty
  ((order.reorder (dedup candidates)).mergeSort candidateLe).take maxIntents

def IntentCandidate.draft (c : IntentCandidate F) : Intent F :=
  ⟨"", c.intentType, c.confidence, .low, c.actions, c.tags⟩

variable [Min F] [Max F] [Add F] [Sub F] [Neg F] [OfScientific F]

def drafts (order : Reordering (IntentCandidate F)) (context : StructuredContext)
    (behaviorProfile : Option UserBehaviorProfile) (recentFeedback : List RecentDecisionRecord) :
    List (Intent F) :=
  let signals := WindowSignals.fromContext context
  let aggregation := WindowAggregation.fromContext context behaviorProfile recentFeedback
  let candidates := context.events.filterMap (candidateOf aggregation signals) ++
    batteryCandidates aggregation signals
  let found := finalizeCandidates order candidates signals 5
  if found.isEmpty then
    [Agent.draft .idle 0.60 ⟨.noOp, none, .idleTime⟩ "local:idle_window"]
  else found.map IntentCandidate.draft

def evaluateInput (draw : BackendDraw) (order : Reordering (IntentCandidate F))
    (context : StructuredContext) (behaviorProfile : Option UserBehaviorProfile)
    (recentFeedback : List RecentDecisionRecord) : DecisionBackendResult F :=
  let intents := drawIds draw (drafts order context behaviorProfile recentFeedback)
  { route := .localEvaluator
    intentBatch := ⟨context.windowId, intents, context.windowEndMs, "local-evaluator-v0.1"⟩
    rationaleTags := intents.flatMap Intent.rationaleTags
    latencyUs := draw.latencyUs
    error := none }

def evaluateModelInput (draw : BackendDraw) (order : Reordering (IntentCandidate F))
    (input : ModelInput) : DecisionBackendResult F :=
  evaluateInput draw order input.currentContext (some input.behaviorProfile) input.recentFeedback

end

section
variable {F : Type} [LinearOrder F]

theorem candidateLe_trans (a b c : IntentCandidate F) (hab : candidateLe a b = true)
    (hbc : candidateLe b c = true) : candidateLe a c = true := by
  simp only [candidateLe, decide_eq_true_eq, not_lt] at *
  rcases hab with hab | ⟨hab, hkey⟩
  · rcases hbc with hbc | ⟨hbc, -⟩
    · exact .inl (hbc.trans hab)
    · exact .inl (hbc.trans_lt hab)
  · rcases hbc with hbc | ⟨hbc, hkey'⟩
    · exact .inl (hbc.trans_le hab)
    · exact .inr ⟨hbc.trans hab, hkey.trans hkey'⟩

theorem candidateLe_total (a b : IntentCandidate F) :
    (candidateLe a b || candidateLe b a) = true := by
  simp only [candidateLe, Bool.or_eq_true, decide_eq_true_eq, not_lt]
  rcases lt_trichotomy a.confidence b.confidence with h | h | h
  · exact .inr (.inl h)
  · rcases le_total (candidateKey a) (candidateKey b) with hkey | hkey
    · exact .inl (.inr ⟨h.ge, hkey⟩)
    · exact .inr (.inr ⟨h.le, hkey⟩)
  · exact .inl (.inl h)

theorem candidateKey_eq_of_candidateLe {a b : IntentCandidate F} (hab : candidateLe a b = true)
    (hba : candidateLe b a = true) : candidateKey a = candidateKey b := by
  simp only [candidateLe, decide_eq_true_eq, not_lt] at hab hba
  rcases hab with hab | ⟨hab, hkey⟩
  · rcases hba with hba | ⟨hba, -⟩
    · exact absurd hab (lt_asymm hba)
    · exact absurd hab (not_lt.mpr hba)
  · rcases hba with hba | ⟨-, hkey'⟩
    · exact absurd hba (not_lt.mpr hab)
    · exact le_antisymm hkey hkey'

theorem finalizeCandidates_order (order : Reordering (IntentCandidate F))
    (candidates : List (IntentCandidate F)) (signals : WindowSignals) (maxIntents : Nat) :
    finalizeCandidates order candidates signals maxIntents =
      finalizeCandidates .id candidates signals maxIntents := by
  unfold finalizeCandidates
  simp only
  rw [Reordering.mergeSort_reorder order candidateLe_trans candidateLe_total]
  · rfl
  · intro a ha b hb hab hba
    exact List.inj_on_of_nodup_map (keys_dedup_nodup _) ha hb
      (candidateKey_eq_of_candidateLe hab hba)

end

end LocalEvaluator

end Dipecs.Agent
