import Dipecs.Agent.LocalEvaluator
import Dipecs.Agent.Router
import Dipecs.Cli.AuditStream
import Dipecs.Collector.AndroidJsonl
import Dipecs.Core.ActionLifecycle
import Dipecs.Core.PrivacyAirgap

/-! Replay of a trace: every line goes through ingress, air-gap, window, router and
lifecycle, up to a chosen stage, and each stage emits its records.  No cloud and no
next-app model are configured. -/

namespace Dipecs.Cli

open Dipecs.Spec Dipecs.Core Dipecs.Agent Dipecs.Collector Dipecs.Library

namespace RustCollectorIngress

def accept (envelope : CollectorEnvelope) : Except String IngestedRawEvent :=
  if envelope.schemaVersion ≠ "dipecs.collector.v1" then
    .error ("unsupported collector schema version: " ++ envelope.schemaVersion)
  else .ok ⟨envelope.rawEvent, envelope.sourceTier⟩

end RustCollectorIngress

namespace OfflineAdapter

def summary (action : SuggestedAction) : String :=
  match action.actionType with
  | .noOp => "noop"
  | .preWarmProcess => "simulate_prewarm:" ++ action.target.getD "unknown"
  | .prefetchFile => "simulate_cache:" ++ action.target.getD "unknown"
  | .keepAlive => "simulate_keepalive:" ++ action.target.getD "system"
  | .releaseMemory => "simulate_release:" ++ action.target.getD "system"

def execute (authorized : AuthorizedAction) : Except AdapterError ActionOutcome :=
  .ok ⟨authorized.action.actionType.debug, authorized.action.target, summary authorized.action, 0⟩

def adapter : ActionAdapter := ⟨fun _ authorized => execute authorized⟩

end OfflineAdapter

inductive Stage
  | ingest | sanitize | context | decision | policy | execute
  deriving DecidableEq

namespace Stage

def toNat : Stage → Nat
  | .ingest => 0
  | .sanitize => 1
  | .context => 2
  | .decision => 3
  | .policy => 4
  | .execute => 5

def includes (s other : Stage) : Bool := decide (other.toNat ≤ s.toNat)

end Stage

structure ReplaySummary where
  linesTotal : UInt64 := 0
  linesSkippedNoRawEvent : UInt64 := 0
  linesParseError : UInt64 := 0
  eventsIngested : UInt64 := 0
  windowsClosed : UInt64 := 0
  intentsTotal : UInt64 := 0
  intentsApproved : UInt64 := 0
  intentsRejected : UInt64 := 0
  actionsAuthorized : UInt64 := 0
  actionsDenied : UInt64 := 0
  actionsFailed : UInt64 := 0
  auditRecords : UInt64 := 0
  denialCounts : DenialReason → UInt64 := fun _ => 0

structure ReplayConfig where
  serde : Serde
  toLowercase : String → String
  runtimeUserId : Option String
  windowSecs : UInt64
  stage : Stage

/-- What the handling of one line may draw, besides what the line says. -/
structure ReplayDraw (F : Type) where
  eventId : String
  window : WindowDraw
  ruleBased : BackendDraw
  localEvaluator : BackendDraw
  candidates : Reordering (LocalEvaluator.IntentCandidate F)
  fallback : BackendDraw
  clock : Clock

inductive TraceItem
  | line (text : String)
  | unreadable
  | endOfTrace

structure ReplayInput (F : Type) where
  item : TraceItem
  draw : ReplayDraw F

/-- `failed` is the early return with an error. -/
structure ReplayState where
  lineNo : UInt64
  summary : ReplaySummary
  aggregator : Option WindowAggregator
  lastCapturedAtMs : Int
  windowOrdinal : UInt32
  circuit : CircuitState
  failed : Bool

namespace Replay

/-! ### Records -/

def errorRecord (lineNo : UInt64) (error : String) : Json :=
  .obj [("stage", .str "error"), ("line", natJson lineNo.toNat), ("error", .str error)]

def rawEventKind : RawEvent → String
  | .appTransition _ => "AppTransition"
  | .binderTransaction _ => "BinderTransaction"
  | .procStateChange _ => "ProcStateChange"
  | .fileSystemAccess _ => "FileSystemAccess"
  | .notificationPosted _ => "NotificationPosted"
  | .notificationInteraction _ => "NotificationInteraction"
  | .screenState _ => "ScreenState"
  | .systemState _ => "SystemState"

def ingestRecord (lineNo : UInt64) (ingested : IngestedRawEvent) : Json :=
  .obj [("stage", .str "ingest"), ("line", natJson lineNo.toNat),
    ("source_tier", .str ingested.sourceTier.debug),
    ("raw_event_kind", .str (rawEventKind ingested.rawEvent))]

def sanitizeRecord (lineNo : UInt64) (sanitized : SanitizedEvent) : Json :=
  .obj [("stage", .str "sanitize"), ("line", natJson lineNo.toNat),
    ("sanitized", sanitized.toJson)]

def contextRecord (ctx : StructuredContext) : Json :=
  .obj [("stage", .str "context"), ("window_id", .str ctx.windowId),
    ("window_start_ms", intJson ctx.windowStartMs), ("window_end_ms", intJson ctx.windowEndMs),
    ("duration_secs", natJson ctx.durationSecs.toNat), ("event_count", natJson ctx.events.length),
    ("summary", ctx.summary.toJson)]

section
variable {F : Type}

def decisionRecord (ctx : StructuredContext) (decision : DecisionBackendResult F) : Json :=
  .obj [("stage", .str "decision"), ("window_id", .str ctx.windowId),
    ("route", .str decision.route.debug), ("model", .str decision.intentBatch.model),
    ("intent_count", natJson decision.intentBatch.intents.length),
    ("rationale_tags", .arr (decision.rationaleTags.map .str)),
    ("error", optionJson .str decision.error)]

def executedPolicyRecord (ctx : StructuredContext) (windowOrdinal : UInt32)
    (decision : DecisionBackendResult F) (auditRecords : List AuditRecord) : Json :=
  .obj [("stage", .str "policy"), ("window_id", .str ctx.windowId),
    ("window_ordinal", natJson windowOrdinal.toNat),
    ("intent_count", natJson decision.intentBatch.intents.length),
    ("audit_records", .arr (auditRecords.map AuditRecord.toJson))]

def executeRecord (ctx : StructuredContext) (windowOrdinal : UInt32) (record : AuditRecord) :
    Json :=
  .obj [("stage", .str "execute"), ("window_id", .str ctx.windowId),
    ("window_ordinal", natJson windowOrdinal.toNat), ("coord", record.coord.toJson),
    ("intent_id", .str record.intentId), ("action_type", .str record.actionType.debug),
    ("terminal", .str record.terminal.debug),
    ("outcome", optionJson ActionOutcomeSummary.toJson record.outcome),
    ("error", optionJson .str record.error)]

def isApproved (d : PolicyActionDecision) : Bool := d.verdict = .approved

def denialOf (d : PolicyActionDecision) : Option DenialReason :=
  match d.verdict with
  | .approved => none
  | .denied reason => some reason

def approvedActions (intent : Intent F) (decisions : List PolicyActionDecision) :
    List SuggestedAction :=
  (decisions.filter isApproved).filterMap fun d => intent.suggestedActions[d.actionOrdinal.toNat]?

def policyRecord (ctx : StructuredContext) (windowOrdinal : UInt32) (intent : Intent F)
    (decisions : List PolicyActionDecision) : Json :=
  .obj [("stage", .str "policy"), ("window_id", .str ctx.windowId),
    ("window_ordinal", natJson windowOrdinal.toNat), ("intent_id", .str intent.intentId),
    ("approved", .bool (decide (0 < decisions.countP isApproved))),
    ("action_denials", .arr ((decisions.filterMap denialOf).map fun d => .str d.debug)),
    ("approved_actions",
      .arr ((approvedActions intent decisions).map fun a => .obj [("action", a.toJson)]))]

end

/-! ### Counters -/

namespace Summary

def countDenial (summary : ReplaySummary) (reason : DenialReason) : ReplaySummary :=
  { summary with denialCounts := fun r =>
      if r = reason then summary.denialCounts r + 1 else summary.denialCounts r }

def countAudit (summary : ReplaySummary) (record : AuditRecord) : ReplaySummary :=
  let summary := { summary with auditRecords := summary.auditRecords + 1 }
  match record.terminal with
  | .succeeded => { summary with actionsAuthorized := summary.actionsAuthorized + 1 }
  | .failed =>
    { summary with
      actionsAuthorized := summary.actionsAuthorized + 1
      actionsFailed := summary.actionsFailed + 1 }
  | .rejectedInvalidSchema | .deniedByCapability | .deniedByPolicy =>
    let summary := { summary with actionsDenied := summary.actionsDenied + 1 }
    match record.denialReason with
    | some reason => countDenial summary reason
    | none => summary
  | _ => summary

def countIntent (summary : ReplaySummary) (approved : Bool) : ReplaySummary :=
  if approved then { summary with intentsApproved := summary.intentsApproved + 1 }
  else { summary with intentsRejected := summary.intentsRejected + 1 }

def wasAuthorized (auditRecords : List AuditRecord) (intentOrdinal : UInt32) : Bool :=
  auditRecords.any fun r => r.coord.intentOrdinal == intentOrdinal &&
    (r.terminal == .succeeded || r.terminal == .failed)

def countPolicy (summary : ReplaySummary) (decisions : List PolicyActionDecision) :
    ReplaySummary :=
  let approved := decisions.countP isApproved
  let summary := countIntent summary (decide (0 < approved))
  let summary := { summary with
    actionsAuthorized := summary.actionsAuthorized + UInt64.ofNat approved
    actionsDenied := summary.actionsDenied + UInt64.ofNat (decisions.length - approved) }
  (decisions.filterMap denialOf).foldl countDenial summary

end Summary

/-! ### Windows -/

section
variable {F : Type} [LinearOrder F] [Add F] [Sub F] [Neg F] [OfScientific F]

def backends (draw : ReplayDraw F) : Backends F where
  ruleBased input := RuleBasedBackend.evaluate draw.ruleBased input.currentContext
  localEvaluator := LocalEvaluator.evaluateModelInput draw.localEvaluator draw.candidates
  fallback input := FallbackNoOpBackend.evaluate draw.fallback input.currentContext
  cloudLlm := none

def currentOnly (ctx : StructuredContext) : ModelInput :=
  ⟨ctx, ⟨none, "", 0, [], [], [], [], [], [], none⟩, []⟩

def evaluate (cfg : ReplayConfig) (draw : ReplayDraw F) (circuit : CircuitState)
    (ctx : StructuredContext) : Evaluation F :=
  DecisionRouter.evaluateModelInput ⟨{}, cfg.runtimeUserId⟩ (backends draw) draw.clock circuit
    (currentOnly ctx)

def audit (windowOrdinal : UInt32) (decision : DecisionBackendResult F)
    (ctx : StructuredContext) : List AuditRecord :=
  (ActionLifecycle.run .default OfflineAdapter.adapter windowOrdinal decision.intentBatch
    decision.route decision.error (CapabilityLevel.forRoute decision.route) ctx).2

def executeWindow (windowOrdinal : UInt32) (ctx : StructuredContext)
    (decision : DecisionBackendResult F) (summary : ReplaySummary) : ReplaySummary × List Json :=
  let records := audit windowOrdinal decision ctx
  let summary := (List.range decision.intentBatch.intents.length).foldl
    (fun summary ordinal =>
      Summary.countIntent summary (Summary.wasAuthorized records (UInt32.ofNat ordinal))) summary
  (records.foldl Summary.countAudit summary,
    executedPolicyRecord ctx windowOrdinal decision records ::
      records.map (executeRecord ctx windowOrdinal))

def policyDecisions (decision : DecisionBackendResult F) (ctx : StructuredContext) :
    List PolicyActionDecision :=
  PolicyEngine.evaluateBatchWithContext .default decision.intentBatch
    (CapabilityLevel.forRoute decision.route) ctx

def decided (decision : DecisionBackendResult F) (ctx : StructuredContext) :
    List (Intent F × List PolicyActionDecision) :=
  let decisions := policyDecisions decision ctx
  decision.intentBatch.intents.zipIdx.map fun (intent, ordinal) =>
    (intent, decisions.filter fun d => d.intentOrdinal == UInt32.ofNat ordinal)

def policyWindow (windowOrdinal : UInt32) (ctx : StructuredContext)
    (decision : DecisionBackendResult F) (summary : ReplaySummary) : ReplaySummary × List Json :=
  let intents := decided decision ctx
  (intents.foldl (fun summary x => Summary.countPolicy summary x.2) summary,
    intents.map fun x => policyRecord ctx windowOrdinal x.1 x.2)

def governWindow (stage : Stage) (windowOrdinal : UInt32) (ctx : StructuredContext)
    (decision : DecisionBackendResult F) (summary : ReplaySummary) : ReplaySummary × List Json :=
  if !stage.includes .policy then (summary, [])
  else if stage.includes .execute then executeWindow windowOrdinal ctx decision summary
  else policyWindow windowOrdinal ctx decision summary

def decideWindow (cfg : ReplayConfig) (draw : ReplayDraw F) (s : ReplayState)
    (ctx : StructuredContext) : ReplayState × List Json :=
  if !cfg.stage.includes .decision then (s, [])
  else
    let evaluation := evaluate cfg draw s.circuit ctx
    let decision := evaluation.result
    let summary := { s.summary with
      intentsTotal :=
        s.summary.intentsTotal + UInt64.ofNat decision.intentBatch.intents.length }
    let (summary, records) := governWindow cfg.stage s.windowOrdinal ctx decision summary
    ({ s with summary := summary, circuit := evaluation.circuit },
      decisionRecord ctx decision :: records)

def processWindow (cfg : ReplayConfig) (draw : ReplayDraw F) (s : ReplayState)
    (ctx : StructuredContext) : ReplayState × List Json :=
  let s := { s with
    summary := { s.summary with windowsClosed := s.summary.windowsClosed + 1 } }
  let (s, records) := decideWindow cfg draw s ctx
  (s, (if cfg.stage.includes .context then [contextRecord ctx] else []) ++ records)

/-! ### Lines -/

inductive Parsed
  | blank
  | invalid (error : String)
  | noRawEvent
  | envelope (envelope : CollectorEnvelope)

def envelopeOf (value : Json) (rawEvent : RawEvent) : CollectorEnvelope where
  schemaVersion := "dipecs.collector.v1"
  source := ((value.get "source").bind Json.asStr).getD "apps.android-collector.replay"
  sourceTier := .publicApi
  deviceTraceId := (value.get "eventId").bind Json.asStr
  capturedAtMs := ((value.get "timestampMs").bind Json.asI64).getD 0
  receivedAtMs := none
  rawEvent := rawEvent

def parseLine (serde : Serde) (text : String) : Parsed :=
  if Text.isBlank Text.isWhiteSpace text then .blank
  else match serde.fromStr text with
    | .error e => .invalid ("invalid JSON: " ++ e)
    | .ok value =>
      let rawEventValue := (value.get "rawEvent").getD .null
      if rawEventValue.isNull then .noRawEvent
      else match serde.rawEvent rawEventValue with
        | .error e => .invalid ("rawEvent does not match RawEvent shape: " ++ e)
        | .ok rawEvent => .envelope (envelopeOf value rawEvent)

def rollWindow (cfg : ReplayConfig) (draw : ReplayDraw F) (s : ReplayState)
    (agg : WindowAggregator) (capturedAtMs : Int) : ReplayState × List Json :=
  if agg.isExpired capturedAtMs then
    match agg.close capturedAtMs draw.window with
    | (none, agg) => ({ s with aggregator := some agg }, [])
    | (some ctx, agg) =>
      let (s, records) := processWindow cfg draw { s with aggregator := some agg } ctx
      ({ s with windowOrdinal := s.windowOrdinal + 1 }, records)
  else ({ s with aggregator := some agg }, [])

def collect (cfg : ReplayConfig) (draw : ReplayDraw F) (s : ReplayState)
    (ingested : IngestedRawEvent) : ReplayState × List Json :=
  if !cfg.stage.includes .sanitize then (s, [])
  else
    let sanitized := PrivacyAirGap.sanitizeWithTier cfg.toLowercase draw.eventId
      ingested.rawEvent ingested.sourceTier
    let s := if cfg.stage.includes .context then
        { s with aggregator := s.aggregator.map (·.push sanitized) }
      else s
    (s, [sanitizeRecord s.lineNo sanitized])

def ingestEnvelope (cfg : ReplayConfig) (draw : ReplayDraw F) (s : ReplayState)
    (envelope : CollectorEnvelope) : ReplayState × List Json :=
  let capturedAtMs := envelope.capturedAtMs
  let s := { s with lastCapturedAtMs := max s.lastCapturedAtMs capturedAtMs }
  match RustCollectorIngress.accept envelope with
  | .error _ => ({ s with failed := true }, [])
  | .ok ingested =>
    let s := { s with
      summary := { s.summary with eventsIngested := s.summary.eventsIngested + 1 } }
    let ingestRecords :=
      if cfg.stage.includes .ingest then [ingestRecord s.lineNo ingested] else []
    let agg := s.aggregator.getD (.new cfg.windowSecs capturedAtMs)
    let (s, windowRecords) := rollWindow cfg draw s agg capturedAtMs
    let (s, sanitizeRecords) := collect cfg draw s ingested
    (s, ingestRecords ++ windowRecords ++ sanitizeRecords)

def replayLine (cfg : ReplayConfig) (draw : ReplayDraw F) (s : ReplayState) (text : String) :
    ReplayState × List Json :=
  let s := { s with lineNo := s.lineNo + 1 }
  let seen (summary : ReplaySummary) : ReplayState :=
    { s with summary := { summary with linesTotal := summary.linesTotal + 1 } }
  match parseLine cfg.serde text with
  | .blank => (s, [])
  | .invalid error =>
    (seen { s.summary with linesParseError := s.summary.linesParseError + 1 },
      [errorRecord s.lineNo error])
  | .noRawEvent =>
    (seen { s.summary with
      linesSkippedNoRawEvent := s.summary.linesSkippedNoRawEvent + 1 }, [])
  | .envelope envelope => ingestEnvelope cfg draw (seen s.summary) envelope

/-- The window still open at the end is closed at the latest time captured. -/
def flush (cfg : ReplayConfig) (draw : ReplayDraw F) (s : ReplayState) :
    ReplayState × List Json :=
  match s.aggregator with
  | none => (s, [])
  | some agg =>
    match agg.close s.lastCapturedAtMs draw.window with
    | (none, _) => (s, [])
    | (some ctx, _) => processWindow cfg draw s ctx

def step (cfg : ReplayConfig) (s : ReplayState) (x : ReplayInput F) : ReplayState × List Json :=
  if s.failed then (s, [])
  else match x.item with
    | .line text => replayLine cfg x.draw s text
    | .unreadable => ({ s with failed := true }, [])
    | .endOfTrace => flush cfg x.draw s

def machine (cfg : ReplayConfig) : Machine ReplayState (ReplayInput F) Json where
  step s x := ((step cfg s x).1, (step cfg s x).2.map canonicalize)

def start : ReplayState := ⟨0, {}, none, 0, 0, ⟨[]⟩, false⟩

/-- A line that is not UTF-8 is given as `none`. -/
def itemOf : Option String → TraceItem
  | some text => .line text
  | none => .unreadable

def inputs (lines : List (Option String)) (draws : Nat → ReplayDraw F) : List (ReplayInput F) :=
  (lines.zipIdx.map fun (line, i) => ⟨itemOf line, draws i⟩) ++
    [⟨.endOfTrace, draws lines.length⟩]

/-- The canonical audit stream written, and the hash returned unless the replay fails. -/
def runWithAudit (sha256 : List Json → String) (cfg : ReplayConfig) (lines : List (Option String))
    (draws : Nat → ReplayDraw F) : List Json × Option String :=
  let (s, stream) := (machine cfg).run start (inputs lines draws)
  (stream, if s.failed then none else some (auditHash sha256 stream))

end

end Replay

end Dipecs.Cli
