import Dipecs.Cli.Replay

/-! What one step of a replay does: its counters of lines and windows, the window it closes,
and the records of contexts it emits. -/

namespace Dipecs.Cli.Replay

open Dipecs.Spec Dipecs.Core Dipecs.Agent Dipecs.Library

/-! ### Counters of lines -/

/-- The counters that only the reading of lines and the closing of windows touch. -/
structure LineCounts where
  linesTotal : UInt64
  linesSkippedNoRawEvent : UInt64
  linesParseError : UInt64
  eventsIngested : UInt64
  windowsClosed : UInt64

def lineCounts (summary : ReplaySummary) : LineCounts :=
  ⟨summary.linesTotal, summary.linesSkippedNoRawEvent, summary.linesParseError,
    summary.eventsIngested, summary.windowsClosed⟩

theorem foldl_lineCounts {α : Type} {f : ReplaySummary → α → ReplaySummary}
    (h : ∀ summary a, lineCounts (f summary a) = lineCounts summary) (l : List α)
    (summary : ReplaySummary) : lineCounts (l.foldl f summary) = lineCounts summary := by
  induction l generalizing summary with
  | nil => rfl
  | cons a l ih => rw [List.foldl_cons, ih, h]

theorem countDenial_lineCounts (summary : ReplaySummary) (reason : DenialReason) :
    lineCounts (Summary.countDenial summary reason) = lineCounts summary := rfl

theorem countIntent_lineCounts (summary : ReplaySummary) (approved : Bool) :
    lineCounts (Summary.countIntent summary approved) = lineCounts summary := by
  cases approved <;> rfl

theorem countAudit_lineCounts (summary : ReplaySummary) (record : AuditRecord) :
    lineCounts (Summary.countAudit summary record) = lineCounts summary := by
  unfold Summary.countAudit
  cases record.terminal <;> cases record.denialReason <;> rfl

theorem countPolicy_lineCounts (summary : ReplaySummary) (decisions : List PolicyActionDecision) :
    lineCounts (Summary.countPolicy summary decisions) = lineCounts summary := by
  rw [Summary.countPolicy, foldl_lineCounts countDenial_lineCounts]
  exact countIntent_lineCounts summary _

section
variable {F : Type} [LinearOrder F] [Add F] [Sub F] [Neg F] [OfScientific F]
  {cfg : ReplayConfig} {s : ReplayState}

omit [Add F] [Sub F] [Neg F] in
theorem governWindow_lineCounts (stage : Stage) (windowOrdinal : UInt32) (ctx : StructuredContext)
    (decision : DecisionBackendResult F) (summary : ReplaySummary) :
    lineCounts (governWindow stage windowOrdinal ctx decision summary).1 = lineCounts summary := by
  unfold governWindow
  split
  · rfl
  · split
    · simp only [executeWindow]
      rw [foldl_lineCounts countAudit_lineCounts]
      exact foldl_lineCounts (fun _ _ => countIntent_lineCounts _ _) _ _
    · exact foldl_lineCounts (fun _ _ => countPolicy_lineCounts _ _) _ _

theorem processWindow_state (cfg : ReplayConfig) (draw : ReplayDraw F) (s : ReplayState)
    (ctx : StructuredContext) :
    ∃ summary circuit, (processWindow cfg draw s ctx).1 =
        { s with summary := summary, circuit := circuit } ∧
      lineCounts summary = { lineCounts s.summary with
        windowsClosed := s.summary.windowsClosed + 1 } := by
  unfold processWindow decideWindow
  dsimp only
  split
  · exact ⟨_, _, rfl, rfl⟩
  · refine ⟨_, _, rfl, ?_⟩
    rw [governWindow_lineCounts]
    rfl

/-! ### Context records -/

def isContext (record : Json) : Bool := (record.get "stage").bind Json.asStr == some "context"

omit [LinearOrder F] [Add F] [Sub F] [Neg F] [OfScientific F] in
theorem not_isContext {stage : String} {fields : List (String × Json)} (h : stage ≠ "context") :
    ¬isContext (.obj (("stage", .str stage) :: fields)) = true := by
  simpa [isContext, Json.get, Json.asStr] using h

omit [LinearOrder F] [Add F] [Sub F] [Neg F] [OfScientific F] in
theorem isContext_executeRecords (ctx : StructuredContext) (windowOrdinal : UInt32)
    (records : List AuditRecord) :
    (records.map (executeRecord ctx windowOrdinal)).filter isContext = [] := by
  rw [List.filter_map, List.filter_eq_nil_iff.mpr, List.map_nil]
  exact fun record _ => not_isContext (by decide)

omit [Add F] [Sub F] [Neg F] in
theorem governWindow_contexts (stage : Stage) (windowOrdinal : UInt32) (ctx : StructuredContext)
    (decision : DecisionBackendResult F) (summary : ReplaySummary) :
    (governWindow stage windowOrdinal ctx decision summary).2.filter isContext = [] := by
  unfold governWindow
  split
  · rfl
  · split
    · exact isContext_executeRecords ctx windowOrdinal _
    · simp only [policyWindow]
      rw [List.filter_map, List.filter_eq_nil_iff.mpr, List.map_nil]
      exact fun x _ => not_isContext (by decide)

theorem decideWindow_contexts (draw : ReplayDraw F) (s : ReplayState) (ctx : StructuredContext) :
    (decideWindow cfg draw s ctx).2.filter isContext = [] := by
  unfold decideWindow
  split
  · rfl
  · exact (List.filter_cons_of_neg (not_isContext (by decide))).trans
      (governWindow_contexts _ _ _ _ _)

theorem processWindow_contexts (hstage : cfg.stage.includes .context = true) (draw : ReplayDraw F)
    (s : ReplayState) (ctx : StructuredContext) :
    (processWindow cfg draw s ctx).2.filter isContext = [contextRecord ctx] := by
  unfold processWindow
  rw [if_pos hstage]
  exact congrArg (contextRecord ctx :: ·) (decideWindow_contexts draw _ ctx)

/-! ### One step -/

theorem parseLine_schemaVersion {serde : Collector.Serde} {text : String}
    {envelope : CollectorEnvelope} (h : parseLine serde text = .envelope envelope) :
    envelope.schemaVersion = "dipecs.collector.v1" := by
  unfold parseLine at h
  split at h
  · cases h
  · split at h
    · cases h
    · simp only at h
      split at h
      · cases h
      · split at h
        · cases h
        · cases h
          rfl

theorem includes_ingest (stage : Stage) : stage.includes .ingest = true := by
  cases stage <;> rfl

def dueWindow (draw : ReplayDraw F) (agg : WindowAggregator) (capturedAtMs : Int) :
    Option StructuredContext :=
  if agg.isExpired capturedAtMs then (agg.close capturedAtMs draw.window).1 else none

def rolled (draw : ReplayDraw F) (agg : WindowAggregator) (capturedAtMs : Int) :
    WindowAggregator :=
  if agg.isExpired capturedAtMs then (agg.close capturedAtMs draw.window).2 else agg

def ingestedOf (cfg : ReplayConfig) (x : ReplayInput F) : Option (Int × SanitizedEvent) :=
  match x.item with
  | .line text =>
    match parseLine cfg.serde text with
    | .envelope envelope => some (envelope.capturedAtMs, PrivacyAirGap.sanitizeWithTier
        cfg.toLowercase x.draw.eventId envelope.rawEvent envelope.sourceTier)
    | _ => none
  | _ => none

def closedWindow (cfg : ReplayConfig) (s : ReplayState) (x : ReplayInput F) :
    Option StructuredContext :=
  if s.failed then none
  else match x.item with
    | .line _ => (ingestedOf cfg x).bind fun event =>
        dueWindow x.draw (s.aggregator.getD (.new cfg.windowSecs event.1)) event.1
    | .unreadable => none
    | .endOfTrace => s.aggregator.bind fun agg => (agg.close s.lastCapturedAtMs x.draw.window).1

theorem rollWindow_spec (hstage : cfg.stage.includes .context = true) (draw : ReplayDraw F)
    (s : ReplayState) (agg : WindowAggregator) (capturedAtMs : Int) :
    ∃ summary circuit windowOrdinal, (rollWindow cfg draw s agg capturedAtMs).1 =
        { s with
          aggregator := some (rolled draw agg capturedAtMs)
          summary := summary
          circuit := circuit
          windowOrdinal := windowOrdinal } ∧
      lineCounts summary = { lineCounts s.summary with
        windowsClosed := s.summary.windowsClosed +
          UInt64.ofNat (dueWindow draw agg capturedAtMs).toList.length } ∧
      (rollWindow cfg draw s agg capturedAtMs).2.filter isContext =
        (dueWindow draw agg capturedAtMs).toList.map contextRecord := by
  unfold rollWindow dueWindow rolled
  split
  · cases hclose : agg.close capturedAtMs draw.window with
    | mk ctx agg' =>
      cases ctx with
      | none => exact ⟨_, _, _, rfl, by simp [lineCounts], rfl⟩
      | some ctx =>
        obtain ⟨summary, circuit, hstate, hcounts⟩ :=
          processWindow_state cfg draw { s with aggregator := some agg' } ctx
        simp only [hstate]
        exact ⟨_, _, _, rfl, hcounts, processWindow_contexts hstage draw _ ctx⟩
  · exact ⟨_, _, _, rfl, by simp [lineCounts], rfl⟩

theorem includes_sanitize_of_context {stage : Stage} (h : stage.includes .context = true) :
    stage.includes .sanitize = true := by
  cases stage <;> first | rfl | cases h

omit [LinearOrder F] [Add F] [Sub F] [Neg F] [OfScientific F] in
theorem collect_spec (hstage : cfg.stage.includes .context = true) (draw : ReplayDraw F)
    (s : ReplayState) (ingested : IngestedRawEvent) :
    (collect cfg draw s ingested).1 = { s with
        aggregator := s.aggregator.map (·.push (PrivacyAirGap.sanitizeWithTier cfg.toLowercase
          draw.eventId ingested.rawEvent ingested.sourceTier)) } ∧
      (collect cfg draw s ingested).2.filter isContext = [] := by
  unfold collect
  rw [includes_sanitize_of_context hstage, if_neg (by decide)]
  dsimp only
  rw [if_pos hstage]
  exact ⟨rfl, List.filter_cons_of_neg (not_isContext (by decide))⟩

structure TakesEvent (cfg : ReplayConfig) (draw : ReplayDraw F) (s : ReplayState)
    (event : Int × SanitizedEvent) (after : ReplayState × List Json) : Prop where
  aggregator : after.1.aggregator = some ((rolled draw
    (s.aggregator.getD (.new cfg.windowSecs event.1)) event.1).push event.2)
  lastCapturedAtMs : after.1.lastCapturedAtMs = max s.lastCapturedAtMs event.1
  failed : after.1.failed = s.failed
  counts : lineCounts after.1.summary = { lineCounts s.summary with
    eventsIngested := s.summary.eventsIngested + 1
    windowsClosed := s.summary.windowsClosed + UInt64.ofNat (dueWindow draw
      (s.aggregator.getD (.new cfg.windowSecs event.1)) event.1).toList.length }
  contexts : after.2.filter isContext = (dueWindow draw
    (s.aggregator.getD (.new cfg.windowSecs event.1)) event.1).toList.map contextRecord

def captured (s : ReplayState) (capturedAtMs : Int) : ReplayState :=
  { s with
    lastCapturedAtMs := max s.lastCapturedAtMs capturedAtMs
    summary := { s.summary with eventsIngested := s.summary.eventsIngested + 1 } }

theorem ingestEnvelope_eq (draw : ReplayDraw F) (s : ReplayState) {envelope : CollectorEnvelope}
    (hversion : envelope.schemaVersion = "dipecs.collector.v1") :
    ingestEnvelope cfg draw s envelope =
      let roll := rollWindow cfg draw (captured s envelope.capturedAtMs)
        (s.aggregator.getD (.new cfg.windowSecs envelope.capturedAtMs)) envelope.capturedAtMs
      let last := collect cfg draw roll.1 ⟨envelope.rawEvent, envelope.sourceTier⟩
      (last.1, ingestRecord s.lineNo ⟨envelope.rawEvent, envelope.sourceTier⟩ ::
        (roll.2 ++ last.2)) := by
  have haccept : RustCollectorIngress.accept envelope =
      .ok ⟨envelope.rawEvent, envelope.sourceTier⟩ := by
    rw [RustCollectorIngress.accept, if_neg (not_not_intro hversion)]
  unfold ingestEnvelope
  simp only [haccept, includes_ingest cfg.stage, if_true]
  rfl

theorem ingestEnvelope_takesEvent (hstage : cfg.stage.includes .context = true)
    (draw : ReplayDraw F) (s : ReplayState) {envelope : CollectorEnvelope}
    (hversion : envelope.schemaVersion = "dipecs.collector.v1") :
    TakesEvent cfg draw s (envelope.capturedAtMs, PrivacyAirGap.sanitizeWithTier cfg.toLowercase
      draw.eventId envelope.rawEvent envelope.sourceTier) (ingestEnvelope cfg draw s envelope) := by
  rw [ingestEnvelope_eq draw s hversion]
  obtain ⟨summary, circuit, windowOrdinal, hroll, hcounts, hcontexts⟩ := rollWindow_spec hstage
    draw (captured s envelope.capturedAtMs)
    (s.aggregator.getD (.new cfg.windowSecs envelope.capturedAtMs)) envelope.capturedAtMs
  obtain ⟨hcollect, hnone⟩ := collect_spec hstage draw (rollWindow cfg draw
    (captured s envelope.capturedAtMs)
    (s.aggregator.getD (.new cfg.windowSecs envelope.capturedAtMs)) envelope.capturedAtMs).1
    ⟨envelope.rawEvent, envelope.sourceTier⟩
  constructor
  · dsimp only
    rw [hcollect, hroll]
    rfl
  · dsimp only
    rw [hcollect, hroll]
    rfl
  · dsimp only
    rw [hcollect, hroll]
    rfl
  · dsimp only
    rw [hcollect, hroll]
    exact hcounts
  · refine (List.filter_cons_of_neg (not_isContext (by decide))).trans ?_
    rw [List.filter_append, hnone, hcontexts, List.append_nil]

def numbered (s : ReplayState) : ReplayState :=
  { s with
    lineNo := s.lineNo + 1
    summary := { s.summary with linesTotal := s.summary.linesTotal + 1 } }

theorem step_event (hfailed : s.failed = false) (hstage : cfg.stage.includes .context = true)
    {x : ReplayInput F} {event : Int × SanitizedEvent} (h : ingestedOf cfg x = some event) :
    TakesEvent cfg x.draw (numbered s) event (step cfg s x) := by
  unfold ingestedOf at h
  unfold step
  rw [hfailed]
  cases hx : x.item with
  | line text =>
    rw [hx] at h
    dsimp only at h
    unfold replayLine
    cases hparsed : parseLine cfg.serde text with
    | envelope envelope =>
      rw [hparsed] at h
      obtain rfl := Option.some.inj h
      simp only [hparsed]
      exact ingestEnvelope_takesEvent hstage x.draw (numbered s) (parseLine_schemaVersion hparsed)
    | _ =>
      rw [hparsed] at h
      cases h
  | unreadable =>
    rw [hx] at h
    cases h
  | endOfTrace =>
    rw [hx] at h
    cases h

structure Quiet (s : ReplayState) (after : ReplayState × List Json) : Prop where
  aggregator : after.1.aggregator = s.aggregator
  lastCapturedAtMs : after.1.lastCapturedAtMs = s.lastCapturedAtMs
  failed : after.1.failed = s.failed
  counts : lineCounts after.1.summary = lineCounts s.summary ∨
    lineCounts after.1.summary = { lineCounts s.summary with
      linesTotal := s.summary.linesTotal + 1
      linesParseError := s.summary.linesParseError + 1 } ∨
    lineCounts after.1.summary = { lineCounts s.summary with
      linesTotal := s.summary.linesTotal + 1
      linesSkippedNoRawEvent := s.summary.linesSkippedNoRawEvent + 1 }
  contexts : after.2.filter isContext = []

theorem step_quiet (hfailed : s.failed = false) {x : ReplayInput F} {text : String}
    (hx : x.item = .line text) (h : ingestedOf cfg x = none) : Quiet s (step cfg s x) := by
  unfold ingestedOf at h
  rw [hx] at h
  dsimp only at h
  unfold step replayLine
  rw [hfailed, hx, if_neg Bool.false_ne_true]
  cases hparsed : parseLine cfg.serde text with
  | blank =>
    simp only [hparsed]
    exact ⟨rfl, rfl, hfailed.symm, .inl rfl, rfl⟩
  | invalid error =>
    simp only [hparsed]
    exact ⟨rfl, rfl, hfailed.symm, .inr (.inl rfl),
      List.filter_cons_of_neg (not_isContext (by decide))⟩
  | noRawEvent =>
    simp only [hparsed]
    exact ⟨rfl, rfl, hfailed.symm, .inr (.inr rfl), rfl⟩
  | envelope envelope =>
    rw [hparsed] at h
    cases h

theorem step_end (hfailed : s.failed = false) (hstage : cfg.stage.includes .context = true)
    {x : ReplayInput F} (hx : x.item = .endOfTrace) :
    lineCounts (step cfg s x).1.summary = { lineCounts s.summary with
        windowsClosed := s.summary.windowsClosed +
          UInt64.ofNat (closedWindow cfg s x).toList.length } ∧
      (step cfg s x).1.failed = false ∧
      (step cfg s x).2.filter isContext = (closedWindow cfg s x).toList.map contextRecord := by
  unfold step closedWindow flush
  rw [hfailed, hx, if_neg Bool.false_ne_true, if_neg Bool.false_ne_true]
  dsimp only
  cases s.aggregator with
  | none => exact ⟨by simp [lineCounts], hfailed, rfl⟩
  | some agg =>
    dsimp only [Option.bind_some]
    cases hclose : agg.close s.lastCapturedAtMs x.draw.window with
    | mk ctx agg' =>
      cases ctx with
      | none => exact ⟨by simp [lineCounts], hfailed, rfl⟩
      | some ctx =>
        obtain ⟨summary, circuit, hstate, hcounts⟩ := processWindow_state cfg x.draw s ctx
        dsimp only
        rw [hstate, processWindow_contexts hstage]
        exact ⟨hcounts, hfailed, rfl⟩

/-! ### Items of a trace -/

omit [LinearOrder F] [Add F] [Sub F] [Neg F] [OfScientific F] in
theorem ingestedOf_cases (cfg : ReplayConfig) (x : ReplayInput F) :
    (∃ text event, x.item = .line text ∧ ingestedOf cfg x = some event) ∨
      (∃ text, x.item = .line text ∧ ingestedOf cfg x = none) ∨
      (x.item = .unreadable ∧ ingestedOf cfg x = none) ∨
      (x.item = .endOfTrace ∧ ingestedOf cfg x = none) := by
  cases hevent : ingestedOf cfg x with
  | some event =>
    cases hx : x.item with
    | line text => exact .inl ⟨text, event, rfl, rfl⟩
    | unreadable => simp [ingestedOf, hx] at hevent
    | endOfTrace => simp [ingestedOf, hx] at hevent
  | none =>
    cases hx : x.item with
    | line text => exact .inr (.inl ⟨text, rfl, rfl⟩)
    | unreadable => exact .inr (.inr (.inl ⟨rfl, rfl⟩))
    | endOfTrace => exact .inr (.inr (.inr ⟨rfl, rfl⟩))

omit [LinearOrder F] [Add F] [Sub F] [Neg F] [OfScientific F] in
theorem closedWindow_line (hfailed : s.failed = false) {x : ReplayInput F} {text : String}
    (hx : x.item = .line text) :
    closedWindow cfg s x = (ingestedOf cfg x).bind fun event =>
      dueWindow x.draw (s.aggregator.getD (.new cfg.windowSecs event.1)) event.1 := by
  unfold closedWindow
  rw [hfailed, hx, if_neg Bool.false_ne_true]

theorem step_of_failed (hfailed : s.failed = true) (x : ReplayInput F) :
    step cfg s x = (s, []) := by
  unfold step
  rw [hfailed, if_pos rfl]

theorem step_unreadable (hfailed : s.failed = false) {x : ReplayInput F}
    (hx : x.item = .unreadable) : step cfg s x = ({ s with failed := true }, []) := by
  unfold step
  rw [hfailed, hx, if_neg Bool.false_ne_true]

theorem step_contexts (hstage : cfg.stage.includes .context = true) (s : ReplayState)
    (x : ReplayInput F) :
    (step cfg s x).2.filter isContext = (closedWindow cfg s x).toList.map contextRecord := by
  cases hfailed : s.failed with
  | true =>
    rw [step_of_failed hfailed, closedWindow, if_pos hfailed]
    rfl
  | false =>
    obtain ⟨text, event, hx, hevent⟩ | ⟨text, hx, hevent⟩ | ⟨hx, -⟩ | ⟨hx, -⟩ :=
      ingestedOf_cases cfg x
    · rw [(step_event hfailed hstage hevent).contexts, closedWindow_line hfailed hx, hevent]
      rfl
    · rw [(step_quiet hfailed hx hevent).contexts, closedWindow_line hfailed hx, hevent]
      rfl
    · rw [step_unreadable hfailed hx, closedWindow, hx, if_neg (by simp [hfailed])]
      rfl
    · exact (step_end hfailed hstage hx).2.2

theorem step_failed_iff (hstage : cfg.stage.includes .context = true) (s : ReplayState)
    (x : ReplayInput F) :
    (step cfg s x).1.failed = true ↔ s.failed = true ∨ x.item = .unreadable := by
  cases hfailed : s.failed with
  | true =>
    rw [step_of_failed hfailed]
    exact iff_of_true hfailed (.inl rfl)
  | false =>
    obtain ⟨text, event, hx, hevent⟩ | ⟨text, hx, hevent⟩ | ⟨hx, -⟩ | ⟨hx, -⟩ :=
      ingestedOf_cases cfg x
    · simp [(step_event hfailed hstage hevent).failed, numbered, hfailed, hx]
    · simp [(step_quiet hfailed hx hevent).failed, hfailed, hx]
    · simp [step_unreadable hfailed hx, hx]
    · simp [(step_end hfailed hstage hx).2.1, hx]

end

end Dipecs.Cli.Replay
