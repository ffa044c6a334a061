import Dipecs.Cli.ReplayAnonymity
import Dipecs.Cli.ReplaySteps
import Mathlib.Algebra.Order.Ring.Unbundled.Rat

/-! Two replays of one trace: they draw identifiers, latencies and iteration orders each for
itself, and write the same audit stream unless a window counts files of several kinds. -/

namespace Dipecs.Cli

open Dipecs.Spec Dipecs.Core Dipecs.Agent Dipecs.Library

/-! ### Windows -/

def anonWindow (w : WindowAggregator) : WindowAggregator :=
  { w with buffer := w.buffer.map Replay.anonEvent }

section
variable {w w' : WindowAggregator}

theorem buffer_anon (h : anonWindow w = anonWindow w') :
    w.buffer.map Replay.anonEvent = w'.buffer.map Replay.anonEvent := by
  have hbuffer : (anonWindow w).buffer = (anonWindow w').buffer := by rw [h]
  exact hbuffer

theorem isExpired_anon (h : anonWindow w = anonWindow w') (nowMs : Int) :
    w.isExpired nowMs = w'.isExpired nowMs := by
  have hexpired : (anonWindow w).isExpired nowMs = (anonWindow w').isExpired nowMs := by rw [h]
  exact hexpired

theorem buffer_eq_nil_anon (h : anonWindow w = anonWindow w') :
    w.buffer = [] ↔ w'.buffer = [] := by
  have hlength := congrArg List.length (buffer_anon h)
  simp only [List.length_map] at hlength
  rw [← List.length_eq_zero_iff, hlength, List.length_eq_zero_iff]

theorem push_anon (o : Option WindowAggregator) (e : SanitizedEvent) :
    (o.map (·.push e)).map anonWindow = (o.map anonWindow).map (·.push (Replay.anonEvent e)) := by
  cases o with
  | none => rfl
  | some w =>
    simp only [Option.map_some, anonWindow, WindowAggregator.push, List.map_append, List.map_cons,
      List.map_nil]

theorem foldl_summarize_anon (events : List SanitizedEvent) (s : ContextSummary) :
    (events.map Replay.anonEvent).foldl ContextBuilder.summarize s =
      events.foldl ContextBuilder.summarize s := by
  rw [List.foldl_map]
  rfl

theorem countFiles_anon {events events' : List SanitizedEvent}
    (h : events.map Replay.anonEvent = events'.map Replay.anonEvent) :
    ContextBuilder.countFiles events = ContextBuilder.countFiles events' := by
  rw [ContextBuilder.countFiles, ← foldl_summarize_anon, h, foldl_summarize_anon,
    ContextBuilder.countFiles]

theorem oneFileCategory_anon (h : anonWindow w = anonWindow w') :
    ContextBuilder.OneFileCategory w.buffer ↔ ContextBuilder.OneFileCategory w'.buffer := by
  rw [← ContextBuilder.countFiles_length_le_one_iff, countFiles_anon (buffer_anon h),
    ContextBuilder.countFiles_length_le_one_iff]

theorem context_anon (h : anonWindow w = anonWindow w')
    (hone : ContextBuilder.OneFileCategory w.buffer) (nowMs : Int) (draw draw' : WindowDraw) :
    Replay.anonContext (w.context nowMs draw) = Replay.anonContext (w'.context nowMs draw') := by
  have hstart : (anonWindow w).windowStartMs = (anonWindow w').windowStartMs := by rw [h]
  simp only [anonWindow] at hstart
  have hone' := (oneFileCategory_anon h).mp hone
  have hsummary : w.buffer.foldl ContextBuilder.summarize ContextBuilder.emptySummary =
      w'.buffer.foldl ContextBuilder.summarize ContextBuilder.emptySummary := by
    rw [← foldl_summarize_anon, buffer_anon h, foldl_summarize_anon]
  simp only [Replay.anonContext, WindowAggregator.context, hstart, buffer_anon h,
    ContextBuilder.buildSummary_of_oneFileCategory hone,
    ContextBuilder.buildSummary_of_oneFileCategory hone', hsummary]

end

theorem sanitizeWithTier_anon (toLowercase : String → String) (eventId eventId' : String)
    (raw : RawEvent) (tier : SourceTier) :
    Replay.anonEvent (PrivacyAirGap.sanitizeWithTier toLowercase eventId raw tier) =
      Replay.anonEvent (PrivacyAirGap.sanitizeWithTier toLowercase eventId' raw tier) := by
  cases raw <;> rfl

namespace Replay

/-! ### The condition -/

def dueEvents (s : ReplayState) (capturedAtMs : Int) : List SanitizedEvent :=
  match s.aggregator with
  | some w => if w.isExpired capturedAtMs then w.buffer else []
  | none => []

def closedEvents (cfg : ReplayConfig) (s : ReplayState) : TraceItem → List SanitizedEvent
  | .line text =>
    match parseLine cfg.serde text with
    | .envelope envelope => dueEvents s envelope.capturedAtMs
    | _ => []
  | .unreadable => []
  | .endOfTrace => s.aggregator.elim [] WindowAggregator.buffer

/-- The window that the next item closes, if any, has file activity of one kind only, or
the stage does not look at windows. -/
def Settled {F : Type} (cfg : ReplayConfig) (s : ReplayState) (x : ReplayInput F) : Prop :=
  s.failed = false → cfg.stage.includes .context = true →
    ContextBuilder.OneFileCategory (closedEvents cfg s x.item)

instance {F : Type} (cfg : ReplayConfig) (s : ReplayState) (x : ReplayInput F) :
    Decidable (Settled cfg s x) :=
  inferInstanceAs (Decidable (_ → _ → _))

/-! ### One step of two replays -/

structure SameState (s t : ReplayState) : Prop where
  lineNo : s.lineNo = t.lineNo
  aggregator : s.aggregator.map anonWindow = t.aggregator.map anonWindow
  lastCapturedAtMs : s.lastCapturedAtMs = t.lastCapturedAtMs
  windowOrdinal : s.windowOrdinal = t.windowOrdinal
  closedCircuit : s.circuit = ⟨[]⟩
  closedCircuit' : t.circuit = ⟨[]⟩
  failed : s.failed = t.failed

def SameStep (x y : ReplayState × List Json) : Prop :=
  SameState x.1 y.1 ∧ x.2.map canonicalize = y.2.map canonicalize

theorem start_same : SameState start start := ⟨rfl, rfl, rfl, rfl, rfl, rfl, rfl⟩

theorem SameState.windows {s t : ReplayState} (h : SameState s t) :
    s.aggregator = none ∧ t.aggregator = none ∨
      ∃ w w', s.aggregator = some w ∧ t.aggregator = some w' ∧ anonWindow w = anonWindow w' := by
  have hwindow := h.aggregator
  cases hs : s.aggregator with
  | none =>
    rw [hs, Option.map_none, eq_comm, Option.map_eq_none_iff] at hwindow
    exact .inl ⟨rfl, hwindow⟩
  | some w =>
    rw [hs, Option.map_some, eq_comm, Option.map_eq_some_iff] at hwindow
    obtain ⟨w', ht, hw⟩ := hwindow
    exact .inr ⟨w, w', rfl, ht, hw.symm⟩

theorem SameState.of_summary {s t : ReplayState} (h : SameState s t)
    (summary summary' : ReplaySummary) :
    SameState { s with summary := summary } { t with summary := summary' } :=
  ⟨h.lineNo, h.aggregator, h.lastCapturedAtMs, h.windowOrdinal, h.closedCircuit,
    h.closedCircuit', h.failed⟩

theorem SameState.of_window {s t : ReplayState} (h : SameState s t) {w w' : WindowAggregator}
    (hw : anonWindow w = anonWindow w') :
    SameState { s with aggregator := some w } { t with aggregator := some w' } :=
  ⟨h.lineNo, congrArg some hw, h.lastCapturedAtMs, h.windowOrdinal, h.closedCircuit,
    h.closedCircuit', h.failed⟩

section
variable {F : Type} {cfg : ReplayConfig} {s t : ReplayState} (draw draw' : ReplayDraw F)

theorem collect_same (h : SameState s t) (ingested : IngestedRawEvent) :
    SameStep (collect cfg draw s ingested) (collect cfg draw' t ingested) := by
  have hevent := sanitizeWithTier_anon cfg.toLowercase draw.eventId draw'.eventId
    ingested.rawEvent ingested.sourceTier
  have hrecord : canonicalize (sanitizeRecord s.lineNo (PrivacyAirGap.sanitizeWithTier
      cfg.toLowercase draw.eventId ingested.rawEvent ingested.sourceTier)) =
        canonicalize (sanitizeRecord t.lineNo (PrivacyAirGap.sanitizeWithTier
          cfg.toLowercase draw'.eventId ingested.rawEvent ingested.sourceTier)) := by
    rw [h.lineNo, ← sanitizeRecord_anon, hevent, sanitizeRecord_anon]
  unfold collect
  split
  · exact ⟨h, rfl⟩
  · cases cfg.stage.includes .context with
    | false => exact ⟨h, congrArg (fun record => [record]) hrecord⟩
    | true =>
      refine ⟨⟨h.lineNo, ?_, h.lastCapturedAtMs, h.windowOrdinal, h.closedCircuit,
        h.closedCircuit', h.failed⟩, congrArg (fun record => [record]) hrecord⟩
      simp only [if_true]
      rw [push_anon, push_anon, h.aggregator, hevent]

end

section
variable {F : Type} [LinearOrder F] [Add F] [Sub F] [Neg F] [OfScientific F]
  {cfg : ReplayConfig} {s t : ReplayState} (draw draw' : ReplayDraw F)

theorem decideWindow_same (cfg : ReplayConfig) (draw draw' : ReplayDraw F) (h : SameState s t)
    {c c' : StructuredContext}
    (hc : anonContext c = anonContext c') :
    SameStep (decideWindow cfg draw s c) (decideWindow cfg draw' t c') := by
  unfold decideWindow
  split
  · exact ⟨h, rfl⟩
  · obtain ⟨hresult, hcircuit, hcircuit'⟩ := evaluate_anon cfg hc draw draw'
    rw [h.closedCircuit, h.closedCircuit']
    refine ⟨⟨h.lineNo, h.aggregator, h.lastCapturedAtMs, h.windowOrdinal, hcircuit, hcircuit',
      h.failed⟩, congrArg₂ List.cons ?_ (governWindow_congr hc hresult h.windowOrdinal _ _ _)⟩
    rw [← decisionRecord_anon c, ← decisionRecord_anon c', hc, hresult]

theorem includes_context_of_decision {stage : Stage} (h : stage.includes .decision = true) :
    stage.includes .context = true := by
  cases stage <;> first | rfl | cases h

theorem processWindow_same (cfg : ReplayConfig) (draw draw' : ReplayDraw F) (h : SameState s t)
    {c c' : StructuredContext}
    (hc : cfg.stage.includes .context = true → anonContext c = anonContext c') :
    SameStep (processWindow cfg draw s c) (processWindow cfg draw' t c') := by
  unfold processWindow
  have hcounted := h.of_summary
    { s.summary with windowsClosed := s.summary.windowsClosed + 1 }
    { t.summary with windowsClosed := t.summary.windowsClosed + 1 }
  cases hstage : cfg.stage.includes .context with
  | false =>
    have hnone : cfg.stage.includes .decision = false := by
      by_contra hdecision
      rw [includes_context_of_decision (by simpa using hdecision)] at hstage
      cases hstage
    unfold decideWindow
    simp only [hnone, Bool.not_false, if_true, Bool.false_eq_true, if_false]
    exact ⟨hcounted, rfl⟩
  | true =>
    obtain ⟨hstate, hout⟩ := decideWindow_same cfg draw draw' hcounted (hc hstage)
    refine ⟨hstate, ?_⟩
    simp only [if_true, List.map_append, List.map_cons, List.map_nil]
    rw [← contextRecord_anon, ← contextRecord_anon c', hc hstage, hout]

theorem rollWindow_same (h : SameState s t) {w w' : WindowAggregator}
    (hw : anonWindow w = anonWindow w') (capturedAtMs : Int)
    (hone : cfg.stage.includes .context = true → w.isExpired capturedAtMs = true →
      ContextBuilder.OneFileCategory w.buffer) :
    SameStep (rollWindow cfg draw s w capturedAtMs) (rollWindow cfg draw' t w' capturedAtMs) := by
  have hsecs : (anonWindow w).windowSecs = (anonWindow w').windowSecs := by rw [hw]
  unfold rollWindow
  rw [← isExpired_anon hw]
  cases hexpired : w.isExpired capturedAtMs with
  | false => exact ⟨h.of_window hw, rfl⟩
  | true =>
    by_cases hempty : w.buffer = []
    · rw [WindowAggregator.close_of_empty hempty,
        WindowAggregator.close_of_empty ((buffer_eq_nil_anon hw).mp hempty)]
      refine ⟨h.of_window ?_, rfl⟩
      have hbuffer := buffer_anon hw
      simp only [anonWindow] at hsecs ⊢
      rw [hsecs, hbuffer]
    · rw [WindowAggregator.close_of_nonempty hempty,
        WindowAggregator.close_of_nonempty (mt (buffer_eq_nil_anon hw).mpr hempty)]
      have hcleared : SameState { s with aggregator := some ⟨[], w.windowSecs, capturedAtMs⟩ }
          { t with aggregator := some ⟨[], w'.windowSecs, capturedAtMs⟩ } :=
        h.of_window (congrArg (WindowAggregator.mk [] · capturedAtMs) hsecs)
      obtain ⟨hstate, hout⟩ := processWindow_same cfg draw draw' hcleared
        fun hstage => context_anon hw (hone hstage hexpired) capturedAtMs draw.window draw'.window
      exact ⟨⟨hstate.lineNo, hstate.aggregator, hstate.lastCapturedAtMs,
        congrArg (· + 1) hstate.windowOrdinal, hstate.closedCircuit, hstate.closedCircuit',
        hstate.failed⟩, hout⟩

theorem ingestEnvelope_same (h : SameState s t) (envelope : CollectorEnvelope)
    (hone : cfg.stage.includes .context = true →
      ContextBuilder.OneFileCategory (dueEvents s envelope.capturedAtMs)) :
    SameStep (ingestEnvelope cfg draw s envelope) (ingestEnvelope cfg draw' t envelope) := by
  unfold ingestEnvelope
  cases haccept : RustCollectorIngress.accept envelope with
  | error e =>
    exact ⟨⟨h.lineNo, h.aggregator, congrArg (max · _) h.lastCapturedAtMs, h.windowOrdinal,
      h.closedCircuit, h.closedCircuit', rfl⟩, rfl⟩
  | ok ingested =>
    let seen (s : ReplayState) : ReplayState :=
      { s with
        lastCapturedAtMs := max s.lastCapturedAtMs envelope.capturedAtMs
        summary := { s.summary with eventsIngested := s.summary.eventsIngested + 1 } }
    let window (s : ReplayState) : WindowAggregator :=
      s.aggregator.getD (.new cfg.windowSecs envelope.capturedAtMs)
    have hseen : SameState (seen s) (seen t) :=
      ⟨h.lineNo, h.aggregator, congrArg (max · _) h.lastCapturedAtMs, h.windowOrdinal,
        h.closedCircuit, h.closedCircuit', h.failed⟩
    have hwindow : anonWindow (window s) = anonWindow (window t) := by
      have hget : ∀ o : Option WindowAggregator,
          anonWindow (o.getD (.new cfg.windowSecs envelope.capturedAtMs)) =
            (o.map anonWindow).getD (.new cfg.windowSecs envelope.capturedAtMs) := by
        rintro (_ | w) <;> rfl
      rw [hget, hget, h.aggregator]
    have hroll : SameStep (rollWindow cfg draw (seen s) (window s) envelope.capturedAtMs)
        (rollWindow cfg draw' (seen t) (window t) envelope.capturedAtMs) := by
      refine rollWindow_same draw draw' hseen hwindow _ fun hstage hexpired => ?_
      have hdue := hone hstage
      unfold dueEvents at hdue
      cases hs : s.aggregator with
      | none => simp [window, hs, ContextBuilder.OneFileCategory]
      | some w =>
        rw [hs] at hdue
        simp only [window, hs, Option.getD_some] at hexpired ⊢
        simpa only [hexpired, if_true] using hdue
    obtain ⟨hstate, hcollected⟩ := collect_same draw draw' hroll.1 ingested
    refine ⟨hstate, ?_⟩
    simp only [List.map_append]
    have hingest : ingestRecord s.lineNo ingested = ingestRecord t.lineNo ingested := by
      rw [h.lineNo]
    refine congrArg₂ (· ++ ·) (congrArg₂ (· ++ ·) ?_ hroll.2) hcollected
    rw [hingest]

theorem replayLine_same (h : SameState s t) (text : String)
    (hone : cfg.stage.includes .context = true →
      ContextBuilder.OneFileCategory (closedEvents cfg s (.line text))) :
    SameStep (replayLine cfg draw s text) (replayLine cfg draw' t text) := by
  have hnext : ∀ summary summary' : ReplaySummary,
      SameState { s with lineNo := s.lineNo + 1, summary := summary }
        { t with lineNo := t.lineNo + 1, summary := summary' } := fun _ _ =>
    ⟨congrArg (· + 1) h.lineNo, h.aggregator, h.lastCapturedAtMs, h.windowOrdinal,
      h.closedCircuit, h.closedCircuit', h.failed⟩
  unfold replayLine
  cases hparsed : parseLine cfg.serde text with
  | blank => exact ⟨hnext _ _, rfl⟩
  | invalid error => exact ⟨hnext _ _, by rw [h.lineNo]⟩
  | noRawEvent => exact ⟨hnext _ _, rfl⟩
  | envelope envelope =>
    simp only [closedEvents, hparsed] at hone
    exact ingestEnvelope_same draw draw' (hnext _ _) envelope hone

theorem flush_same (h : SameState s t)
    (hone : cfg.stage.includes .context = true →
      ContextBuilder.OneFileCategory (closedEvents cfg s .endOfTrace)) :
    SameStep (flush cfg draw s) (flush cfg draw' t) := by
  unfold flush
  obtain ⟨hs, ht⟩ | ⟨w, w', hs, ht, hw⟩ := h.windows
  · rw [hs, ht]
    exact ⟨h, rfl⟩
  · simp only [closedEvents, hs, Option.elim_some] at hone
    rw [hs, ht, h.lastCapturedAtMs]
    dsimp only
    by_cases hempty : w.buffer = []
    · rw [WindowAggregator.close_of_empty hempty,
        WindowAggregator.close_of_empty ((buffer_eq_nil_anon hw).mp hempty)]
      exact ⟨h, rfl⟩
    · rw [WindowAggregator.close_of_nonempty hempty,
        WindowAggregator.close_of_nonempty (mt (buffer_eq_nil_anon hw).mpr hempty)]
      exact processWindow_same cfg draw draw' h fun hstage => context_anon hw (hone hstage) _ _ _

theorem step_same {x y : ReplayInput F} (h : SameState s t) (hsettled : Settled cfg s x)
    (hitem : x.item = y.item) :
    SameState ((machine cfg).step s x).1 ((machine cfg).step t y).1 ∧
      ((machine cfg).step s x).2 = ((machine cfg).step t y).2 := by
  change SameStep (step cfg s x) (step cfg t y)
  unfold Settled at hsettled
  unfold step
  rw [← h.failed, ← hitem]
  cases hfailed : s.failed with
  | true => exact ⟨h, rfl⟩
  | false =>
    cases hx : x.item with
    | line text => exact replayLine_same x.draw y.draw h text (hx ▸ hsettled hfailed)
    | unreadable =>
      exact ⟨⟨h.lineNo, h.aggregator, h.lastCapturedAtMs, h.windowOrdinal, h.closedCircuit,
        h.closedCircuit', rfl⟩, rfl⟩
    | endOfTrace => exact flush_same x.draw y.draw h (hx ▸ hsettled hfailed)

end

/-! ### Where the condition is not met -/

theorem keys_of_fileCountJson {l l' : List (ExtensionCategory × UInt32)}
    (h : (l.map fileCountJson).map canonicalize = (l'.map fileCountJson).map canonicalize) :
    l.map Prod.fst = l'.map Prod.fst := by
  rw [List.map_map, List.map_map] at h
  have hlist : List.Forall₂ (fun x y => canonicalize (fileCountJson x) =
      canonicalize (fileCountJson y)) l l' := by
    rw [← List.forall₂_eq_eq_eq, List.forall₂_map_left_iff, List.forall₂_map_right_iff] at h
    exact h
  refine map_eq_map_of_forall₂ (hlist.imp fun x y hxy => ExtensionCategory.debug_injective ?_)
  simp only [fileCountJson, canonicalize_arr, List.map_cons, canonicalize_str, Json.arr.injEq,
    List.cons.injEq, Json.str.injEq] at hxy
  exact hxy.1

theorem fileKeys_of_contextRecord {c c' : StructuredContext}
    (h : canonicalize (contextRecord c) = canonicalize (contextRecord c')) :
    ContextBuilder.fileKeys c.summary = ContextBuilder.fileKeys c'.summary := by
  obtain ⟨summary, hsummary, hcanonical⟩ := stable_field_of_canonicalize_eq h
    (k := "summary") (v := c.summary.toJson) (by decide) (by simp)
  obtain rfl : summary = c'.summary.toJson := by simpa using hsummary
  obtain ⟨files, hfiles, hcanonical⟩ := stable_field_of_canonicalize_eq hcanonical.symm
    (k := "file_activity") (v := .arr (c.summary.fileActivity.map fileCountJson)) (by decide)
    (by simp)
  obtain rfl : files = .arr (c'.summary.fileActivity.map fileCountJson) := by simpa using hfiles
  rw [canonicalize_arr, canonicalize_arr, Json.arr.injEq] at hcanonical
  exact keys_of_fileCountJson hcanonical.symm

section
variable {F : Type} [LinearOrder F] [Add F] [Sub F] [Neg F] [OfScientific F]
  {cfg : ReplayConfig} {s t : ReplayState}

theorem processWindow_context (h : cfg.stage.includes .context = true) (draw : ReplayDraw F)
    (s : ReplayState) (c : StructuredContext) :
    ∃ records, (processWindow cfg draw s c).2 = contextRecord c :: records := by
  unfold processWindow
  rw [if_pos h]
  exact ⟨_, rfl⟩

def leading : TraceItem → Nat
  | .line _ => 1
  | _ => 0

theorem rollWindow_context (h : cfg.stage.includes .context = true) (draw : ReplayDraw F)
    (s : ReplayState) {w : WindowAggregator} {capturedAtMs : Int}
    (hexpired : w.isExpired capturedAtMs = true) (hne : w.buffer ≠ []) :
    ∃ records, (rollWindow cfg draw s w capturedAtMs).2 =
      contextRecord (w.context capturedAtMs draw.window) :: records := by
  unfold rollWindow
  rw [if_pos hexpired, WindowAggregator.close_of_nonempty hne]
  exact processWindow_context h draw _ _

theorem ingestEnvelope_closes (draw : ReplayDraw F) {envelope : CollectorEnvelope}
    (hversion : envelope.schemaVersion = "dipecs.collector.v1")
    (hstage : cfg.stage.includes .context = true)
    (hevents : dueEvents s envelope.capturedAtMs ≠ []) :
    ∃ pre records c, (ingestEnvelope cfg draw s envelope).2 = pre ++ contextRecord c :: records ∧
      pre.length = 1 ∧ c.summary.fileActivity = draw.window.order.reorder
        (ContextBuilder.countFiles (dueEvents s envelope.capturedAtMs)) := by
  unfold dueEvents at hevents ⊢
  cases hs : s.aggregator with
  | none => simp [hs] at hevents
  | some w =>
    rw [hs] at hevents
    simp only at hevents ⊢
    cases hexpired : w.isExpired envelope.capturedAtMs with
    | false => simp [hexpired] at hevents
    | true =>
      simp only [hexpired, if_true] at hevents ⊢
      obtain ⟨records, hrecords⟩ :=
        rollWindow_context hstage draw (captured s envelope.capturedAtMs) hexpired hevents
      rw [ingestEnvelope_eq draw s hversion, hs, Option.getD_some]
      dsimp only
      rw [hrecords]
      exact ⟨[ingestRecord s.lineNo ⟨envelope.rawEvent, envelope.sourceTier⟩], _,
        w.context envelope.capturedAtMs draw.window, rfl, rfl, rfl⟩

theorem step_closes {x : ReplayInput F} (hfailed : s.failed = false)
    (hstage : cfg.stage.includes .context = true) (hevents : closedEvents cfg s x.item ≠ []) :
    ∃ pre records c, (step cfg s x).2 = pre ++ contextRecord c :: records ∧
      pre.length = leading x.item ∧ c.summary.fileActivity =
        x.draw.window.order.reorder (ContextBuilder.countFiles (closedEvents cfg s x.item)) := by
  unfold step
  rw [hfailed]
  cases hx : x.item with
  | unreadable => simp [hx, closedEvents] at hevents
  | line text =>
    rw [hx] at hevents
    unfold replayLine
    cases hparsed : parseLine cfg.serde text with
    | envelope envelope =>
      simp only [closedEvents, hparsed] at hevents ⊢
      exact ingestEnvelope_closes x.draw (parseLine_schemaVersion hparsed) hstage hevents
    | _ => simp [closedEvents, hparsed] at hevents
  | endOfTrace =>
    rw [hx] at hevents
    unfold flush
    cases hs : s.aggregator with
    | none => simp [closedEvents, hs] at hevents
    | some w =>
      simp only [closedEvents, hs, Option.elim_some] at hevents ⊢
      obtain ⟨records, hrecords⟩ := processWindow_context hstage x.draw s
        (w.context s.lastCapturedAtMs x.draw.window)
      rw [WindowAggregator.close_of_nonempty hevents]
      exact ⟨[], records, _, hrecords, rfl, rfl⟩

omit [LinearOrder F] [Add F] [Sub F] [Neg F] [OfScientific F] in
theorem closedEvents_anon (cfg : ReplayConfig) (h : SameState s t) (item : TraceItem) :
    (closedEvents cfg s item).map anonEvent = (closedEvents cfg t item).map anonEvent := by
  unfold closedEvents dueEvents
  obtain ⟨hs, ht⟩ | ⟨w, w', hs, ht, hw⟩ := h.windows
  · rw [hs, ht]
  · rw [hs, ht]
    simp only [isExpired_anon hw, Option.elim_some]
    split
    · split
      · split
        · exact buffer_anon hw
        · rfl
      · rfl
    · rfl
    · exact buffer_anon hw

def blank (order : Reordering (ExtensionCategory × UInt32)) : ReplayDraw F where
  eventId := ""
  window := ⟨"", order⟩
  ruleBased := ⟨fun _ => "", 0⟩
  localEvaluator := ⟨fun _ => "", 0⟩
  candidates := .id
  fallback := ⟨fun _ => "", 0⟩
  clock := ⟨0, 0, 0⟩

theorem step_differs {x y : ReplayInput F} (h : SameState s t) (hx : x.draw = blank .id)
    (hy : y.draw = blank .reverse) (hitem : x.item = y.item) (hsettled : ¬Settled cfg s x)
    (rest rest' : List Json) :
    ((machine cfg).step s x).2 ++ rest ≠ ((machine cfg).step t y).2 ++ rest' := by
  intro hout
  unfold Settled at hsettled
  push Not at hsettled
  obtain ⟨hfailed, hstage, hkinds⟩ := hsettled
  have hevents := closedEvents_anon cfg h x.item
  have hcount := countFiles_anon hevents
  have hne : closedEvents cfg s x.item ≠ [] := by
    intro hnil
    rw [hnil] at hkinds
    exact hkinds fun c hc => by cases hc
  have hne' : closedEvents cfg t y.item ≠ [] := by
    intro hnil
    rw [hitem, hnil, List.map_nil, List.map_eq_nil_iff, ← hitem] at hevents
    exact hne hevents
  obtain ⟨pre, records, c, hstep, hpre, hc⟩ := step_closes hfailed hstage hne
  obtain ⟨pre', records', c', hstep', hpre', hc'⟩ :=
    step_closes (h.failed ▸ hfailed) hstage hne'
  change (step cfg s x).2.map canonicalize ++ rest = (step cfg t y).2.map canonicalize ++ rest'
    at hout
  rw [hstep, hstep', List.map_append, List.map_append, List.append_assoc, List.append_assoc]
    at hout
  obtain ⟨-, hrest⟩ := List.append_inj hout (by simp [hpre, hpre', hitem])
  have hkeys := fileKeys_of_contextRecord (List.head_eq_of_cons_eq hrest)
  rw [hx] at hc
  rw [hy, ← hitem, ← hcount] at hc'
  simp only [ContextBuilder.fileKeys, hc, hc', blank, Reordering.id, Reordering.reverse,
    List.map_reverse] at hkeys
  have hlength := Reordering.length_le_one_of_reverse_eq
    (ContextBuilder.countFiles_keys _).nodup hkeys.symm
  rw [List.length_map, ContextBuilder.countFiles_length_le_one_iff] at hlength
  exact hkinds hlength

/-! ### Runs -/

omit [LinearOrder F] [Add F] [Sub F] [Neg F] [OfScientific F] in
theorem inputs_sameItems (lines : List (Option String)) (draws draws' : Nat → ReplayDraw F) :
    List.Forall₂ (fun x y => x.item = y.item) (inputs lines draws) (inputs lines draws') := by
  refine List.rel_append ?_ (.cons rfl .nil)
  rw [List.forall₂_map_left_iff, List.forall₂_map_right_iff, List.forall₂_same]
  exact fun _ _ => rfl

theorem runWithAudit_same (sha256 : List Json → String) {lines : List (Option String)}
    {draws : Nat → ReplayDraw F} (h : (machine cfg).Along (Settled cfg) start (inputs lines draws))
    (draws' : Nat → ReplayDraw F) :
    runWithAudit sha256 cfg lines draws = runWithAudit sha256 cfg lines draws' := by
  have hsteps := Machine.Along₂.of_along (t := start) h (inputs_sameItems lines draws draws')
  obtain ⟨hstate, hout⟩ := Machine.run_noninterference
    (fun s t x y hst hok => step_same hst hok.1 hok.2) start_same hsteps
  simp only [runWithAudit, hout, hstate.failed]

theorem along_of_stream_eq {lines : List (Option String)}
    (h : ((machine (F := F) cfg).run start (inputs lines fun _ => blank .id)).2 =
      ((machine (F := F) cfg).run start (inputs lines fun _ => blank .reverse)).2) :
    (machine (F := F) cfg).Along (Settled cfg) start (inputs lines fun _ => blank .id) := by
  have hrel : List.Forall₂ (fun x y : ReplayInput F =>
      x.draw = blank .id ∧ y.draw = blank .reverse ∧ x.item = y.item)
      (inputs lines fun _ => blank .id) (inputs lines fun _ => blank .reverse) := by
    refine List.rel_append ?_ (.cons ⟨rfl, rfl, rfl⟩ .nil)
    rw [List.forall₂_map_left_iff, List.forall₂_map_right_iff, List.forall₂_same]
    exact fun _ _ => ⟨rfl, rfl, rfl⟩
  exact Machine.along_of_run_eq
    (fun s t x y hst hok hxy => step_same hst hok hxy.2.2)
    (fun s t x y hst hok hxy => step_differs hst hxy.1 hxy.2.1 hxy.2.2 hok)
    start_same hrel h

/-- All replays of a trace write the same stream and return the same hash, exactly if every
window they close has file activity of one kind only. -/
theorem runWithAudit_deterministic_iff (sha256 : List Json → String) (cfg : ReplayConfig)
    (lines : List (Option String)) :
    (∀ draws draws' : Nat → ReplayDraw F,
      runWithAudit sha256 cfg lines draws = runWithAudit sha256 cfg lines draws') ↔
    (machine (F := F) cfg).Along (Settled cfg) start (inputs lines fun _ => blank .id) := by
  constructor
  · intro h
    exact along_of_stream_eq (congrArg Prod.fst (h (fun _ => blank .id) fun _ => blank .reverse))
  · intro h draws draws'
    rw [← runWithAudit_same sha256 h draws, ← runWithAudit_same sha256 h draws']

end

namespace ReplaySample

def fileRow (name : String) : String :=
  "\x7b\"rawEvent\":\x7b\"FileSystemAccess\":\x7b\"access_type\":\"OpenRead\"," ++
    "\"bytes_transferred\":null,\"file_path\":\"" ++ name ++
    "\",\"pid\":1,\"timestamp_ms\":1,\"uid\":1\x7d\x7d,\"timestampMs\":1\x7d"

def fileJson (name : String) : Json :=
  .obj [("rawEvent", .obj [("FileSystemAccess", .obj [("access_type", .str "OpenRead"),
    ("bytes_transferred", .null), ("file_path", .str name), ("pid", .posInt 1),
    ("timestamp_ms", .posInt 1), ("uid", .posInt 1)])]), ("timestampMs", .posInt 1)]

def serde : Collector.Serde where
  fromStr line :=
    if line = fileRow "photo.jpg" then .ok (fileJson "photo.jpg")
    else if line = fileRow "notes.txt" then .ok (fileJson "notes.txt")
    else .error "expected value at line 1 column 1"
  rawEvent
    | .obj [("FileSystemAccess", .obj [("access_type", .str "OpenRead"),
        ("bytes_transferred", .null), ("file_path", .str path), ("pid", .posInt pid),
        ("timestamp_ms", .posInt timestamp), ("uid", .posInt uid)])] =>
      .ok (.fileSystemAccess
        ⟨timestamp.toNat, pid.toUInt32, uid.toUInt32, path, .openRead, none⟩)
    | _ => .error "unknown variant"

def cfg : ReplayConfig := ⟨serde, fun s => s, none, 10, .context⟩

end ReplaySample

/-- A picture and a text file in one window. -/
theorem runWithAudit_orders_differ :
    let lines := [some (ReplaySample.fileRow "photo.jpg"), some (ReplaySample.fileRow "notes.txt")]
    (runWithAudit (F := ℚ) (fun _ => "") ReplaySample.cfg lines fun _ => blank .id).1 ≠
      (runWithAudit (F := ℚ) (fun _ => "") ReplaySample.cfg lines fun _ => blank .reverse).1 := by
  intro lines h
  have hunsettled : ¬(machine (F := ℚ) ReplaySample.cfg).Along (Settled ReplaySample.cfg) start
      (inputs lines fun _ => blank .id) := by decide +kernel
  exact hunsettled (along_of_stream_eq h)

end Replay

end Dipecs.Cli
