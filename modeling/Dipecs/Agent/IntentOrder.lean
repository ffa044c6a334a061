import Dipecs.Agent.CompositeLocalEvaluator
import Dipecs.Agent.Predictive.PopularityFallback
import Dipecs.Agent.RuleTargets
import Mathlib.Tactic.NormNum.OfScientific

/-! A batch is documented to list its intents by descending confidence.  Only the local evaluator
sorts: the rules go by the kind of the signal, a prediction by its rank, and a merged batch by
where the intents come from. -/

namespace Dipecs.Agent

open Dipecs.Spec Dipecs.Core Dipecs.Library Dipecs.Agent.Predictive

variable {F : Type}

abbrev InOrder [LE F] (intents : List (Intent F)) : Prop := Descending Intent.confidence intents

/-- What rounding the literals keeps of the order of the decimals. -/
structure DecimalOrder (F : Type) [LinearOrder F] [OfScientific F] : Prop where
  engagement_lt_screen : (0.55 : F) < 0.60
  screen_lt_pressure : (0.60 : F) < 0.65
  pressure_lt_file : (0.65 : F) < 0.70
  file_lt_foreground : (0.70 : F) < 0.80
  floor_le_ceiling : (policyConfidenceFloor : F) ≤ 0.99

theorem inOrder_drawIds [LE F] (draw : BackendDraw) (drafts : List (Intent F)) :
    InOrder (drawIds draw drafts) ↔ InOrder drafts :=
  descending_congr (map_drawIds (fun _ _ => rfl) draw drafts)

/-! ### The rules -/

namespace RuleBasedBackend

/-- No signal of the window comes before one that is surer. -/
structure SignalsInOrder (context : StructuredContext) : Prop where
  notification : .fileMention ∈ context.events.flatMap SanitizedEvent.hints ∨
      context.summary.notifiedApps ≠ [] →
    context.events.filterMap SanitizedEvent.openedBy = [] ∧
      context.events.any reportsLowBattery = false
  engagement : .fileMention ∉ context.events.flatMap SanitizedEvent.hints →
    context.summary.notifiedApps ≠ [] →
    context.events.any turnsScreenOn = false ∧ context.events.filterMap pressure = []
  screen : context.events.any turnsScreenOn = true →
    context.events.any reportsLowBattery = false ∧ context.events.filterMap pressure = []

section
variable (events : List SanitizedEvent)

theorem foldl_scan_flag (flag : Signals → Bool) {raises : SanitizedEvent → Bool}
    (hnone : flag noSignals = false) (hstep : ∀ s e, flag (scan s e) = (flag s || raises e)) :
    flag (events.foldl scan noSignals) = events.any raises := by
  rw [Bool.eq_iff_iff, List.any_eq_true]
  have hfold := foldl_iff (Q := fun s : Signals => flag s = true) (R := fun e => raises e = true)
    (fun s e => by rw [hstep, Bool.or_eq_true_iff]) events noSignals
  exact hfold.trans (or_iff_right (by rw [hnone]; exact Bool.false_ne_true))

theorem foldl_scan_foreground_eq_nil :
    (events.foldl scan noSignals).observedForegroundApps = [] ↔
      events.filterMap SanitizedEvent.openedBy = [] := by
  have hmem := (foldl_scan_observedForegroundApps events).mem
  simp only [List.eq_nil_iff_forall_not_mem, hmem]

theorem foldl_scan_memoryPressure_eq_none :
    (events.foldl scan noSignals).memoryPressure = none ↔ events.filterMap pressure = [] := by
  have hheaviest := foldl_scan_memoryPressure events
  cases hworst : (events.foldl scan noSignals).memoryPressure with
  | none =>
    rw [hworst] at hheaviest
    exact iff_of_true rfl hheaviest
  | some worst =>
    rw [hworst] at hheaviest
    exact iff_of_false nofun (List.ne_nil_of_mem hheaviest.1)

end

section
variable [LinearOrder F] [OfScientific F]

def confidences (s : Signals) (notifiedApps : List String) : List F :=
  given s.hasFileMention 0.70 ++ given (!s.hasFileMention && !notifiedApps.isEmpty) 0.55 ++
    given (!s.observedForegroundApps.isEmpty) 0.80 ++ given s.hasScreenOn 0.60 ++
    given s.isLowBattery 0.80 ++ given s.memoryPressure.isSome 0.65

theorem inOrder_drafts (s : Signals) (notifiedApps : List String) :
    InOrder (drafts s notifiedApps : List (Intent F)) ↔
      Descending id (confidences s notifiedApps : List F) := by
  have hnotification : (notificationDrafts s notifiedApps : List (Intent F)).map Intent.confidence =
      given s.hasFileMention 0.70 ++ given (!s.hasFileMention && !notifiedApps.isEmpty) 0.55 := by
    unfold notificationDrafts
    cases s.hasFileMention <;> cases notifiedApps <;> rfl
  have hforeground : (foregroundDrafts s : List (Intent F)).map Intent.confidence =
      given (!s.observedForegroundApps.isEmpty) 0.80 := by
    unfold foregroundDrafts
    cases s.observedForegroundApps <;> rfl
  have hscreen : (screenDrafts s : List (Intent F)).map Intent.confidence =
      given s.hasScreenOn 0.60 := by
    unfold screenDrafts
    cases s.hasScreenOn <;> rfl
  have hbattery : (batteryDrafts s : List (Intent F)).map Intent.confidence =
      given s.isLowBattery 0.80 := by
    unfold batteryDrafts
    cases s.isLowBattery <;> rfl
  have hpressure : (pressureDrafts s : List (Intent F)).map Intent.confidence =
      given s.memoryPressure.isSome 0.65 := by
    unfold pressureDrafts
    cases s.memoryPressure <;> rfl
  have hfound : (notificationDrafts s notifiedApps ++ foregroundDrafts s ++ screenDrafts s ++
      batteryDrafts s ++ pressureDrafts s : List (Intent F)).map Intent.confidence =
      confidences s notifiedApps := by
    simp only [List.map_append, hnotification, hforeground, hscreen, hbattery, hpressure,
      confidences, List.append_assoc]
  rw [drafts]
  split
  · rename_i hempty
    rw [List.isEmpty_iff.mp hempty] at hfound
    rw [← hfound]
    exact iff_of_true (descending_singleton _) List.Pairwise.nil
  · exact descending_congr (by rw [hfound, List.map_id])

theorem descending_confidences (h : DecimalOrder F) (s : Signals) (notifiedApps : List String) :
    Descending id (confidences s notifiedApps : List F) ↔
      (s.hasFileMention = true ∨ notifiedApps ≠ [] →
        s.observedForegroundApps = [] ∧ s.isLowBattery = false) ∧
      (s.hasFileMention = false → notifiedApps ≠ [] →
        s.hasScreenOn = false ∧ s.memoryPressure = none) ∧
      (s.hasScreenOn = true → s.isLowBattery = false ∧ s.memoryPressure = none) := by
  obtain ⟨h1, h2, h3, h4, -⟩ := h
  have h5 : ¬(0.80 : F) ≤ 0.70 := not_le.mpr h4
  have h6 : (0.60 : F) ≤ 0.70 := (h2.trans h3).le
  have h7 : (0.65 : F) ≤ 0.70 := h3.le
  have h8 : ¬(0.80 : F) ≤ 0.55 := not_le.mpr (((h1.trans h2).trans h3).trans h4)
  have h9 : ¬(0.60 : F) ≤ 0.55 := not_le.mpr h1
  have h10 : ¬(0.65 : F) ≤ 0.55 := not_le.mpr (h1.trans h2)
  have h11 : (0.60 : F) ≤ 0.80 := ((h2.trans h3).trans h4).le
  have h12 : (0.65 : F) ≤ 0.80 := (h3.trans h4).le
  have h13 : ¬(0.80 : F) ≤ 0.60 := not_le.mpr ((h2.trans h3).trans h4)
  have h14 : ¬(0.65 : F) ≤ 0.60 := not_le.mpr h2
  simp only [confidences, descending_append, descending_given, List.forall_mem_append,
    forall_given, id, h5, h6, h7, h8, h9, h10, h11, h12, h13, h14, le_refl]
  cases s.hasFileMention <;> cases notifiedApps <;> cases s.observedForegroundApps <;>
    cases s.hasScreenOn <;> cases s.isLowBattery <;> cases s.memoryPressure <;> simp

theorem inOrder_evaluate (h : DecimalOrder F) (draw : BackendDraw)
    (context : StructuredContext) :
    InOrder (evaluate (F := F) draw context).intentBatch.intents ↔ SignalsInOrder context := by
  have hintents : (evaluate (F := F) draw context).intentBatch.intents =
      drawIds draw (drafts (context.events.foldl scan noSignals) context.summary.notifiedApps) :=
    rfl
  have hscreen := foldl_scan_flag context.events Signals.hasScreenOn rfl
    fun s e => by rw [scan_eq]
  have hbattery := foldl_scan_flag context.events Signals.isLowBattery rfl
    fun s e => by rw [scan_eq]
  rw [hintents, inOrder_drawIds, inOrder_drafts, descending_confidences h,
    foldl_scan_hasFileMention, hscreen, hbattery,
    foldl_scan_foreground_eq_nil, foldl_scan_memoryPressure_eq_none, decide_eq_true_eq,
    decide_eq_false_iff_not]
  exact ⟨fun ⟨hnotification, hengagement, hscreen⟩ => ⟨hnotification, hengagement, hscreen⟩,
    fun ⟨hnotification, hengagement, hscreen⟩ => ⟨hnotification, hengagement, hscreen⟩⟩

end

end RuleBasedBackend

/-! ### The local evaluator -/

namespace LocalEvaluator

section
variable [LinearOrder F]

theorem descending_finalizeCandidates (order : Reordering (IntentCandidate F))
    (candidates : List (IntentCandidate F)) (signals : WindowSignals) (maxIntents : Nat) :
    Descending IntentCandidate.confidence
      (finalizeCandidates order candidates signals maxIntents) := by
  have hsorted := (List.pairwise_mergeSort candidateLe_trans candidateLe_total
    (order.reorder (dedup ((candidates.map (filterActions signals)).filter
      fun c => !c.actions.isEmpty)))).sublist (List.take_sublist maxIntents _)
  refine hsorted.imp fun h => ?_
  rcases of_decide_eq_true h with hlt | ⟨hnot, -⟩
  · exact hlt.le
  · exact not_lt.mp hnot

variable [Add F] [Sub F] [Neg F] [OfScientific F]

theorem evaluateInput_inOrder (draw : BackendDraw) (order : Reordering (IntentCandidate F))
    (context : StructuredContext) (behaviorProfile : Option UserBehaviorProfile)
    (recentFeedback : List RecentDecisionRecord) :
    InOrder (evaluateInput draw order context behaviorProfile
      recentFeedback).intentBatch.intents := by
  rw [evaluateInput]
  dsimp only
  rw [inOrder_drawIds, drafts]
  split
  · exact descending_singleton _
  · exact descending_map.mpr (descending_finalizeCandidates order _ _ 5)

end

end LocalEvaluator

/-! ### Predictions -/

namespace Predictive.PredictiveLocalBackend

section
variable [LinearOrder F] [OfScientific F]

def confidenceOf (s : AppScore F) : F := clamp policyConfidenceFloor 0.99 s.score

theorem inOrder_predictiveDrafts (known : Finset String) (predictions : List (AppScore F)) :
    InOrder (predictiveDrafts known predictions) ↔ Descending confidenceOf predictions := by
  rw [predictiveDrafts]
  cases predictions with
  | nil => exact iff_of_true (descending_singleton _) List.Pairwise.nil
  | cons s predictions => exact descending_map

theorem descending_confidenceOf (hle : (policyConfidenceFloor : F) ≤ 0.99)
    {predictions : List (AppScore F)} (h : Descending AppScore.score predictions) :
    Descending confidenceOf predictions :=
  h.imp fun hscore => clamp_mono hle hscore

variable [Add F] [Sub F] [Mul F] [Div F] [Neg F] [NatCast F]

/-- Where popularity stands in for the ensemble, it is listed by descending confidence. -/
def PredictionsInOrder (m : ScoreMath F) (p : NextAppPredictor F) (input : ModelInput) : Prop :=
  let features := featuresFromModelInput input
  FallsBack m p features → Descending confidenceOf
    ((filterCurrentApp p.artifact.globalPopularity features.currentApp).take maxBackendIntents)

theorem evaluateModelInput_eq_ok {m : ScoreMath F} {p : NextAppPredictor F} (hbuilt : Built m p)
    (hle : (policyConfidenceFloor : F) ≤ 0.99) (draw : BackendDraw) (input : ModelInput) :
    ∃ result, evaluateModelInput m p draw input = .ok result ∧
      (InOrder result.intentBatch.intents ↔ PredictionsInOrder m p input) := by
  obtain ⟨predictions, hrank, hfalls, hranked⟩ :=
    hbuilt.rank_ensemble (featuresFromModelInput input) maxBackendIntents
  refine ⟨_, by rw [evaluateModelInput, hrank]; rfl, ?_⟩
  change InOrder (drawIds draw (predictiveDrafts _ predictions)) ↔ _
  rw [inOrder_drawIds, inOrder_predictiveDrafts]
  by_cases hfall : FallsBack m p (featuresFromModelInput input)
  · rw [hfalls hfall]
    exact ⟨fun h _ => h, fun h => h hfall⟩
  · exact iff_of_true (descending_confidenceOf hle (hranked hfall)) fun h => absurd h hfall

end

end Predictive.PredictiveLocalBackend

/-! ### The merged batch -/

namespace CompositeLocalEvaluatorBackend

def kept (intents : List (Intent F)) : List (Intent F) := (takeIdleNoop intents).2

/-- Both batches are in order without their first idle no-op, and what is then left of the first
is as sure as anything left of the second. -/
def MergesInOrder [LE F] (heuristic predictive : List (Intent F)) : Prop :=
  InOrder (kept heuristic) ∧ InOrder (kept predictive) ∧
    ∀ h ∈ kept heuristic, ∀ q ∈ kept predictive, q.confidence ≤ h.confidence

theorem inOrder_mergeIntents [LE F] (heuristic predictive : List (Intent F)) :
    InOrder (mergeIntents heuristic predictive) ↔ MergesInOrder heuristic predictive := by
  have hmerge : mergeIntents heuristic predictive =
      if (kept heuristic ++ kept predictive).isEmpty then
        ((takeIdleNoop heuristic).1.or (takeIdleNoop predictive).1).toList
      else kept heuristic ++ kept predictive := rfl
  rw [hmerge, MergesInOrder, ← descending_append]
  split
  · rename_i hempty
    rw [List.isEmpty_iff.mp hempty]
    exact iff_of_true (descending_toList _) List.Pairwise.nil
  · exact Iff.rfl

end CompositeLocalEvaluatorBackend

/-! ### Every backend -/

/-- The backends that make up a batch of their own; the local evaluator also answers a bare
context. -/
inductive LocalBackend
  | ruleBased
  | localEvaluatorOnContext
  | localEvaluator
  | predictiveLocal

section
variable [LinearOrder F] [Add F] [Sub F] [Mul F] [Div F] [Neg F] [NatCast F] [OfScientific F]

namespace LocalBackend

def evaluate (m : ScoreMath F) (p : NextAppPredictor F) (draw : BackendDraw)
    (order : Reordering (LocalEvaluator.IntentCandidate F)) (input : ModelInput) :
    LocalBackend → Except Fault (DecisionBackendResult F)
  | .ruleBased => .ok (RuleBasedBackend.evaluate draw input.currentContext)
  | .localEvaluatorOnContext =>
    .ok (LocalEvaluator.evaluateInput draw order input.currentContext none [])
  | .localEvaluator => .ok (LocalEvaluator.evaluateModelInput draw order input)
  | .predictiveLocal => PredictiveLocalBackend.evaluateModelInput m p draw input

def KeepsOrder (m : ScoreMath F) (p : NextAppPredictor F) (input : ModelInput) :
    LocalBackend → Prop
  | .ruleBased => RuleBasedBackend.SignalsInOrder input.currentContext
  | .localEvaluatorOnContext | .localEvaluator => True
  | .predictiveLocal => PredictiveLocalBackend.PredictionsInOrder m p input

open CompositeLocalEvaluatorBackend in
/-- As long as scores can be compared, a backend answers in the documented order under its own
condition and no other.  The composite merges the answers of two of them, and a merge is in order
just when the two batches are and go together, whatever they are. -/
theorem evaluate_inOrder_iff (hdecimal : DecimalOrder F) (m : ScoreMath F)
    (a : NextAppModelArtifact F) (p : NextAppPredictor F)
    (haccepted : NextAppPredictor.new m a = .ok p) (draw draw' : BackendDraw)
    (order : Reordering (LocalEvaluator.IntentCandidate F)) (input : ModelInput) :
    (∀ backend : LocalBackend, ∃ result, backend.evaluate m p draw order input = .ok result ∧
      (InOrder result.intentBatch.intents ↔ backend.KeepsOrder m p input)) ∧
    (∃ predictive, PredictiveLocalBackend.evaluateModelInput m p draw' input = .ok predictive ∧
      CompositeLocalEvaluatorBackend.evaluateModelInput m p draw draw' order input =
        .ok (mergeResults input (LocalEvaluator.evaluateModelInput draw order input)
          predictive)) ∧
    ∀ heuristic predictive : DecisionBackendResult F,
      InOrder (mergeResults input heuristic predictive).intentBatch.intents ↔
        MergesInOrder heuristic.intentBatch.intents predictive.intentBatch.intents := by
  obtain ⟨hbuilt, -⟩ := NextAppPredictor.built_of_new haccepted
  have hpredictive :=
    PredictiveLocalBackend.evaluateModelInput_eq_ok hbuilt hdecimal.floor_le_ceiling
  refine ⟨fun backend => ?_, ?_, fun _ _ => inOrder_mergeIntents _ _⟩
  · cases backend with
    | ruleBased =>
      exact ⟨_, rfl, RuleBasedBackend.inOrder_evaluate hdecimal draw input.currentContext⟩
    | localEvaluatorOnContext =>
      exact ⟨_, rfl, iff_of_true (LocalEvaluator.evaluateInput_inOrder draw order _ _ _) trivial⟩
    | localEvaluator =>
      exact ⟨_, rfl, iff_of_true (LocalEvaluator.evaluateInput_inOrder draw order _ _ _) trivial⟩
    | predictiveLocal => exact hpredictive draw input
  · obtain ⟨predictive, heq, -⟩ := hpredictive draw' input
    refine ⟨predictive, heq, ?_⟩
    rw [CompositeLocalEvaluatorBackend.evaluateModelInput, heq]
    rfl

end LocalBackend

end

theorem decimalOrder_rat : DecimalOrder ℚ where
  engagement_lt_screen := by norm_num
  screen_lt_pressure := by norm_num
  pressure_lt_file := by norm_num
  file_lt_foreground := by norm_num
  floor_le_ceiling := by
    rw [policyConfidenceFloor]
    norm_num

def interruptedContext : StructuredContext where
  windowId := "w1"
  windowStartMs := 0
  windowEndMs := 10000
  durationSecs := 10
  events :=
    [⟨"e1", 1000, .notification "mail" none none ⟨4, .latin, false⟩ ⟨0, .unknown, false⟩ [] false
        none, .publicApi, some "mail", none⟩,
      ⟨"e2", 2000, .appTransition "chat" none .foreground, .publicApi, some "chat", none⟩]
  summary := ⟨["chat"], ["mail"], [], [], none, .publicApi⟩

theorem evaluate_inOrder_iff_interrupted :
    ∃ result, LocalBackend.evaluate (F := ℚ) ratMath
        ⟨twoAppArtifact, appIndexOf twoAppArtifact.appVocab⟩ ⟨fun _ => "i", 3⟩ .id
        ⟨interruptedContext, ⟨none, "", 0, [], [], [], [], [], [], none⟩, []⟩ .predictiveLocal =
          .ok result ∧
      (InOrder result.intentBatch.intents ↔ LocalBackend.KeepsOrder (F := ℚ) ratMath
        ⟨twoAppArtifact, appIndexOf twoAppArtifact.appVocab⟩
        ⟨interruptedContext, ⟨none, "", 0, [], [], [], [], [], [], none⟩, []⟩ .predictiveLocal) :=
  (LocalBackend.evaluate_inOrder_iff decimalOrder_rat ratMath twoAppArtifact
    ⟨twoAppArtifact, appIndexOf twoAppArtifact.appVocab⟩ rfl ⟨fun _ => "i", 3⟩ ⟨fun _ => "j", 4⟩
    .id ⟨interruptedContext, ⟨none, "", 0, [], [], [], [], [], [], none⟩, []⟩).1 .predictiveLocal

/-- The rules put the mail, of which they are less sure, before the app in the foreground. -/
theorem rules_outOfOrder_interrupted :
    ¬ InOrder (RuleBasedBackend.evaluate (F := ℚ) ⟨fun _ => "i", 3⟩
      interruptedContext).intentBatch.intents := by
  rw [RuleBasedBackend.inOrder_evaluate decimalOrder_rat]
  intro h
  exact absurd (h.notification (.inr (by decide))).1 (by decide)

end Dipecs.Agent
