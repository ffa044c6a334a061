import Dipecs.Core.PrivacyAirgap
import Dipecs.Daemon.Pipeline

/-! Noninterference behind the privacy gate: what a window kept from the cloud can still
tell later model inputs and snapshots. -/

namespace Dipecs.Daemon

open Dipecs.Spec Dipecs.Core Dipecs.Agent Dipecs.Library

variable {D F : Type}

/-- The window was collected from sanitized events and summarized by the builder. -/
structure Collected (toLowercase : String → String) (c : StructuredContext) : Prop where
  sanitized : ∀ e ∈ c.events, ∃ eventId raw tier,
    e = PrivacyAirGap.sanitizeWithTier toLowercase eventId raw tier
  summarized : ∃ order, c.summary = ContextBuilder.buildSummary order c.events

/-- The same window, but for what it knows from notifications. -/
structure SameButNotifications (c c' : StructuredContext) : Prop where
  windowId : c.windowId = c'.windowId
  windowStartMs : c.windowStartMs = c'.windowStartMs
  windowEndMs : c.windowEndMs = c'.windowEndMs
  durationSecs : c.durationSecs = c'.durationSecs
  others : c.events.filter (!·.isNotification) = c'.events.filter (!·.isNotification)
  foregroundApps : c.summary.foregroundApps = c'.summary.foregroundApps
  fileActivity : c.summary.fileActivity = c'.summary.fileActivity
  latestSystemStatus : c.summary.latestSystemStatus = c'.summary.latestSystemStatus
  sourceTier : c.summary.sourceTier = c'.summary.sourceTier

/-- What the memory keeps of the notifications of a gated window. -/
structure SameInMemory (c c' : StructuredContext) : Prop where
  notifiedApps : c.summary.notifiedApps = c'.summary.notifiedApps
  allSemanticHints : c.summary.allSemanticHints = c'.summary.allSemanticHints
  privacyScore : DecisionRouter.computePrivacyScore c = DecisionRouter.computePrivacyScore c'

namespace Collected
variable {toLowercase : String → String} {c : StructuredContext}

theorem appPackage_of_notification (h : Collected toLowercase c) {e : SanitizedEvent}
    (he : e ∈ c.events) (hn : e.isNotification = true) : e.appPackage = e.notifiedBy := by
  obtain ⟨eventId, raw, tier, rfl⟩ := h.sanitized e he
  cases raw with
  | notificationPosted n => rfl
  | notificationInteraction n => rfl
  | _ => cases hn

theorem eventPackages_subset (h : Collected toLowercase c) {e : SanitizedEvent}
    (he : e ∈ c.events) (hn : e.isNotification = true) :
    KnownTargets.eventPackages e ⊆ c.summary.notifiedApps := by
  intro p hp
  obtain ⟨order, hsum⟩ := h.summarized
  rw [hsum]
  refine ContextBuilder.mem_notifiedApps.mpr ⟨e, he, ?_⟩
  have happ := h.appPackage_of_notification he hn
  unfold KnownTargets.eventPackages at hp
  rw [happ] at hp
  unfold SanitizedEvent.isNotification at hn
  unfold SanitizedEvent.notifiedBy at hp hn ⊢
  cases ht : e.eventType <;> simp_all

theorem mem_packages (h : Collected toLowercase c) {p : String} :
    p ∈ (KnownTargets.fromContext c).packages ↔
      p ∈ c.summary.foregroundApps ∨ p ∈ c.summary.notifiedApps ∨
        p ∈ (c.events.filter (!·.isNotification)).flatMap KnownTargets.eventPackages := by
  simp only [KnownTargets.fromContext, List.mem_toFinset, List.mem_append, or_assoc,
    List.mem_flatMap, List.mem_filter]
  refine or_congr_right ⟨?_, ?_⟩
  · rintro (hp | ⟨e, he, hp⟩)
    · exact .inl hp
    · cases hn : e.isNotification with
      | true => exact .inl (h.eventPackages_subset he hn hp)
      | false => exact .inr ⟨e, ⟨he, by simp [hn]⟩, hp⟩
  · rintro (hp | ⟨e, ⟨he, -⟩, hp⟩)
    · exact .inl hp
    · exact .inr ⟨e, he, hp⟩

theorem mem_hints (h : Collected toLowercase c) {hint : SemanticHint} :
    hint ∈ c.events.flatMap SanitizedEvent.hints ↔ hint ∈ c.summary.allSemanticHints := by
  obtain ⟨order, hsum⟩ := h.summarized
  rw [hsum, ContextBuilder.mem_allSemanticHints, List.mem_flatMap]

end Collected

section
variable {toLowercase : String → String} {c c' : StructuredContext}

theorem fromContext_congr (hc : Collected toLowercase c) (hc' : Collected toLowercase c')
    (hsame : SameButNotifications c c') (hmem : SameInMemory c c') :
    KnownTargets.fromContext c = KnownTargets.fromContext c' := by
  have hpackages : (KnownTargets.fromContext c).packages =
      (KnownTargets.fromContext c').packages := by
    ext p
    rw [hc.mem_packages, hc'.mem_packages, hsame.foregroundApps, hmem.notifiedApps, hsame.others]
  rw [KnownTargets.fromContext, KnownTargets.mk.injEq]
  exact ⟨hpackages, rfl⟩

theorem ModelMemoryStore.observeWindow_congr (ops : MomentumOps D) (m : ModelMemoryStore D)
    (hsame : SameButNotifications c c') (hmem : SameInMemory c c')
    (decision : DecisionBackendResult F) (records : List AuditRecord) :
    m.observeWindow ops c decision records = m.observeWindow ops c' decision records := by
  have hpending : ModelMemoryStore.pendingPrewarm c = ModelMemoryStore.pendingPrewarm c' := by
    funext record
    rw [ModelMemoryStore.pendingPrewarm, ModelMemoryStore.pendingPrewarm, hsame.windowId]
  have hregister : ModelMemoryStore.registerPendingPrewarm (D := D) c =
      ModelMemoryStore.registerPendingPrewarm c' := by
    funext m record
    rw [ModelMemoryStore.registerPendingPrewarm, ModelMemoryStore.registerPendingPrewarm, hpending]
  have hfeedback : ModelMemoryStore.feedback c decision records =
      ModelMemoryStore.feedback c' decision records := by
    simp only [ModelMemoryStore.feedback, hsame.windowId, hsame.windowStartMs, hsame.windowEndMs,
      hsame.foregroundApps, hmem.notifiedApps, hmem.allSemanticHints]
  have hcount : ∀ m : ModelMemoryStore D, m.countWindow ops c = m.countWindow ops c' := by
    intro m
    simp only [ModelMemoryStore.countWindow, hsame.windowId, hsame.foregroundApps,
      hmem.notifiedApps, hmem.allSemanticHints]
  simp only [ModelMemoryStore.observeWindow, hregister, hfeedback, hcount, hsame.foregroundApps]

end

namespace Pipeline
variable {deps : Deps D F}

theorem audit_congr [LT F] [DecidableLT F] {toLowercase : String → String}
    {c c' : StructuredContext}
    (hc : Collected toLowercase c) (hc' : Collected toLowercase c')
    (hsame : SameButNotifications c c') (hmem : SameInMemory c c') (world : WindowWorld F)
    (windowOrdinal : UInt32) (decision : DecisionBackendResult F) :
    audit deps world windowOrdinal decision c = audit deps world windowOrdinal decision c' := by
  simp only [audit, ActionLifecycle.run, PolicyEngine.evaluateBatchWithContext,
    fromContext_congr hc hc' hsame hmem, hsame.sourceTier]

variable [OfScientific F]

theorem evaluate_gated {s : PipelineState D} {x : ClosedWindow F} (h : gated deps s x = true)
    (memory : ModelMemoryStore D) :
    evaluate deps x.world s.circuit memory x.context =
      { result := DecisionRouter.injectTag
          (RuleBasedBackend.evaluate x.world.ruleBased x.context)
          (RoutingReason.privacySensitive (DecisionRouter.computePrivacyScore x.context)).tag
        circuit := s.circuit.recordSuccess
        cloudInputs := [] } := by
  have heval := DecisionRouter.evaluateModelInput_privacySensitive
    (memory.modelInput deps.ops x.context) h
  simp only [backends, DecisionRouter.withRuntimeUser_currentContext] at heval
  exact heval

/-- Two runs see the same windows and the same world, except that windows gated in both may
differ in their notifications. -/
def SameButGated (toLowercase : String → String) (deps : Deps D F) (s t : PipelineState D)
    (x y : ClosedWindow F) : Prop :=
  x.world = y.world ∧
    (x.context = y.context ∨
      gated deps s x = true ∧ gated deps t y = true ∧
      Collected toLowercase x.context ∧ Collected toLowercase y.context ∧
      SameButNotifications x.context y.context)

variable [LT F] [DecidableLT F]

theorem processWindow_congr {toLowercase : String → String} {s : PipelineState D}
    {x y : ClosedWindow F} (h : SameButGated toLowercase deps s s x y)
    (hmem : SameInMemory x.context y.context) :
    processWindow deps s x = processWindow deps s y := by
  obtain ⟨c, world⟩ := x
  obtain ⟨c', world'⟩ := y
  obtain ⟨rfl, hctx | ⟨hx, hy, hc, hc', hsame⟩⟩ := h
  · obtain rfl := hctx
    rfl
  · have hanswer : RuleBasedBackend.evaluate (F := F) world.ruleBased c =
        RuleBasedBackend.evaluate world.ruleBased c' :=
      RuleBasedBackend.evaluate_congr _ hsame.windowId hsame.windowEndMs hsame.others
        hmem.notifiedApps (by rw [hc.mem_hints, hc'.mem_hints, hmem.allSemanticHints])
    simp only at hc hc' hsame hmem
    have heval : ∀ memory : ModelMemoryStore D, evaluate deps world s.circuit memory c =
        evaluate deps world s.circuit memory c' := by
      intro memory
      rw [evaluate_gated hx, evaluate_gated hy, hanswer, hmem.privacyScore]
    simp only [processWindow, heval, audit_congr hc hc' hsame hmem,
      ModelMemoryStore.observeWindow_congr deps.ops _ hsame hmem]

/-- Two runs that differ only behind the gate, and there in nothing the memory keeps, hand
the same model inputs to the cloud and the same snapshots to the summarizer. -/
theorem gate_noninterference (toLowercase : String → String) (deps : Deps D F)
    (s : PipelineState D) (xs ys : List (ClosedWindow F))
    (h : (machine deps).Along₂ (fun s t x y => SameButGated toLowercase deps s t x y ∧
      SameInMemory x.context y.context) s s xs ys) :
    ((machine deps).run s xs).2 = ((machine deps).run s ys).2 := by
  refine (Machine.run_noninterference (R := Eq) ?_ rfl h).2
  rintro s t x y rfl ⟨hok, hmem⟩
  have hstep := processWindow_congr hok hmem
  exact ⟨congrArg Prod.fst hstep, congrArg Prod.snd hstep⟩

end Pipeline

namespace GateSample
open Pipeline

def message (package : String) (category : Option String) (hints : List SemanticHint) :
    SanitizedEvent :=
  PrivacyAirGap.sanitizeWithTier id "event"
    (.notificationPosted
      ⟨0, package, category, none, "", "", none, none, hints, false, none, false⟩) .publicApi

def context (windowId : String) (nowMs : Int) (events : List SanitizedEvent) :
    StructuredContext :=
  WindowAggregator.context ⟨events, 10, 0⟩ nowMs ⟨windowId, .id⟩

theorem context_collected (windowId : String) (nowMs : Int)
    (messages : List (String × Option String × List SemanticHint)) :
    Collected id (context windowId nowMs (messages.map fun m => message m.1 m.2.1 m.2.2)) := by
  refine ⟨fun e he => ?_, ⟨.id, rfl⟩⟩
  obtain ⟨m, -, rfl⟩ := List.mem_map.mp he
  exact ⟨_, _, _, rfl⟩

def world : WindowWorld ℚ where
  clock := ⟨0, 0, 0⟩
  ruleBased := ⟨toString, 0⟩
  fallback := ⟨toString, 0⟩
  localEvaluator input :=
    ⟨.localEvaluator, ⟨input.currentContext.windowId, [], 0, "local"⟩, [], 0, none⟩
  cloudLlm input := ⟨.cloudLlm, ⟨input.currentContext.windowId, [], 0, "cloud"⟩, [], 0, none⟩
  adapter := ActionLifecycle.unavailable
  statusBefore _ := .running
  statusAfter _ := .running

def deps : Deps ℚ ℚ := ⟨rationalMomentum, ⟨{}, none⟩, true, .default⟩

def start : PipelineState ℚ := ⟨0, .withConfig {}, ⟨[]⟩, none⟩

def codes (package : String) (category : Option String) : ClosedWindow ℚ where
  context := context "w1" 10000
    ([(package, category, [.verificationCode, .financialContext]),
      (package, category, [.verificationCode, .financialContext])].map fun m =>
        message m.1 m.2.1 m.2.2)
  world := world

def chat : ClosedWindow ℚ where
  context := context "w2" 20000 [message "com.chat" none [.audioMessage, .calendarInvitation]]
  world := world

def recentlyNotifying : Disclosure → List (List String)
  | .toCloud input => input.recentFeedback.map RecentDecisionRecord.notifiedApps
  | .toSummarizer snapshot => snapshot.recent.map RecentDecisionRecord.notifiedApps

end GateSample

open GateSample in
theorem Pipeline.gate_noninterference_codes :
    ((machine deps).run start [codes "com.bank" none, chat]).2.length = 1 ∧
    ((machine deps).run start [codes "com.bank" none, chat]).2 =
      ((machine deps).run start [codes "com.bank" (some "msg"), chat]).2 :=
  ⟨by decide +kernel,
    gate_noninterference id deps start _ _
      ⟨⟨⟨rfl, .inr ⟨by decide +kernel, by decide +kernel, context_collected _ _ _,
          context_collected _ _ _, ⟨rfl, rfl, rfl, rfl, by decide +kernel, by decide +kernel,
            by decide +kernel, by decide +kernel, by decide +kernel⟩⟩⟩,
          ⟨by decide +kernel, by decide +kernel, by decide +kernel⟩⟩,
        ⟨⟨rfl, .inl rfl⟩, ⟨rfl, rfl, rfl⟩⟩, trivial⟩⟩

open GateSample in
/-- The app that sent the codes shows in the recent feedback of a later cloud input. -/
theorem Pipeline.gate_interference_codes :
    (machine deps).Along₂ (SameButGated id deps) start start
      [codes "com.bank" none, chat] [codes "com.mail" none, chat] ∧
    ((machine deps).run start [codes "com.bank" none, chat]).2 ≠
      ((machine deps).run start [codes "com.mail" none, chat]).2 := by
  refine ⟨⟨⟨rfl, .inr ⟨by decide +kernel, by decide +kernel, context_collected _ _ _,
    context_collected _ _ _, ⟨rfl, rfl, rfl, rfl, by decide +kernel, by decide +kernel,
      by decide +kernel, by decide +kernel, by decide +kernel⟩⟩⟩, ⟨rfl, .inl rfl⟩, trivial⟩,
    fun h => ?_⟩
  have htold := congrArg (List.map recentlyNotifying) h
  revert htold
  decide +kernel

end Dipecs.Daemon
