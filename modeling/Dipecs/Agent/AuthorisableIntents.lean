import Dipecs.Agent.CompositeLocalEvaluator
import Dipecs.Agent.Predictive.RankingOrder
import Dipecs.Core.PolicyEngine

/-! What the local backends emit, the default policy engine approves: each backend keeps to the
action types of its route, and to targets that its window makes known. -/

namespace Dipecs.Agent

open Dipecs.Spec Dipecs.Core Dipecs.Library

/-! ### Actions the engine has nothing against -/

structure Permitted (capability : CapabilityLevel) (known : KnownTargets)
    (action : SuggestedAction) : Prop where
  notDeferred : action.urgency ≠ .deferred
  withinCapability : action.actionType ∈ capability.allowedActions
  targetPasses : checkTarget action.actionType action.target known = none

section
variable {F : Type}

structure PermittedIntent (capability : CapabilityLevel) (known : KnownTargets)
    (intent : Intent F) : Prop where
  risk : intent.riskLevel = .low
  few : intent.suggestedActions.length ≤ 5
  actions : ∀ action ∈ intent.suggestedActions, Permitted capability known action

abbrev PermittedOn (route : DecisionRoute) (context : StructuredContext) (intent : Intent F) :
    Prop :=
  PermittedIntent (CapabilityLevel.forRoute route) (KnownTargets.fromContext context) intent

def approvedAll (intent : Intent F) (intentOrdinal : UInt32) : List PolicyActionDecision :=
  (List.range intent.suggestedActions.length).map fun ordinal =>
    ⟨intentOrdinal, UInt32.ofNat ordinal, .approved⟩

theorem denyAction_eq_none [OfScientific F] {capability : CapabilityLevel} {known : KnownTargets}
    {action : SuggestedAction} (h : Permitted capability known action) {n : Nat} (hn : n < 5) :
    PolicyEngine.denyAction (F := F) .default capability (some known) n action = none := by
  have hcap : ¬n ≥ 5 := by omega
  have hallows : capability.allowsAction action.actionType = true :=
    List.contains_iff_mem.mpr h.withinCapability
  simp [PolicyEngine.denyAction, PolicyConfig.default, hcap, h.notDeferred, hallows,
    h.targetPasses]

theorem evaluateActions_permitted [OfScientific F] {capability : CapabilityLevel}
    {known : KnownTargets} {actions : List SuggestedAction}
    (h : ∀ action ∈ actions, Permitted capability known action) (i : UInt32) (n o : Nat)
    (hfew : n + actions.length ≤ 5) :
    PolicyEngine.evaluateActions (F := F) .default capability (some known) i n o actions =
      (List.range' o actions.length).map fun ordinal =>
        ⟨i, UInt32.ofNat ordinal, .approved⟩ := by
  induction actions generalizing n o with
  | nil => rfl
  | cons action rest ih =>
    rw [List.length_cons] at hfew
    have hdeny : PolicyEngine.denyAction (F := F) .default capability (some known) n action =
        none := denyAction_eq_none (h action List.mem_cons_self) (by omega)
    rw [PolicyEngine.evaluateActions, hdeny]
    dsimp only
    rw [ih (fun action' hmem => h action' (List.mem_cons_of_mem action hmem)) (n + 1) (o + 1)
      (by omega), List.length_cons, List.range'_succ, List.map_cons]

section
variable [OfScientific F] [LT F] [DecidableLT F]

theorem evaluateIntent_permitted {capability : CapabilityLevel} {known : KnownTargets}
    {intent : Intent F} (h : PermittedIntent capability known intent) (i : UInt32) :
    PolicyEngine.evaluateIntent .default intent i capability (some known) =
      if intent.confidence < PolicyConfig.default.minConfidence then
        PolicyEngine.deniedAll intent i .confidenceTooLow
      else approvedAll intent i := by
  have hrisk : capability.allowsRisk intent.riskLevel = true := by
    rw [h.risk]
    exact decide_eq_true (Nat.zero_le _)
  have hauto : ¬intent.riskLevel.toNat > (PolicyConfig.default (F := F)).maxAutoRisk.toNat := by
    rw [h.risk]
    exact Nat.lt_irrefl _
  rw [PolicyEngine.evaluateIntent, hrisk, if_neg (by simp), if_neg hauto,
    evaluateActions_permitted h.actions i 0 0 (by rw [Nat.zero_add]; exact h.few),
    ← List.range_eq_range']
  rfl

/-- The verdicts of the default engine on a result: all approved, but for intents it finds too
unsure. -/
def Authorisable (result : DecisionBackendResult F) (context : StructuredContext) : Prop :=
  PolicyEngine.evaluateBatchWithContext .default result.intentBatch
      (CapabilityLevel.forRoute result.route) context =
    result.intentBatch.intents.zipIdx.flatMap fun (intent, ordinal) =>
      if intent.confidence < PolicyConfig.default.minConfidence then
        PolicyEngine.deniedAll intent (UInt32.ofNat ordinal) .confidenceTooLow
      else approvedAll intent (UInt32.ofNat ordinal)

theorem Authorisable.of_permitted {result : DecisionBackendResult F} {context : StructuredContext}
    (h : ∀ intent ∈ result.intentBatch.intents, PermittedOn result.route context intent) :
    Authorisable result context := by
  refine List.flatMap_congr fun x hx => ?_
  exact evaluateIntent_permitted (h x.1 (List.fst_mem_of_mem_zipIdx hx)) _

end

theorem permitted_of_mem_drawIds {capability : CapabilityLevel} {known : KnownTargets}
    {draw : BackendDraw} {drafts : List (Intent F)}
    (h : ∀ intent ∈ drafts, PermittedIntent capability known intent) {intent : Intent F}
    (hmem : intent ∈ drawIds draw drafts) : PermittedIntent capability known intent := by
  obtain ⟨x, hx, rfl⟩ := List.mem_map.mp hmem
  have hdraft := h x.1 (List.fst_mem_of_mem_zipIdx hx)
  exact ⟨hdraft.risk, hdraft.few, hdraft.actions⟩

theorem permitted_draft {capability : CapabilityLevel} {known : KnownTargets}
    {action : SuggestedAction} (h : Permitted capability known action) (intentType : IntentType)
    (confidence : F) (tag : String) :
    PermittedIntent capability known (draft intentType confidence action tag) :=
  ⟨rfl, by simp [draft], fun action' hmem => List.mem_singleton.mp hmem ▸ h⟩

end

/-! ### Targets that a window makes known -/

/-- A package name that no target prefix can be part of. -/
def PlainName (package : String) : Prop := package ≠ "" ∧ ':' ∉ package.toList

instance (package : String) : Decidable (PlainName package) :=
  inferInstanceAs (Decidable (package ≠ "" ∧ ':' ∉ package.toList))

structure Shown (known : KnownTargets) (package : String) : Prop where
  plain : PlainName package
  mem : package ∈ known.packages

section
variable {known : KnownTargets} {capability : CapabilityLevel}

theorem Shown.checkTarget {package : String} (h : Shown known package) {action : ActionType}
    (haction : action = .keepAlive ∨ action = .releaseMemory) :
    Core.checkTarget action (some package) known = none := by
  have hprefix : Text.stripPrefix "pkg:" package = none := by
    rw [Text.stripPrefix_eq_none, ← Bool.not_eq_true, Text.startsWith_iff]
    rintro ⟨t, rfl⟩
    exact h.plain.2 (by simp)
  have hallowed : isAllowedLowRiskTarget action package known = true := by
    rw [isAllowedLowRiskTarget, hprefix]
    simp [h.mem]
  have hne : (package == "") = false := beq_eq_false_iff_ne.mpr h.plain.1
  rcases haction with rfl | rfl <;> simp [Core.checkTarget, hne, hallowed]

theorem Shown.permitted {package : String} (h : Shown known package) {action : ActionType}
    (haction : action = .keepAlive ∨ action = .releaseMemory)
    (hallowed : action ∈ capability.allowedActions) {urgency : ActionUrgency}
    (hurgency : urgency ≠ .deferred) :
    Permitted capability known ⟨action, some package, urgency⟩ :=
  ⟨hurgency, hallowed, h.checkTarget haction⟩

theorem permitted_noOp (h : .noOp ∈ capability.allowedActions) :
    Permitted capability known ⟨.noOp, none, .idleTime⟩ :=
  ⟨by decide, h, rfl⟩

theorem permitted_heartbeat (h : .keepAlive ∈ capability.allowedActions) {urgency : ActionUrgency}
    (hurgency : urgency ≠ .deferred) :
    Permitted capability known ⟨.keepAlive, some "work:collector_heartbeat", urgency⟩ :=
  ⟨hurgency, h, rfl⟩

theorem permitted_releaseCache (h : .releaseMemory ∈ capability.allowedActions) :
    Permitted capability known ⟨.releaseMemory, some "cache:prefetch", .immediate⟩ :=
  ⟨by decide, h, rfl⟩

theorem permitted_prewarm {package : String} (hmem : package ∈ known.packages)
    (h : .preWarmProcess ∈ capability.allowedActions) :
    Permitted capability known ⟨.preWarmProcess, some ("pkg:" ++ package), .immediate⟩ := by
  refine ⟨by simp, h, ?_⟩
  have hallowed : isAllowedPrewarmTarget ("pkg:" ++ package) known = true := by
    simp [isAllowedPrewarmTarget, hmem]
  simp [checkTarget, hallowed]

theorem permitted_prewarmOwn (h : .preWarmProcess ∈ capability.allowedActions) :
    Permitted capability known ⟨.preWarmProcess, some "own:resources", .immediate⟩ :=
  ⟨by decide, h, rfl⟩

theorem permitted_prefetch (url : String) (h : .prefetchFile ∈ capability.allowedActions) :
    Permitted capability known ⟨.prefetchFile, some ("url:" ++ url), .idleTime⟩ := by
  refine ⟨by simp, h, ?_⟩
  have hurl : Text.startsWith "url:" ("url:" ++ url) = true :=
    Text.startsWith_iff.mpr ⟨url, rfl⟩
  have hallowed : isAllowedLowRiskTarget .prefetchFile ("url:" ++ url) known = true := by
    simp [isAllowedLowRiskTarget, hurl]
  have hne : ("url:" ++ url == "") = false := by
    rw [beq_eq_false_iff_ne, ne_eq, ← String.toList_inj]
    simp
  simp [checkTarget, hne, hallowed]

end

/-- A context whose packages are known to the engine, each by a plain name. -/
structure ShowsPackages (context : StructuredContext) : Prop where
  event : ∀ e ∈ context.events, ∀ package ∈ KnownTargets.eventPackages e,
    Shown (KnownTargets.fromContext context) package
  notified : ∀ package ∈ context.summary.notifiedApps,
    Shown (KnownTargets.fromContext context) package
  notifies : ∀ e ∈ context.events, ∀ package, e.notifiedBy = some package →
    package ∈ context.summary.notifiedApps

theorem mem_eventPackages_of_notifiedBy {e : SanitizedEvent} {package : String}
    (h : e.notifiedBy = some package) : package ∈ KnownTargets.eventPackages e := by
  unfold SanitizedEvent.notifiedBy at h
  unfold KnownTargets.eventPackages
  split at h
  · rename_i heq
    rw [heq]
    simpa using .inr (Option.some.inj h).symm
  · cases h

theorem mem_eventPackages_of_openedBy {e : SanitizedEvent} {package : String}
    (h : e.openedBy = some package) : package ∈ KnownTargets.eventPackages e := by
  unfold SanitizedEvent.openedBy at h
  unfold KnownTargets.eventPackages
  split at h
  · rename_i heq
    rw [heq]
    simpa using .inr (Option.some.inj h).symm
  · cases h

theorem mem_eventPackages_of_pressure {e : SanitizedEvent} {rss : UInt32} {package : String}
    (h : RuleBasedBackend.pressure e = some (rss, some package)) :
    package ∈ KnownTargets.eventPackages e := by
  unfold RuleBasedBackend.pressure at h
  unfold KnownTargets.eventPackages
  split at h
  · rename_i heq
    obtain ⟨-, h⟩ := Option.ite_none_right_eq_some.mp h
    rw [heq, (Prod.mk.inj (Option.some.inj h)).2]
    simp
  · cases h

theorem mem_packages_of_event {context : StructuredContext} {e : SanitizedEvent}
    (he : e ∈ context.events) {package : String} (h : package ∈ KnownTargets.eventPackages e) :
    package ∈ (KnownTargets.fromContext context).packages := by
  refine List.mem_toFinset.mpr (List.mem_append_right _ ?_)
  exact List.mem_flatMap.mpr ⟨e, he, h⟩

theorem showsPackages_of_close {w : WindowAggregator}
    (hnames : ∀ e ∈ w.buffer, ∀ package ∈ KnownTargets.eventPackages e, PlainName package)
    {nowMs : Int} {draw : WindowDraw} {context : StructuredContext}
    (hclose : (w.close nowMs draw).1 = some context) : ShowsPackages context := by
  have hcontext : context = w.context nowMs draw := by
    rw [WindowAggregator.close_fst] at hclose
    split at hclose
    · cases hclose
    · exact (Option.some.inj hclose).symm
  have hevent : ∀ e ∈ context.events, ∀ package ∈ KnownTargets.eventPackages e,
      Shown (KnownTargets.fromContext context) package := by
    intro e he package hmem
    have hbuffer : e ∈ w.buffer := by
      rw [hcontext] at he
      exact he
    exact ⟨hnames e hbuffer package hmem, mem_packages_of_event he hmem⟩
  have hnotified : ∀ package, package ∈ context.summary.notifiedApps ↔
      ∃ e ∈ context.events, e.notifiedBy = some package := by
    intro package
    rw [hcontext]
    exact ContextBuilder.mem_notifiedApps
  refine ⟨hevent, fun package hmem => ?_, fun e he package h => ?_⟩
  · obtain ⟨e, he, h⟩ := (hnotified package).mp hmem
    exact hevent e he package (mem_eventPackages_of_notifiedBy h)
  · exact (hnotified package).mpr ⟨e, he, h⟩

/-! ### The rules -/

namespace RuleBasedBackend

structure SignalsShown (context : StructuredContext) (s : Signals) : Prop where
  fileMention : s.hasFileMention = true → context.summary.notifiedApps ≠ []
  foreground : ∀ package ∈ s.observedForegroundApps,
    Shown (KnownTargets.fromContext context) package
  pressure : ∀ rss package, s.memoryPressure = some (rss, some package) →
    Shown (KnownTargets.fromContext context) package

theorem worse_cases (worst : Option (UInt32 × Option String)) (heavy : UInt32 × Option String) :
    worse worst heavy = worst ∨ worse worst heavy = some heavy := by
  unfold worse
  split
  · exact .inr rfl
  · split
    · exact .inr rfl
    · exact .inl rfl

theorem SignalsShown.scan {context : StructuredContext} (hcontext : ShowsPackages context)
    {s : Signals} (h : SignalsShown context s) {e : SanitizedEvent} (he : e ∈ context.events) :
    SignalsShown context (scan s e) := by
  have hevent := hcontext.event e he
  rw [scan_eq]
  refine ⟨fun hmention => ?_, fun package hmem => ?_, fun rss package hpressure => ?_⟩
  · rcases Bool.or_eq_true_iff.mp hmention with hbefore | hhint
    · exact h.fileMention hbefore
    · intro hnil
      have hnotifies : e.isNotification = true := by
        by_contra hother
        rw [SanitizedEvent.hints_of_not_isNotification (Bool.eq_false_of_not_eq_true hother)]
          at hhint
        exact absurd (of_decide_eq_true hhint) List.not_mem_nil
      obtain ⟨package, hpackage⟩ := Option.isSome_iff_exists.mp hnotifies
      have hmem := hcontext.notifies e he package hpackage
      rw [hnil] at hmem
      exact List.not_mem_nil hmem
  · dsimp only at hmem
    cases hopened : e.openedBy with
    | none =>
      rw [hopened] at hmem
      exact h.foreground package hmem
    | some opened =>
      rw [hopened] at hmem
      rcases ContextBuilder.mem_pushNew.mp hmem with hmem | rfl
      · exact h.foreground package hmem
      · exact hevent package (mem_eventPackages_of_openedBy hopened)
  · dsimp only at hpressure
    cases hheavy : RuleBasedBackend.pressure e with
    | none =>
      rw [hheavy] at hpressure
      exact h.pressure rss package hpressure
    | some heavy =>
      rw [hheavy] at hpressure
      rcases worse_cases s.memoryPressure heavy with heq | heq
      · exact h.pressure rss package (heq ▸ hpressure)
      · obtain rfl : heavy = (rss, some package) := Option.some.inj (heq.symm.trans hpressure)
        exact hevent package (mem_eventPackages_of_pressure hheavy)

theorem signalsShown_foldl {context : StructuredContext} (hcontext : ShowsPackages context) :
    SignalsShown context (context.events.foldl RuleBasedBackend.scan noSignals) := by
  have hfold : ∀ events : List SanitizedEvent, (∀ e ∈ events, e ∈ context.events) → ∀ s,
      SignalsShown context s → SignalsShown context (events.foldl RuleBasedBackend.scan s) := by
    intro events
    induction events with
    | nil => exact fun _ _ h => h
    | cons e events ih =>
      intro hall s h
      rw [List.foldl_cons]
      exact ih (fun e' hmem => hall e' (List.mem_cons_of_mem e hmem)) _
        (h.scan hcontext (hall e List.mem_cons_self))
  refine hfold context.events (fun _ h => h) noSignals ⟨?_, ?_, ?_⟩
  · exact fun h => absurd h (by decide)
  · exact fun _ h => absurd h List.not_mem_nil
  · exact fun _ _ h => absurd h (by simp [noSignals])

section
variable {F : Type} [OfScientific F]

variable {context : StructuredContext} (hcontext : ShowsPackages context) {s : Signals}
  (h : SignalsShown context s)

include hcontext h in
theorem permitted_notificationDrafts :
    ∀ intent ∈ notificationDrafts (F := F) s context.summary.notifiedApps,
      PermittedOn .ruleBased context intent := by
  have hnotified : ∀ app, context.summary.notifiedApps.head? = some app →
      Shown (KnownTargets.fromContext context) app :=
    fun app happ => hcontext.notified app (List.mem_of_head? happ)
  intro intent hmem
  unfold notificationDrafts at hmem
  split at hmem
  · rename_i hfile
    have happ := List.head?_eq_some_head (h.fileMention hfile)
    rw [happ] at hmem
    rw [List.mem_singleton.mp hmem]
    exact permitted_draft ((hnotified _ happ).permitted (.inl rfl) (by decide) (by decide)) ..
  · split at hmem
    · rename_i app happ
      rw [List.mem_singleton.mp hmem]
      exact permitted_draft ((hnotified app happ).permitted (.inl rfl) (by decide) (by decide)) ..
    · exact absurd hmem List.not_mem_nil

include h in
theorem permitted_foregroundDrafts :
    ∀ intent ∈ foregroundDrafts (F := F) s, PermittedOn .ruleBased context intent := by
  intro intent hmem
  unfold foregroundDrafts at hmem
  split at hmem
  · rename_i app happ
    rw [List.mem_singleton.mp hmem]
    exact permitted_draft ((h.foreground app (List.mem_of_head? happ)).permitted (.inl rfl)
      (by decide) (by decide)) ..
  · exact absurd hmem List.not_mem_nil

theorem permitted_screenDrafts (s : Signals) (context : StructuredContext) :
    ∀ intent ∈ screenDrafts (F := F) s, PermittedOn .ruleBased context intent := by
  intro intent hmem
  unfold screenDrafts at hmem
  split at hmem
  · rw [List.mem_singleton.mp hmem]
    exact permitted_draft (permitted_heartbeat (by decide) (by decide)) ..
  · exact absurd hmem List.not_mem_nil

theorem permitted_batteryDrafts (s : Signals) (context : StructuredContext) :
    ∀ intent ∈ batteryDrafts (F := F) s, PermittedOn .ruleBased context intent := by
  intro intent hmem
  unfold batteryDrafts at hmem
  split at hmem
  · rw [List.mem_singleton.mp hmem]
    exact permitted_draft (permitted_releaseCache (by decide)) ..
  · exact absurd hmem List.not_mem_nil

include h in
theorem permitted_pressureDrafts :
    ∀ intent ∈ pressureDrafts (F := F) s, PermittedOn .ruleBased context intent := by
  intro intent hmem
  unfold pressureDrafts at hmem
  split at hmem
  · rename_i rss target hpressure
    rw [List.mem_singleton.mp hmem]
    cases target with
    | none => exact permitted_draft ⟨by decide, by decide, rfl⟩ ..
    | some package =>
      exact permitted_draft ((h.pressure rss package hpressure).permitted (.inr rfl)
        (by decide) (by decide)) ..
  · exact absurd hmem List.not_mem_nil

include hcontext h in
theorem permitted_drafts :
    ∀ intent ∈ drafts (F := F) s context.summary.notifiedApps,
      PermittedOn .ruleBased context intent := by
  intro intent hmem
  unfold drafts at hmem
  dsimp only at hmem
  split at hmem
  · rw [List.mem_singleton.mp hmem]
    exact permitted_draft (permitted_noOp (by decide)) ..
  · simp only [List.mem_append] at hmem
    rcases hmem with (((hmem | hmem) | hmem) | hmem) | hmem
    · exact permitted_notificationDrafts hcontext h intent hmem
    · exact permitted_foregroundDrafts h intent hmem
    · exact permitted_screenDrafts s context intent hmem
    · exact permitted_batteryDrafts s context intent hmem
    · exact permitted_pressureDrafts h intent hmem

include hcontext in
theorem permitted_evaluate (draw : BackendDraw) :
    ∀ intent ∈ (evaluate (F := F) draw context).intentBatch.intents,
      PermittedOn .ruleBased context intent := fun _ hmem =>
  permitted_of_mem_drawIds (permitted_drafts hcontext (signalsShown_foldl hcontext)) hmem

end

end RuleBasedBackend

/-! ### The local evaluator -/

namespace LocalEvaluator

theorem permitted_batteryCandidates {F : Type} [Add F] [Neg F] [OfScientific F]
    {known : KnownTargets} {a : WindowAggregation}
    {signals : WindowSignals} {c : IntentCandidate F} (hc : c ∈ batteryCandidates a signals) :
    c.actions.length ≤ 5 ∧ ∀ action ∈ c.actions,
      Permitted (CapabilityLevel.forRoute .localEvaluator) known action := by
  unfold batteryCandidates at hc
  split at hc
  · rw [List.mem_singleton.mp hc]
    refine ⟨by simp [IntentCandidate.new], fun action hmem => ?_⟩
    rw [List.mem_singleton.mp hmem]
    exact permitted_releaseCache (by decide)
  · exact absurd hc List.not_mem_nil

section
variable {F : Type} [LE F] [DecidableLE F]

theorem actions_of_mem_dedup {candidates : List (IntentCandidate F)} {i : IntentCandidate F}
    (hi : i ∈ dedup candidates) : ∃ c ∈ candidates, i.actions = c.actions := by
  rw [dedup_eq] at hi
  have hmerge : ∀ (group : List (IntentCandidate F)) (b a : IntentCandidate F),
      (∃ c ∈ group, b.actions = c.actions) →
        ∃ c ∈ group ++ [a], (mergeCandidates b a).actions = c.actions := by
    rintro group b a ⟨c, hc, hactions⟩
    unfold mergeCandidates
    split
    · exact ⟨c, List.mem_append_left _ hc, hactions⟩
    · exact ⟨a, List.mem_append_right _ List.mem_cons_self, rfl⟩
  obtain ⟨c, hc, hactions⟩ := mergeByKey_group mergeCandidates_keepsKey
    (R := fun group i => ∃ c ∈ group, i.actions = c.actions)
    (fun a => ⟨a, List.mem_cons_self, rfl⟩) (fun group b a _ => hmerge group b a) candidates i hi
  exact ⟨c, (List.mem_filter.mp hc).1, hactions⟩

variable [LT F] [DecidableLT F]

theorem sublist_of_mem_finalizeCandidates {order : Reordering (IntentCandidate F)}
    {candidates : List (IntentCandidate F)} {signals : WindowSignals} {maxIntents : Nat}
    {i : IntentCandidate F} (hi : i ∈ finalizeCandidates order candidates signals maxIntents) :
    ∃ c ∈ candidates, i.actions.Sublist c.actions := by
  have hmem := (order.perm _).subset (List.mem_mergeSort.mp (List.mem_of_mem_take hi))
  obtain ⟨c, hc, hactions⟩ := actions_of_mem_dedup hmem
  obtain ⟨c', hc', rfl⟩ := List.mem_map.mp (List.mem_filter.mp hc).1
  exact ⟨c', hc', hactions ▸ List.filter_sublist⟩

variable [Min F] [Max F] [Add F] [Sub F] [Neg F] [OfScientific F]

omit [LT F] [DecidableLT F] in
theorem permitted_candidateOf {context : StructuredContext} {a : WindowAggregation}
    {signals : WindowSignals} {e : SanitizedEvent} (he : e ∈ context.events)
    {c : IntentCandidate F} (hc : candidateOf a signals e = some c) :
    c.actions.length ≤ 5 ∧ ∀ action ∈ c.actions,
      Permitted (CapabilityLevel.forRoute .localEvaluator) (KnownTargets.fromContext context)
        action := by
  have hknown : ∀ package ∈ KnownTargets.eventPackages e,
      package ∈ (KnownTargets.fromContext context).packages :=
    fun _ hmem => mem_packages_of_event he hmem
  unfold KnownTargets.eventPackages at hknown
  unfold candidateOf candidateType at hc
  split at hc <;> rename_i htype
  · obtain rfl := Option.some.inj hc
    refine ⟨by simp [fileCandidate, IntentCandidate.new], fun action hmem => ?_⟩
    rw [List.mem_singleton.mp hmem]
    exact permitted_prefetch _ (by decide)
  · split at hc
    · rename_i package _ _ _ _ _ _ _ _
      obtain rfl := Option.some.inj hc
      refine ⟨by simp [notificationCandidate, IntentCandidate.new], fun action hmem => ?_⟩
      rw [List.mem_singleton.mp hmem]
      exact permitted_prewarm (hknown package (by simp [htype])) (by decide)
    · cases hc
  · rename_i package _
    obtain rfl := Option.some.inj hc
    refine ⟨by simp [transitionCandidate, IntentCandidate.new], fun action hmem => ?_⟩
    rcases List.mem_cons.mp hmem with rfl | hmem
    · exact permitted_prewarm (hknown package (by simp [htype])) (by decide)
    · rw [List.mem_singleton.mp hmem]
      exact permitted_heartbeat (by decide) (by decide)
  · obtain rfl := Option.some.inj hc
    refine ⟨by simp [interAppCandidate, IntentCandidate.new], fun action hmem => ?_⟩
    rw [List.mem_singleton.mp hmem]
    exact permitted_prewarmOwn (by decide)
  · obtain rfl := Option.some.inj hc
    refine ⟨by simp [interAppCandidate, IntentCandidate.new], fun action hmem => ?_⟩
    rw [List.mem_singleton.mp hmem]
    exact permitted_prewarmOwn (by decide)
  · cases hc

theorem permitted_drafts (order : Reordering (IntentCandidate F)) (context : StructuredContext)
    (behaviorProfile : Option UserBehaviorProfile) (recentFeedback : List RecentDecisionRecord) :
    ∀ intent ∈ drafts order context behaviorProfile recentFeedback,
      PermittedOn .localEvaluator context intent := by
  intro intent hmem
  unfold drafts at hmem
  dsimp only at hmem
  split at hmem
  · rw [List.mem_singleton.mp hmem]
    exact permitted_draft (permitted_noOp (by decide)) ..
  · obtain ⟨i, hi, rfl⟩ := List.mem_map.mp hmem
    obtain ⟨c, hc, hsub⟩ := sublist_of_mem_finalizeCandidates hi
    have hactions : c.actions.length ≤ 5 ∧ ∀ action ∈ c.actions,
        Permitted (CapabilityLevel.forRoute .localEvaluator) (KnownTargets.fromContext context)
          action := by
      rcases List.mem_append.mp hc with hc | hc
      · obtain ⟨e, he, hce⟩ := List.mem_filterMap.mp hc
        exact permitted_candidateOf he hce
      · exact permitted_batteryCandidates hc
    exact ⟨rfl, hsub.length_le.trans hactions.1,
      fun action haction => hactions.2 action (hsub.subset haction)⟩

theorem permitted_evaluateInput (draw : BackendDraw) (order : Reordering (IntentCandidate F))
    (context : StructuredContext) (behaviorProfile : Option UserBehaviorProfile)
    (recentFeedback : List RecentDecisionRecord) :
    ∀ intent ∈ (evaluateInput draw order context behaviorProfile
        recentFeedback).intentBatch.intents, PermittedOn .localEvaluator context intent :=
  fun _ hmem =>
    permitted_of_mem_drawIds (permitted_drafts order context behaviorProfile recentFeedback) hmem

end

end LocalEvaluator

/-! ### The predictive backend -/

namespace Predictive

theorem knownPackages_eq (context : StructuredContext) :
    knownPackages context = (KnownTargets.fromContext context).packages := rfl

section
variable {F : Type} [OfScientific F] [LT F] [DecidableLT F]

theorem permitted_predictionToIntent (context : StructuredContext) (prediction : AppScore F) :
    PermittedOn .localEvaluator context
      (predictionToIntent (knownPackages context) prediction) := by
  refine ⟨rfl, ?_, ?_⟩
  all_goals unfold predictionToIntent
  · dsimp only
    split <;> simp
  · intro action hmem
    dsimp only at hmem
    split at hmem <;> rename_i hknown <;> rw [List.mem_singleton.mp hmem]
    · rw [knownPackages_eq] at hknown
      exact permitted_prewarm hknown (by decide)
    · exact permitted_heartbeat (by decide) (by decide)

theorem permitted_predictiveDrafts (context : StructuredContext)
    (predictions : List (AppScore F)) :
    ∀ intent ∈ predictiveDrafts (knownPackages context) predictions,
      PermittedOn .localEvaluator context intent := by
  intro intent hmem
  unfold predictiveDrafts at hmem
  dsimp only at hmem
  split at hmem
  · rw [List.mem_singleton.mp hmem]
    exact permitted_draft (permitted_noOp (by decide)) ..
  · obtain ⟨prediction, -, rfl⟩ := List.mem_map.mp hmem
    exact permitted_predictionToIntent context prediction

end

section
variable {F : Type} [Add F] [Sub F] [Mul F] [Div F] [Neg F] [NatCast F] [OfScientific F]
  [LE F] [LT F] [DecidableLE F] [DecidableLT F]

theorem permitted_evaluateModelInput {m : ScoreMath F} {p : NextAppPredictor F}
    (h : Built m p) (draw : BackendDraw) (input : ModelInput) :
    Yields m.Stops (fun result => result.route = .localEvaluator ∧
        ∀ intent ∈ result.intentBatch.intents,
          PermittedOn .localEvaluator input.currentContext intent)
      (PredictiveLocalBackend.evaluateModelInput m p draw input) :=
  (h.wellFormed_rank (featuresFromModelInput input) .ensemble maxBackendIntents).bind
    fun _ _ => ⟨rfl, fun _ hmem =>
      permitted_of_mem_drawIds (permitted_predictiveDrafts _ _) hmem⟩

end

end Predictive

/-! ### All of them -/

section
variable {F : Type} [LE F] [LT F] [DecidableLE F] [DecidableLT F] [Add F] [Sub F] [Mul F] [Div F]
  [Neg F] [NatCast F] [OfScientific F] {m : Predictive.ScoreMath F}
  {p : Predictive.NextAppPredictor F}

theorem authorisable_predictive (h : Predictive.Built m p) (draw : BackendDraw)
    (input : ModelInput) :
    Yields m.Stops (fun result => Authorisable result input.currentContext)
      (Predictive.PredictiveLocalBackend.evaluateModelInput m p draw input) :=
  (Predictive.permitted_evaluateModelInput h draw input).imp fun _ ⟨hroute, hpermitted⟩ =>
    .of_permitted (hroute ▸ hpermitted)

variable [Min F] [Max F]

theorem authorisable_composite (h : Predictive.Built m p) (draw draw' : BackendDraw)
    (order : Reordering (LocalEvaluator.IntentCandidate F)) (input : ModelInput) :
    Yields m.Stops (fun result => Authorisable result input.currentContext)
      (CompositeLocalEvaluatorBackend.evaluateModelInput m p draw draw' order input) := by
  refine (Predictive.permitted_evaluateModelInput h draw' input).bind
    fun predictive ⟨_, hpermitted⟩ => .of_permitted fun intent hmem => ?_
  rcases CompositeLocalEvaluatorBackend.mem_of_mem_mergeIntents hmem with hmem | hmem
  · exact LocalEvaluator.permitted_evaluateInput draw order _ _ _ intent hmem
  · exact hpermitted intent hmem

/-- Every local backend keeps to what the default engine approves on its route, whatever a score
may be.  Where a model ranks, only a sort can keep the backend from answering. -/
theorem localBackends_authorisable {w : WindowAggregator}
    (hnames : ∀ e ∈ w.buffer, ∀ package ∈ KnownTargets.eventPackages e, PlainName package)
    {nowMs : Int} {windowDraw : WindowDraw} {context : StructuredContext}
    (hclose : (w.close nowMs windowDraw).1 = some context)
    {a : Predictive.NextAppModelArtifact F}
    (hmodel : Predictive.NextAppPredictor.new m a = .ok p)
    (draw draw' : BackendDraw) (order : Reordering (LocalEvaluator.IntentCandidate F))
    (behaviorProfile : UserBehaviorProfile) (recentFeedback : List RecentDecisionRecord) :
    Authorisable (RuleBasedBackend.evaluate (F := F) draw context) context ∧
      (∀ behaviorProfile : Option UserBehaviorProfile,
        Authorisable (LocalEvaluator.evaluateInput draw order context behaviorProfile
          recentFeedback) context) ∧
      Yields m.Stops (fun result => Authorisable result context)
        (Predictive.PredictiveLocalBackend.evaluateModelInput m p draw
          ⟨context, behaviorProfile, recentFeedback⟩) ∧
      Yields m.Stops (fun result => Authorisable result context)
        (CompositeLocalEvaluatorBackend.evaluateModelInput m p draw draw' order
          ⟨context, behaviorProfile, recentFeedback⟩) ∧
      Authorisable (FallbackNoOpBackend.evaluate (F := F) draw context) context := by
  have hcontext := showsPackages_of_close hnames hclose
  have hbuilt := (Predictive.NextAppPredictor.built_of_new hmodel).1
  refine ⟨.of_permitted (RuleBasedBackend.permitted_evaluate hcontext draw), fun profile =>
    .of_permitted (LocalEvaluator.permitted_evaluateInput draw order context profile
      recentFeedback),
    authorisable_predictive hbuilt draw ⟨context, behaviorProfile, recentFeedback⟩,
    authorisable_composite hbuilt draw draw' order ⟨context, behaviorProfile, recentFeedback⟩, ?_⟩
  refine .of_permitted fun intent hmem => permitted_of_mem_drawIds ?_ hmem
  have hnoOp : .noOp ∈ (CapabilityLevel.forRoute .fallbackNoOp).allowedActions := by decide
  intro intent hmem
  rw [List.mem_singleton.mp hmem]
  exact permitted_draft (permitted_noOp hnoOp) ..

end

def chatWindow : WindowAggregator :=
  ⟨[⟨"e1", 1000, .appTransition "chat" none .foreground, .publicApi, some "chat", none⟩],
    60, 0⟩

def chatContext : StructuredContext := chatWindow.context 60000 ⟨"w1", .id⟩

theorem localBackends_authorisable_chat :
    ∃ result, CompositeLocalEvaluatorBackend.evaluateModelInput
        Predictive.ratMath
        ⟨Predictive.twoAppArtifact, Predictive.appIndexOf Predictive.twoAppArtifact.appVocab⟩
        ⟨fun _ => "i", 3⟩ ⟨fun _ => "j", 4⟩ .id
        ⟨chatContext, ⟨some "u", "", 1, [("chat", 2)], [], [], [], [], [], none⟩, []⟩ =
          .ok result ∧
      Authorisable result chatContext :=
  (localBackends_authorisable (w := chatWindow) (by decide) rfl
    (a := Predictive.twoAppArtifact) rfl ⟨fun _ => "i", 3⟩ ⟨fun _ => "j", 4⟩ .id
    ⟨some "u", "", 1, [("chat", 2)], [], [], [], [], [], none⟩ []).2.2.2.1.exists_ok
    Predictive.ratMath.not_stops

end Dipecs.Agent
