import Dipecs.Cli.Replay

/-! What drawn identifiers and latencies cannot change: events, contexts, intents and audit
records without their identifiers determine every canonical record. -/

namespace Dipecs.Cli

open Dipecs.Spec Dipecs.Core Dipecs.Agent Dipecs.Library

namespace Replay

def anonEvent (e : SanitizedEvent) : SanitizedEvent := { e with eventId := "" }

def anonContext (c : StructuredContext) : StructuredContext :=
  { c with windowId := "", events := c.events.map anonEvent }

def anonRecord (r : AuditRecord) : AuditRecord := { r with intentId := "" }

section
variable {F : Type}

def anonIntent (i : Intent F) : Intent F := { i with intentId := "" }

theorem drawIds_anon (draw : BackendDraw) (drafts : List (Intent F)) :
    (drawIds draw drafts).map anonIntent = drafts.map anonIntent :=
  map_drawIds (fun _ _ => rfl) draw drafts

theorem drawIds_rationaleTags (draw : BackendDraw) (drafts : List (Intent F)) :
    (drawIds draw drafts).flatMap Intent.rationaleTags =
      drafts.flatMap Intent.rationaleTags := by
  have htags : (drawIds draw drafts).map Intent.rationaleTags = drafts.map Intent.rationaleTags :=
    map_drawIds (fun _ _ => rfl) draw drafts
  rw [List.flatMap_def, htags, List.flatMap_def]

def anonBatch (b : IntentBatch F) : IntentBatch F :=
  { b with windowId := "", intents := b.intents.map anonIntent }

def anonDecision (d : DecisionBackendResult F) : DecisionBackendResult F :=
  { d with intentBatch := anonBatch d.intentBatch, latencyUs := 0 }

end

/-! ### Backends -/

section
variable (c : StructuredContext)

theorem determineRoute_anon {F : Type} (router : DecisionRouter) (backends : Backends F)
    (clock : Clock) (circuit : CircuitState) :
    router.determineRoute backends clock circuit (anonContext c) =
      router.determineRoute backends clock circuit c := by
  have hscore : DecisionRouter.computePrivacyScore (anonContext c) =
      DecisionRouter.computePrivacyScore c := by
    simp only [DecisionRouter.computePrivacyScore, anonContext, List.map_map]
    rfl
  have hlocal : DecisionRouter.hasLocalActionableSignal (anonContext c) =
      DecisionRouter.hasLocalActionableSignal c := by
    simp only [DecisionRouter.hasLocalActionableSignal, anonContext, List.any_map]
    rfl
  have hunique : DecisionRouter.countUniqueSemanticHintTypes (anonContext c) =
      DecisionRouter.countUniqueSemanticHintTypes c := by
    simp only [DecisionRouter.countUniqueSemanticHintTypes, anonContext, List.flatMap_map]
    rfl
  simp only [DecisionRouter.determineRoute, hscore, hlocal, hunique]

theorem ruleBased_signals_anon :
    (anonContext c).events.foldl RuleBasedBackend.scan RuleBasedBackend.noSignals =
      c.events.foldl RuleBasedBackend.scan RuleBasedBackend.noSignals := by
  simp only [anonContext, List.foldl_map]
  rfl

theorem fromContext_anon :
    KnownTargets.fromContext (anonContext c) = KnownTargets.fromContext c := by
  simp only [KnownTargets.fromContext, anonContext, List.flatMap_map]
  rfl

theorem windowSignals_anon :
    LocalEvaluator.WindowSignals.fromContext (anonContext c) =
      LocalEvaluator.WindowSignals.fromContext c := by
  simp only [LocalEvaluator.WindowSignals.fromContext, anonContext, List.foldl_map]
  rfl

theorem windowAggregation_anon (profile : Option UserBehaviorProfile)
    (feedback : List RecentDecisionRecord) :
    LocalEvaluator.WindowAggregation.fromContext (anonContext c) profile feedback =
      LocalEvaluator.WindowAggregation.fromContext c profile feedback := by
  simp only [LocalEvaluator.WindowAggregation.fromContext, anonContext, List.foldl_map]
  rfl

variable {F : Type} [LinearOrder F] [Add F] [Sub F] [Neg F] [OfScientific F]

theorem localEvaluator_drafts_anon (order order' : Reordering (LocalEvaluator.IntentCandidate F))
    (profile : Option UserBehaviorProfile) (feedback : List RecentDecisionRecord) :
    LocalEvaluator.drafts order (anonContext c) profile feedback =
      LocalEvaluator.drafts order' c profile feedback := by
  have hcandidates : ∀ a signals, (anonContext c).events.filterMap
      (LocalEvaluator.candidateOf (F := F) a signals) =
        c.events.filterMap (LocalEvaluator.candidateOf a signals) := by
    intro a signals
    simp only [anonContext, List.filterMap_map]
    rfl
  simp only [LocalEvaluator.drafts, windowSignals_anon, windowAggregation_anon, hcandidates,
    LocalEvaluator.finalizeCandidates_order order, LocalEvaluator.finalizeCandidates_order order']

end

section
variable {F : Type} [OfScientific F] {c c' : StructuredContext}

theorem ruleBased_anon (h : anonContext c = anonContext c') (draw draw' : BackendDraw) :
    anonDecision (F := F) (RuleBasedBackend.evaluate draw c) =
      anonDecision (RuleBasedBackend.evaluate draw' c') := by
  have hsignals : c.events.foldl RuleBasedBackend.scan RuleBasedBackend.noSignals =
      c'.events.foldl RuleBasedBackend.scan RuleBasedBackend.noSignals := by
    rw [← ruleBased_signals_anon, ← ruleBased_signals_anon c', h]
  have hsummary : (anonContext c).summary = (anonContext c').summary := by rw [h]
  have hend : (anonContext c).windowEndMs = (anonContext c').windowEndMs := by rw [h]
  simp only [anonContext] at hsummary hend
  simp only [anonDecision, anonBatch, RuleBasedBackend.evaluate, RuleBasedBackend.generateIntents,
    drawIds_anon, drawIds_rationaleTags, hsignals, hsummary, hend]

theorem fallback_anon (h : anonContext c = anonContext c') (draw draw' : BackendDraw) :
    anonDecision (F := F) (FallbackNoOpBackend.evaluate draw c) =
      anonDecision (FallbackNoOpBackend.evaluate draw' c') := by
  have hend : (anonContext c).windowEndMs = (anonContext c').windowEndMs := by rw [h]
  simp only [anonContext] at hend
  simp only [anonDecision, anonBatch, FallbackNoOpBackend.evaluate, drawIds_anon, hend]

omit [OfScientific F] in
theorem injectTag_anon (d : DecisionBackendResult F) (tag : String) :
    anonDecision (DecisionRouter.injectTag d tag) =
      DecisionRouter.injectTag (anonDecision d) tag := by
  have htags : (anonDecision d).rationaleTags = d.rationaleTags := rfl
  rw [DecisionRouter.injectTag, DecisionRouter.injectTag, htags]
  split <;> rfl

variable [LinearOrder F] [Add F] [Sub F] [Neg F]

theorem localEvaluator_anon (h : anonContext c = anonContext c') (draw draw' : BackendDraw)
    (order order' : Reordering (LocalEvaluator.IntentCandidate F))
    (profile : Option UserBehaviorProfile) (feedback : List RecentDecisionRecord) :
    anonDecision (LocalEvaluator.evaluateInput draw order c profile feedback) =
      anonDecision (LocalEvaluator.evaluateInput draw' order' c' profile feedback) := by
  have hdrafts : LocalEvaluator.drafts order c profile feedback =
      LocalEvaluator.drafts order' c' profile feedback := by
    rw [← localEvaluator_drafts_anon c order order, h, localEvaluator_drafts_anon c' order order']
  have hend : (anonContext c).windowEndMs = (anonContext c').windowEndMs := by rw [h]
  simp only [anonContext] at hend
  simp only [anonDecision, anonBatch, LocalEvaluator.evaluateInput, drawIds_anon,
    drawIds_rationaleTags, hdrafts, hend]

theorem withRuntimeUser_currentOnly (router : DecisionRouter) :
    ∃ profile, ∀ c, router.withRuntimeUser (currentOnly c) = ⟨c, profile, []⟩ := by
  refine ⟨⟨router.runtimeUserId, "", 0, [], [], [], [], [], [], none⟩, fun c => ?_⟩
  obtain ⟨config, runtimeUserId⟩ := router
  cases runtimeUserId <;> rfl

theorem dispatch_anon (h : anonContext c = anonContext c') (draw draw' : ReplayDraw F)
    (profile : UserBehaviorProfile) (route : DecisionRoute) :
    let answer := DecisionRouter.dispatch (backends draw) route ⟨c, profile, []⟩
    let answer' := DecisionRouter.dispatch (backends draw') route ⟨c', profile, []⟩
    anonDecision answer.1 = anonDecision answer'.1 ∧ answer.2 = false ∧ answer'.2 = false := by
  cases route with
  | ruleBased => exact ⟨ruleBased_anon h _ _, rfl, rfl⟩
  | localEvaluator => exact ⟨localEvaluator_anon h _ _ _ _ _ _, rfl, rfl⟩
  | cloudLlm => exact ⟨ruleBased_anon h _ _, rfl, rfl⟩
  | fallbackNoOp => exact ⟨fallback_anon h _ _, rfl, rfl⟩
  | mock => exact ⟨ruleBased_anon h _ _, rfl, rfl⟩

theorem evaluate_anon (cfg : ReplayConfig) (h : anonContext c = anonContext c')
    (draw draw' : ReplayDraw F) :
    anonDecision (evaluate cfg draw ⟨[]⟩ c).result =
        anonDecision (evaluate cfg draw' ⟨[]⟩ c').result ∧
      (evaluate cfg draw ⟨[]⟩ c).circuit = ⟨[]⟩ ∧ (evaluate cfg draw' ⟨[]⟩ c').circuit = ⟨[]⟩ := by
  obtain ⟨profile, hprofile⟩ := withRuntimeUser_currentOnly ⟨{}, cfg.runtimeUserId⟩
  have hroute : DecisionRouter.determineRoute ⟨{}, cfg.runtimeUserId⟩ (backends draw) draw.clock
      ⟨[]⟩ c = DecisionRouter.determineRoute ⟨{}, cfg.runtimeUserId⟩ (backends draw') draw'.clock
      ⟨[]⟩ c' := by
    rw [← determineRoute_anon c, h, determineRoute_anon c']
    rfl
  simp only [evaluate, DecisionRouter.evaluateModelInput, hprofile, hroute, injectTag_anon]
  obtain ⟨hresult, hok, hok'⟩ := dispatch_anon h draw draw' profile
    (DecisionRouter.determineRoute ⟨{}, cfg.runtimeUserId⟩ (backends draw') draw'.clock ⟨[]⟩ c').1
  rw [hresult, hok, hok']
  exact ⟨rfl, rfl, rfl⟩

end

/-! ### Governance -/

section
variable {F : Type}

def anonSlot (x : ActionLifecycle.Slot F) : ActionLifecycle.Slot F :=
  { x with intent := anonIntent x.intent }

theorem slots_anon (batch : IntentBatch F) :
    ActionLifecycle.slots (anonBatch batch) = (ActionLifecycle.slots batch).map anonSlot := by
  simp only [ActionLifecycle.slots, anonBatch, List.zipIdx_map, List.flatMap_map, List.map_flatMap,
    List.map_map]
  rfl

/-- An offline run of one action: the adapter's answer does not depend on earlier calls. -/
def offlineSlot (p : ActionLifecycle.Params) (decisions : List PolicyActionDecision)
    (x : ActionLifecycle.Slot F) : List AuditRecord :=
  (ActionLifecycle.runSlot OfflineAdapter.adapter p decisions [] x).2

theorem runSlot_offline (p : ActionLifecycle.Params) (decisions : List PolicyActionDecision)
    (calls : List AuthorizedAction) (x : ActionLifecycle.Slot F) :
    (ActionLifecycle.runSlot OfflineAdapter.adapter p decisions calls x).2 =
      offlineSlot p decisions x := by
  simp only [offlineSlot, ActionLifecycle.runSlot, OfflineAdapter.adapter, OfflineAdapter.execute]
  split
  · rfl
  · split
    · split <;> rfl
    · rfl

theorem offlineSlot_anon (p : ActionLifecycle.Params) (decisions : List PolicyActionDecision)
    (x : ActionLifecycle.Slot F) :
    (offlineSlot p decisions (anonSlot x)).map anonRecord =
      (offlineSlot p decisions x).map anonRecord := by
  have hschema : ActionLifecycle.validateSchema
      ((anonSlot x).proposal p.windowOrdinal p.authorizedAtMs) (anonSlot x).intent.riskLevel =
        ActionLifecycle.validateSchema (x.proposal p.windowOrdinal p.authorizedAtMs)
          x.intent.riskLevel := rfl
  have hdecision : ActionLifecycle.decisionsByCoord decisions (anonSlot x).key =
      ActionLifecycle.decisionsByCoord decisions x.key := rfl
  simp only [offlineSlot, ActionLifecycle.runSlot, hschema, hdecision, OfflineAdapter.adapter,
    OfflineAdapter.execute]
  split
  · rfl
  · split
    · split <;> rfl
    · rfl

variable [LT F] [DecidableLT F] {c c' : StructuredContext}

theorem evaluateBatchWithContext_anon (cfg : PolicyConfig F) (batch : IntentBatch F)
    (capability : CapabilityLevel) (c : StructuredContext) :
    PolicyEngine.evaluateBatchWithContext cfg (anonBatch batch) capability (anonContext c) =
      PolicyEngine.evaluateBatchWithContext cfg batch capability c := by
  simp only [PolicyEngine.evaluateBatchWithContext, PolicyEngine.evaluateIntents, anonBatch,
    fromContext_anon, List.zipIdx_map, List.flatMap_map]
  rfl

theorem run_offline_anon (policy : PolicyConfig F) (windowOrdinal : UInt32)
    (batch : IntentBatch F) (route : DecisionRoute) (backendError : Option String)
    (capability : CapabilityLevel) (c : StructuredContext) :
    (ActionLifecycle.run policy OfflineAdapter.adapter windowOrdinal (anonBatch batch) route
        backendError capability (anonContext c)).2.map anonRecord =
      (ActionLifecycle.run policy OfflineAdapter.adapter windowOrdinal batch route backendError
        capability c).2.map anonRecord := by
  simp only [ActionLifecycle.run, evaluateBatchWithContext_anon]
  rw [Machine.run_stateless _ (runSlot_offline _ _), Machine.run_stateless _ (runSlot_offline _ _),
    slots_anon, List.flatMap_map, List.map_flatMap, List.map_flatMap]
  exact List.flatMap_congr fun x _ => offlineSlot_anon _ _ x

end

section
variable {F : Type} [LinearOrder F] [OfScientific F]

theorem policyDecisions_anon (d : DecisionBackendResult F) (c : StructuredContext) :
    policyDecisions (anonDecision d) (anonContext c) = policyDecisions d c :=
  evaluateBatchWithContext_anon _ _ _ _

theorem audit_anon (windowOrdinal : UInt32) (d : DecisionBackendResult F) (c : StructuredContext) :
    (audit windowOrdinal (anonDecision d) (anonContext c)).map anonRecord =
      (audit windowOrdinal d c).map anonRecord :=
  run_offline_anon _ _ _ _ _ _ _

end

/-! ### Records -/

theorem event_toJson_anon (e : SanitizedEvent) :
    canonicalize (anonEvent e).toJson = canonicalize e.toJson :=
  canonicalize_obj_congr (canonicalizeFields_cons_volatile (by decide) rfl)

theorem record_toJson_anon (r : AuditRecord) :
    canonicalize (anonRecord r).toJson = canonicalize r.toJson :=
  canonicalize_obj_congr (canonicalizeFields_cons_congr rfl
    (canonicalizeFields_cons_volatile (by decide) rfl))

theorem sanitizeRecord_anon (lineNo : UInt64) (e : SanitizedEvent) :
    canonicalize (sanitizeRecord lineNo (anonEvent e)) =
      canonicalize (sanitizeRecord lineNo e) := by
  refine canonicalize_obj_congr (canonicalizeFields_cons_congr rfl
    (canonicalizeFields_cons_congr rfl (canonicalizeFields_cons_congr ?_ rfl)))
  exact event_toJson_anon e

theorem contextRecord_anon (c : StructuredContext) :
    canonicalize (contextRecord (anonContext c)) = canonicalize (contextRecord c) := by
  have hlength : (anonContext c).events.length = c.events.length := by
    rw [anonContext, List.length_map]
  refine canonicalize_obj_congr (canonicalizeFields_cons_congr rfl
    (canonicalizeFields_cons_volatile (by decide) ?_))
  rw [hlength]
  rfl

section
variable {F : Type}

theorem intents_length_anon (d : DecisionBackendResult F) :
    (anonDecision d).intentBatch.intents.length = d.intentBatch.intents.length := by
  rw [anonDecision, anonBatch, List.length_map]

theorem decisionRecord_anon (c : StructuredContext) (d : DecisionBackendResult F) :
    canonicalize (decisionRecord (anonContext c) (anonDecision d)) =
      canonicalize (decisionRecord c d) := by
  refine canonicalize_obj_congr (canonicalizeFields_cons_congr rfl
    (canonicalizeFields_cons_volatile (by decide) ?_))
  rw [intents_length_anon]
  rfl

theorem executedPolicyRecord_anon (c : StructuredContext) (windowOrdinal : UInt32)
    (d : DecisionBackendResult F) (records : List AuditRecord) :
    canonicalize (executedPolicyRecord (anonContext c) windowOrdinal (anonDecision d)
        (records.map anonRecord)) =
      canonicalize (executedPolicyRecord c windowOrdinal d records) := by
  have hrecords : canonicalize (.arr ((records.map anonRecord).map AuditRecord.toJson)) =
      canonicalize (.arr (records.map AuditRecord.toJson)) := by
    rw [canonicalize_arr, canonicalize_arr, List.map_map, List.map_map, List.map_map]
    exact congrArg Json.arr (List.map_congr_left fun r _ => record_toJson_anon r)
  refine canonicalize_obj_congr (canonicalizeFields_cons_congr rfl
    (canonicalizeFields_cons_volatile (by decide) ?_))
  rw [intents_length_anon]
  exact canonicalizeFields_cons_congr rfl (canonicalizeFields_cons_congr rfl
    (canonicalizeFields_cons_congr hrecords rfl))

theorem executeRecord_anon (c : StructuredContext) (windowOrdinal : UInt32) (r : AuditRecord) :
    canonicalize (executeRecord (anonContext c) windowOrdinal (anonRecord r)) =
      canonicalize (executeRecord c windowOrdinal r) :=
  canonicalize_obj_congr (canonicalizeFields_cons_congr rfl
    (canonicalizeFields_cons_volatile (by decide) (canonicalizeFields_cons_congr rfl
      (canonicalizeFields_cons_congr rfl (canonicalizeFields_cons_volatile (by decide) rfl)))))

theorem policyRecord_anon (c : StructuredContext) (windowOrdinal : UInt32) (i : Intent F)
    (decisions : List PolicyActionDecision) :
    canonicalize (policyRecord (anonContext c) windowOrdinal (anonIntent i) decisions) =
      canonicalize (policyRecord c windowOrdinal i decisions) :=
  canonicalize_obj_congr (canonicalizeFields_cons_congr rfl
    (canonicalizeFields_cons_volatile (by decide) (canonicalizeFields_cons_congr rfl
      (canonicalizeFields_cons_volatile (by decide) rfl))))

end

/-! ### Windows -/

section
variable {F : Type} [LinearOrder F] [OfScientific F]

theorem executeWindow_anon (windowOrdinal : UInt32) (c : StructuredContext)
    (d : DecisionBackendResult F) (summary : ReplaySummary) :
    let records := (audit windowOrdinal (anonDecision d) (anonContext c)).map anonRecord
    (executeWindow windowOrdinal c d summary).2.map canonicalize =
      canonicalize (executedPolicyRecord (anonContext c) windowOrdinal (anonDecision d) records) ::
        records.map fun r => canonicalize (executeRecord (anonContext c) windowOrdinal r) := by
  intro records
  have hrecords : records = (audit windowOrdinal d c).map anonRecord :=
    audit_anon windowOrdinal d c
  simp only [executeWindow, List.map_cons, hrecords, executedPolicyRecord_anon, List.map_map,
    Function.comp_def, executeRecord_anon]

theorem policyWindow_anon (windowOrdinal : UInt32) (c : StructuredContext)
    (d : DecisionBackendResult F) (summary : ReplaySummary) :
    (policyWindow windowOrdinal c d summary).2.map canonicalize =
      (decided (anonDecision d) (anonContext c)).map fun x =>
        canonicalize (policyRecord (anonContext c) windowOrdinal x.1 x.2) := by
  have hdecided : decided (anonDecision d) (anonContext c) =
      (decided d c).map fun x => (anonIntent x.1, x.2) := by
    simp only [decided, policyDecisions_anon]
    simp only [anonDecision, anonBatch, List.zipIdx_map, List.map_map]
    rfl
  simp only [policyWindow, hdecided, List.map_map, Function.comp_def, policyRecord_anon]

theorem governWindow_congr {c c' : StructuredContext} {d d' : DecisionBackendResult F}
    (hc : anonContext c = anonContext c') (hd : anonDecision d = anonDecision d')
    {windowOrdinal windowOrdinal' : UInt32} (hordinal : windowOrdinal = windowOrdinal')
    (stage : Stage) (summary summary' : ReplaySummary) :
    (governWindow stage windowOrdinal c d summary).2.map canonicalize =
      (governWindow stage windowOrdinal' c' d' summary').2.map canonicalize := by
  subst hordinal
  unfold governWindow
  split
  · rfl
  · split
    · rw [executeWindow_anon, executeWindow_anon, hc, hd]
    · rw [policyWindow_anon, policyWindow_anon, hc, hd]

end

end Replay

end Dipecs.Cli
