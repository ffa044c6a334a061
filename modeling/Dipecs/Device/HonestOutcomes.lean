import Dipecs.Action.AndroidAdapter
import Dipecs.Agent.RuleBased
import Dipecs.Device.TargetGate

/-! What the device refuses and what the audit record says about it: the executors of
keep-alive and memory release may refuse a target and still report success. -/

namespace Dipecs.Device

open Dipecs.Spec Dipecs.Core Dipecs.Action Dipecs.Library

def dispatchAction (p : Platform) (action : SuggestedAction) : Execution :=
  ActionExecutorBridge.dispatch p action.actionType.debug action.target

def respond (elapsedUs : UInt64) (result : ActionResult) : BridgeExecuteResponse :=
  if result.success then ⟨.ok, some result.summary, some elapsedUs, none⟩
  else ⟨.error, some result.summary, some elapsedUs, result.error⟩

def isRefusal : Effect → Bool
  | .recordInternal eventType =>
    eventType == "keep_alive_rejected" || eventType == "release_memory_rejected"
  | _ => false

def refuses (p : Platform) (action : SuggestedAction) : Bool :=
  (dispatchAction p action).effects.any isRefusal

def IsUpkeep (action : SuggestedAction) : Prop :=
  action.actionType = .keepAlive ∨ action.actionType = .releaseMemory

def normalizedTarget (default : String) (target : Option String) : String :=
  ifBlank default ((target.map trim).getD "")

/-- A target the device knows, or an attempt that fails altogether. -/
def Owned (p : Platform) (action : SuggestedAction) : Prop :=
  if action.actionType = .keepAlive then
    ActionMaintenanceScheduler.isAllowedTarget
        (normalizedTarget "work:collector_heartbeat" action.target) = true ∨
      p.oomAdjustable = false ∧ p.cgroupPinnable = false
  else
    let target := normalizedTarget "cache:prefetch" action.target
    target ∈ ["cache:prefetch", "cache:volatile", "cache:all", "page"] ∨
      Text.startsWith "pkg:" target = true

/-- What is refused is not reported as done. -/
def Honest (p : Platform) (action : SuggestedAction) : Prop :=
  refuses p action = true → (dispatchAction p action).result.success = false

/-! ### One action -/

section
variable {p : Platform}

theorem schedule_refuses (target : Option String) :
    (ActionMaintenanceScheduler.schedule p target).1.any isRefusal =
      !ActionMaintenanceScheduler.isAllowedTarget
        (normalizedTarget "work:collector_heartbeat" target) := by
  simp only [ActionMaintenanceScheduler.schedule, normalizedTarget]
  cases ActionMaintenanceScheduler.isAllowedTarget
      (ifBlank "work:collector_heartbeat" ((target.map trim).getD "")) with
  | false => rfl
  | true =>
    cases p.schedules with
    | none => rfl
    | some scheduled => cases scheduled <;> rfl

theorem normalizedTarget_heartbeat (target : Option String) :
    normalizedTarget "work:collector_heartbeat" (some (target.getD "work:collector_heartbeat")) =
      normalizedTarget "work:collector_heartbeat" target := by
  cases target with
  | none => decide +kernel
  | some target => rfl

theorem keepAlive_honest_iff {action : SuggestedAction} (h : action.actionType = .keepAlive) :
    Honest p action ↔ Owned p action := by
  have hdispatch : dispatchAction p action =
      SystemActionExecutors.keepAlive p (action.target.getD "work:collector_heartbeat") := by
    rw [dispatchAction, h]
    rfl
  have hrefuses : refuses p action = !ActionMaintenanceScheduler.isAllowedTarget
      (normalizedTarget "work:collector_heartbeat" action.target) := by
    rw [refuses, hdispatch, ← normalizedTarget_heartbeat, ← schedule_refuses (p := p)]
    simp only [SystemActionExecutors.keepAlive, List.any_append, List.any_cons, List.any_nil]
    cases p.oomAdjustable <;> cases p.cgroupPinnable <;> simp [isRefusal]
  have hsuccess : (dispatchAction p action).result.success =
      (p.oomAdjustable || p.cgroupPinnable) := by
    rw [hdispatch]
    rfl
  rw [Honest, hrefuses, hsuccess, Owned, if_pos h, Bool.not_eq_true', Bool.or_eq_false_iff]
  cases ActionMaintenanceScheduler.isAllowedTarget
    (normalizedTarget "work:collector_heartbeat" action.target) <;> simp

theorem release_refuses (target : Option String) :
    (CacheTrimmer.release p target).1.any isRefusal = true ↔
      normalizedTarget "cache:prefetch" target ∉
        ["cache:prefetch", "cache:volatile", "cache:all"] := by
  simp only [CacheTrimmer.release, normalizedTarget]
  generalize ifBlank "cache:prefetch" ((target.map trim).getD "") = t
  by_cases h1 : t = "cache:prefetch"
  · simp [h1, isRefusal]
  · by_cases h2 : t = "cache:volatile"
    · simp [h2, isRefusal]
    · by_cases h3 : t = "cache:all" <;> simp [h1, h2, h3, isRefusal]

theorem releaseParts_of_not_owned {target : Option String} {t : String}
    (h : t ∉ ["cache:prefetch", "cache:volatile", "cache:all", "page"])
    (hpkg : Text.startsWith "pkg:" t = false) :
    SystemActionExecutors.releaseParts p target t =
      ((CacheTrimmer.release p target).1,
        ["app_cache:" ++ toString (CacheTrimmer.release p target).2], none) := by
  simp only [List.mem_cons, List.not_mem_nil, or_false, not_or] at h
  obtain ⟨h1, h2, h3, h4⟩ := h
  simp [SystemActionExecutors.releaseParts, h1, h2, h3, h4, hpkg]

theorem clearAppCachesSystem_not_refuses (packages : List String) :
    (SystemActionExecutors.clearAppCachesSystem p packages).1.any isRefusal = false := by
  simp only [SystemActionExecutors.clearAppCachesSystem, List.any_append, Bool.or_eq_false_iff]
  constructor
  · simp [isRefusal]
  · split
    · rfl
    · decide

theorem releaseParts_not_refuses {target : Option String} {t : String}
    (h : t ∈ ["cache:prefetch", "cache:volatile", "cache:all", "page"] ∨
      Text.startsWith "pkg:" t = true) :
    (SystemActionExecutors.releaseParts p target t).1.any isRefusal = false := by
  by_cases h1 : t = "cache:prefetch"
  · simp [SystemActionExecutors.releaseParts, h1, isRefusal]
  by_cases h2 : t = "cache:volatile"
  · simp [SystemActionExecutors.releaseParts, h2, isRefusal]
  by_cases h3 : t = "cache:all"
  · simp only [SystemActionExecutors.releaseParts, h3]
    cases p.installed with
    | error message => simp [isRefusal]
    | ok packages =>
      have hclear := clearAppCachesSystem_not_refuses (p := p) packages
      simpa [isRefusal] using hclear
  by_cases h4 : Text.startsWith "pkg:" t = true
  · simp only [SystemActionExecutors.releaseParts, beq_eq_false_iff_ne.mpr h1,
      beq_eq_false_iff_ne.mpr h2, beq_eq_false_iff_ne.mpr h3, h4]
    cases p.pmClear (Text.removePrefix "pkg:" t) <;> simp [isRefusal]
  · have hpage : t = "page" := by simpa [h1, h2, h3, h4] using h
    simp only [SystemActionExecutors.releaseParts, hpage]
    cases p.dropCaches <;> simp [isRefusal, Text.startsWith]

theorem releaseMemory_honest_iff {action : SuggestedAction}
    (h : action.actionType = .releaseMemory) : Honest p action ↔ Owned p action := by
  have hdispatch : dispatchAction p action =
      SystemActionExecutors.releaseMemory p action.target := by
    rw [dispatchAction, h]
    rfl
  have hkeep : action.actionType ≠ .keepAlive := by simp [h]
  have hrefuses : refuses p action = (SystemActionExecutors.releaseParts p action.target
      (normalizedTarget "cache:prefetch" action.target)).1.any isRefusal := by
    rw [refuses, hdispatch]
    simp [SystemActionExecutors.releaseMemory, normalizedTarget, isRefusal]
  have hsuccess : (dispatchAction p action).result.success =
      (SystemActionExecutors.releaseParts p action.target
        (normalizedTarget "cache:prefetch" action.target)).2.2.isNone := by
    rw [hdispatch]
    rfl
  rw [Honest, hrefuses, hsuccess, Owned, if_neg hkeep]
  constructor
  · intro hhonest
    by_contra hforeign
    simp only [not_or, Bool.not_eq_true] at hforeign
    rw [releaseParts_of_not_owned hforeign.1 hforeign.2] at hhonest
    have hrefused := (release_refuses (p := p) action.target).mpr fun hmem =>
      hforeign.1 (List.mem_of_mem_dropLast (l := ["cache:prefetch", "cache:volatile", "cache:all",
        "page"]) hmem)
    exact absurd (hhonest hrefused) (by simp)
  · intro howned hrefused
    rw [releaseParts_not_refuses howned] at hrefused
    cases hrefused

theorem honest_iff {action : SuggestedAction} (h : IsUpkeep action) :
    Honest p action ↔ Owned p action :=
  h.elim keepAlive_honest_iff releaseMemory_honest_iff

end

/-! ### From the device back into the audit record -/

def Executes (host : AndroidAdapter.Host) (p : Platform) (authorized : AuthorizedAction) : Prop :=
  ∃ elapsedUs, (AndroidAdapter.request host authorized).bind host.exchange =
    .ok (respond elapsedUs (dispatchAction p authorized.action).result)

section
variable {F : Type} (world : List AuthorizedAction → AuthorizedAction → AndroidAdapter.Host)
  (p : ActionLifecycle.Params) (decisions : List PolicyActionDecision)

def sealed (x : ActionLifecycle.Slot F) : AuthorizedAction :=
  .seal (x.proposal p.windowOrdinal p.authorizedAtMs) p.authorizedAtMs

/-- A refusal of the device comes back as a failure at every level. -/
def HonestStep (calls : List AuthorizedAction) (x : ActionLifecycle.Slot F) : Prop :=
  ActionLifecycle.dispatches decisions x = true → IsUpkeep x.action →
    ∀ platform, Executes (world calls (sealed p x)) platform (sealed p x) →
      refuses platform x.action = true →
        (dispatchAction platform x.action).result.success = false ∧
        (∃ err, (AndroidAdapter.adapter world).execute calls (sealed p x) = .error err) ∧
        ∃ r, (ActionLifecycle.runSlot (AndroidAdapter.adapter world) p decisions calls x).2 = [r] ∧
          r.terminal = .failed

def OwnedStep (calls : List AuthorizedAction) (x : ActionLifecycle.Slot F) : Prop :=
  ActionLifecycle.dispatches decisions x = true → IsUpkeep x.action →
    ∀ platform, Executes (world calls (sealed p x)) platform (sealed p x) →
      Owned platform x.action

variable {world p decisions} {calls : List AuthorizedAction} {x : ActionLifecycle.Slot F}

theorem execute_isError {platform : Platform} (hupkeep : IsUpkeep x.action)
    (hexec : Executes (world calls (sealed p x)) platform (sealed p x))
    (hfailed : (dispatchAction platform x.action).result.success = false) :
    ∃ err, (AndroidAdapter.adapter world).execute calls (sealed p x) = .error err := by
  obtain ⟨elapsedUs, hanswer⟩ := hexec
  have hforward : AndroidAdapter.execute (world calls (sealed p x)) (sealed p x) =
      AndroidAdapter.forward (world calls (sealed p x)) (sealed p x) := by
    have haction : (sealed p x).action = x.action := rfl
    rcases hupkeep with h | h <;> simp only [AndroidAdapter.execute, AndroidAdapter.classify,
      haction, h]
  change ∃ err, AndroidAdapter.execute (world calls (sealed p x)) (sealed p x) = .error err
  rw [hforward, AndroidAdapter.forward, hanswer]
  refine AndroidAdapter.ofResponse_isError ?_
  have haction : (sealed p x).action = x.action := rfl
  rw [haction, respond, hfailed]
  simp

theorem runSlot_failed (hdispatched : ActionLifecycle.dispatches decisions x = true)
    {err : AdapterError}
    (herr : (AndroidAdapter.adapter world).execute calls (sealed p x) = .error err) :
    ∃ r, (ActionLifecycle.runSlot (AndroidAdapter.adapter world) p decisions calls x).2 = [r] ∧
      r.terminal = .failed := by
  simp only [ActionLifecycle.dispatches, Bool.and_eq_true, Option.any_eq_true] at hdispatched
  obtain ⟨hvalid, d, hd, hverdict⟩ := hdispatched
  rw [← ActionLifecycle.validateSchema_isNone x p.windowOrdinal p.authorizedAtMs,
    Option.isNone_iff_eq_none] at hvalid
  simp only [ActionLifecycle.runSlot, hvalid, hd, of_decide_eq_true hverdict]
  rw [show AuthorizedAction.seal (x.proposal p.windowOrdinal p.authorizedAtMs)
    p.authorizedAtMs = sealed p x from rfl, herr]
  exact ⟨_, rfl, rfl⟩

theorem honestStep_iff :
    HonestStep world p decisions calls x ↔ OwnedStep world p decisions calls x := by
  refine forall_congr' fun hdispatched => forall_congr' fun hupkeep =>
    forall_congr' fun platform => forall_congr' fun hexec => ?_
  rw [← honest_iff hupkeep]
  constructor
  · intro hstep hrefused
    exact (hstep hrefused).1
  · intro hhonest hrefused
    have hfailed := hhonest hrefused
    obtain ⟨err, herr⟩ := execute_isError hupkeep hexec hfailed
    exact ⟨hfailed, ⟨err, herr⟩, runSlot_failed hdispatched herr⟩

end

/-- Refusals are reported exactly where the device knows the target, or fails at everything
it is allowed to try: for one action, and along every run over the device. -/
theorem deviceOutcomes_honest_iff {F : Type} [LT F] [DecidableLT F] :
    (∀ p action, IsUpkeep action → (Honest p action ↔ Owned p action)) ∧
    ∀ world (policy : PolicyConfig F) windowOrdinal (batch : IntentBatch F) route backendError
      capability (ctx : StructuredContext),
      let p : ActionLifecycle.Params :=
        ⟨windowOrdinal, route, backendError, ctx.summary.sourceTier, batch.generatedAtMs⟩
      let decisions := PolicyEngine.evaluateBatchWithContext policy batch capability ctx
      let run := ActionLifecycle.machine (AndroidAdapter.adapter world) p decisions
      run.Along (HonestStep world p decisions) [] (ActionLifecycle.slots batch) ↔
        run.Along (OwnedStep world p decisions) [] (ActionLifecycle.slots batch) := by
  refine ⟨fun p action => honest_iff, ?_⟩
  intro world policy windowOrdinal batch route backendError capability ctx p decisions run
  exact run.along_congr fun calls x => honestStep_iff

namespace HonestSample

def message : SanitizedEvent where
  eventId := "e"
  timestampMs := 0
  eventType := .notification "com.chat" none none ⟨5, .latin, false⟩ ⟨0, .unknown, false⟩ []
    false none
  sourceTier := .publicApi
  appPackage := some "com.chat"
  uid := none

def context : StructuredContext := WindowAggregator.context ⟨[message], 10, 0⟩ 10000 ⟨"w", .id⟩

def batch : IntentBatch ℚ := (Agent.RuleBasedBackend.evaluate ⟨toString, 0⟩ context).intentBatch

def host (authorized : AuthorizedAction) : AndroidAdapter.Host where
  authKey := some "key"
  toJson authorized := .ok (authorized.action.actionType.debug)
  issuedAtMs := .ok (.wrap 1000)
  hmac _ message := message
  exchange _ := .ok (respond 0 (dispatchAction phone authorized.action).result)

end HonestSample

open HonestSample in
/-- The rules keep a notifying app alive, the policy agrees, the device refuses, and the
record says that it succeeded. -/
theorem deviceOutcomes_refusal_succeeds :
    let run := ActionLifecycle.run PolicyConfig.default (AndroidAdapter.adapter fun _ => host) 0
      batch .ruleBased none (CapabilityLevel.forRoute .ruleBased) context
    run.2.map (fun r => (r.actionType, r.target, r.terminal)) =
      [(.keepAlive, some "com.chat", .succeeded)] ∧
    ∀ authorized ∈ run.1, Executes (host authorized) phone authorized ∧
      refuses phone authorized.action = true ∧
      (dispatchAction phone authorized.action).result.success = true := by
  intro run
  have hrecords : run.2.map (fun r => (r.actionType, r.target, r.terminal)) =
      [(.keepAlive, some "com.chat", .succeeded)] := by decide +kernel
  have hcalls : ∀ authorized ∈ run.1, refuses phone authorized.action = true ∧
      (dispatchAction phone authorized.action).result.success = true := by decide +kernel
  exact ⟨hrecords, fun authorized hmem => ⟨⟨0, rfl⟩, hcalls authorized hmem⟩⟩

end Dipecs.Device
