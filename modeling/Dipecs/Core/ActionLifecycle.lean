import Dipecs.Core.PolicyEngine
import Dipecs.Library.Keyed
import Dipecs.Library.Machine

/-! The action lifecycle: every suggested action of a batch becomes a proposal, is
checked, and ends in exactly one audit record. -/

namespace Dipecs.Core

open Dipecs.Spec Dipecs.Library

variable {F : Type}

inductive LifecycleError
  | missingPolicyDecision (coord : ActionCoord)
  | schemaViolation (msg : String)

def ActionCoord.debug (c : ActionCoord) : String :=
  s!"ActionCoord \x7b window_ordinal: {c.windowOrdinal}, intent_ordinal: {c.intentOrdinal}, action_ordinal: {c.actionOrdinal} \x7d"

def LifecycleError.display : LifecycleError → String
  | .missingPolicyDecision coord =>
    "internal: missing policy decision for coord " ++ ActionCoord.debug coord
  | .schemaViolation msg => "schema violation: " ++ msg

/-- An adapter may answer every call as it likes: its answer can depend on all the
calls before. -/
structure ActionAdapter where
  execute : List AuthorizedAction → AuthorizedAction → Except AdapterError ActionOutcome

def ActionAdapter.answers (adapter : ActionAdapter) (calls : List AuthorizedAction) :
    List (Except AdapterError ActionOutcome) :=
  calls.zipIdx.map fun x => adapter.execute (calls.take x.2) x.1

theorem ActionAdapter.answers_concat (adapter : ActionAdapter) (calls : List AuthorizedAction)
    (call : AuthorizedAction) :
    adapter.answers (calls ++ [call]) = adapter.answers calls ++ [adapter.execute calls call] := by
  rw [answers, List.zipIdx_append, List.map_append, answers]
  refine congrArg₂ (· ++ ·) (List.map_congr_left fun y hy => ?_) ?_
  · have hk := (List.getElem?_eq_some_iff.mp (List.mem_zipIdx_iff_getElem?.mp hy)).1
    rw [List.take_append_of_le_length hk.le]
  · simp

namespace ActionLifecycle

def validateSchema (proposal : ActionProposal) (intentRisk : RiskLevel) :
    Option LifecycleError :=
  if proposal.action.actionType == .preWarmProcess &&
      (proposal.action.target == none || proposal.action.target == some "") then
    some (.schemaViolation "PreWarmProcess requires a non-empty target")
  else if proposal.effect == .pureRead && intentRisk == .high then
    some (.schemaViolation "PureRead action cannot carry High risk intent")
  else none

def denialToTerminal : DenialReason → ActionState
  | .riskExceedsCapability | .actionCapabilityDenied => .deniedByCapability
  | _ => .deniedByPolicy

structure Slot (F : Type) where
  intent : Intent F
  intentOrdinal : Nat
  action : SuggestedAction
  actionOrdinal : Nat
  deriving DecidableEq

def slots (batch : IntentBatch F) : List (Slot F) :=
  batch.intents.zipIdx.flatMap fun (intent, i) =>
    intent.suggestedActions.zipIdx.map fun (action, j) => ⟨intent, i, action, j⟩

namespace Slot

def key (x : Slot F) : UInt32 × UInt32 :=
  (UInt32.ofNat x.intentOrdinal, UInt32.ofNat x.actionOrdinal)

def proposal (windowOrdinal : UInt32) (authorizedAtMs : Int) (x : Slot F) : ActionProposal where
  intentId := x.intent.intentId
  coord := ⟨windowOrdinal, x.key.1, x.key.2⟩
  action := x.action
  effect := EffectClass.fromActionType x.action.actionType
  proposedAtMs := authorizedAtMs

end Slot

def coords (d : PolicyActionDecision) : UInt32 × UInt32 := (d.intentOrdinal, d.actionOrdinal)

def decisionsByCoord (decisions : List PolicyActionDecision) (key : UInt32 × UInt32) :
    Option PolicyActionDecision :=
  lastWith coords decisions key

structure Params where
  windowOrdinal : UInt32
  route : DecisionRoute
  backendError : Option String
  sourceTier : SourceTier
  authorizedAtMs : Int

/-- The body of the loop; the state is the list of calls made to the adapter. -/
def runSlot (adapter : ActionAdapter) (p : Params) (decisions : List PolicyActionDecision)
    (calls : List AuthorizedAction) (x : Slot F) : List AuthorizedAction × List AuditRecord :=
  let proposal := x.proposal p.windowOrdinal p.authorizedAtMs
  let record := AuditRecord.new proposal p.route p.sourceTier
  match validateSchema proposal x.intent.riskLevel with
  | some err =>
    (calls, [{ record.transition .rejectedInvalidSchema with
      error := some err.display, backendError := p.backendError }])
  | none =>
    let record := record.transition .schemaValidated
    match decisionsByCoord decisions x.key with
    | some d =>
      match d.verdict with
      | .approved =>
        let record := record.transition .policyChecked
        let authorized := AuthorizedAction.seal proposal p.authorizedAtMs
        let record := record.transition .dispatched
        match adapter.execute calls authorized with
        | .ok outcome =>
          (calls ++ [authorized], [{ record.transition .succeeded with
            outcome := some (ActionOutcomeSummary.fromOutcome outcome),
            backendError := p.backendError }])
        | .error err =>
          (calls ++ [authorized], [{ record.transition .failed with
            error := some err.display, backendError := p.backendError }])
      | .denied reason =>
        let record := record.transition .policyChecked
        (calls, [{ record.transition (denialToTerminal reason) with
          denialReason := some reason, backendError := p.backendError }])
    | none =>
      (calls, [{ record.transition .failed with
        error := some (LifecycleError.missingPolicyDecision proposal.coord).display,
        backendError := p.backendError }])

def machine (adapter : ActionAdapter) (p : Params) (decisions : List PolicyActionDecision) :
    Machine (List AuthorizedAction) (Slot F) AuditRecord where
  step := runSlot adapter p decisions

def run [LT F] [DecidableLT F] (policy : PolicyConfig F) (adapter : ActionAdapter)
    (windowOrdinal : UInt32) (batch : IntentBatch F) (route : DecisionRoute)
    (backendError : Option String) (capability : CapabilityLevel) (ctx : StructuredContext) :
    List AuthorizedAction × List AuditRecord :=
  (machine adapter
    ⟨windowOrdinal, route, backendError, ctx.summary.sourceTier, batch.generatedAtMs⟩
    (PolicyEngine.evaluateBatchWithContext policy batch capability ctx)).run [] (slots batch)

/-! ### What a record says -/

def legalPaths : List (List ActionState) :=
  [[.proposed, .rejectedInvalidSchema],
   [.proposed, .schemaValidated, .policyChecked, .deniedByCapability],
   [.proposed, .schemaValidated, .policyChecked, .deniedByPolicy],
   [.proposed, .schemaValidated, .policyChecked, .dispatched, .succeeded],
   [.proposed, .schemaValidated, .policyChecked, .dispatched, .failed]]

def schemaValid (x : Slot F) : Bool :=
  (validateSchema (x.proposal 0 0) x.intent.riskLevel).isNone

/-- Record `r` accounts for action `x`, on which the policy decided `d`. -/
structure Accounts (p : Params) (x : Slot F) (d : PolicyActionDecision) (r : AuditRecord) :
    Prop where
  coord : r.coord = (x.proposal p.windowOrdinal p.authorizedAtMs).coord
  subject : r.intentId = x.intent.intentId ∧ r.actionType = x.action.actionType ∧
    r.target = x.action.target
  terminal : r.terminal.isTerminal = true
  last : r.transitions.getLast? = some r.terminal
  path : r.transitions ∈ legalPaths
  rejected : r.terminal = .rejectedInvalidSchema ↔ schemaValid x = false
  dispatched : .dispatched ∈ r.transitions ↔ schemaValid x = true ∧ d.verdict = .approved
  outcome : r.terminal = .succeeded ↔ r.outcome.isSome = true
  denied : r.terminal = .deniedByCapability ∨ r.terminal = .deniedByPolicy ↔
    r.denialReason.isSome = true
  reason : ∀ reason, r.denialReason = some reason ↔
    schemaValid x = true ∧ d.verdict = .denied reason
  capability : r.terminal = .deniedByCapability ↔
    r.denialReason = some .riskExceedsCapability ∨
      r.denialReason = some .actionCapabilityDenied

/-- The record says what the adapter answered. -/
def Tells (r : AuditRecord) : Except AdapterError ActionOutcome → Prop
  | .ok outcome => r.terminal = .succeeded ∧
    r.outcome = some (ActionOutcomeSummary.fromOutcome outcome) ∧ r.error = none
  | .error err => r.terminal = .failed ∧ r.outcome = none ∧ r.error = some err.display

def wasDispatched (r : AuditRecord) : Bool := .dispatched ∈ r.transitions

theorem legalPaths_last : ∀ path ∈ legalPaths,
    (.dispatched ∈ path ∧
        (path.getLast? = some .succeeded ∨ path.getLast? = some .failed)) ∨
      (.dispatched ∉ path ∧ (path.getLast? = some .rejectedInvalidSchema ∨
        path.getLast? = some .deniedByCapability ∨ path.getLast? = some .deniedByPolicy)) := by
  decide

theorem Accounts.terminal_cases {p : Params} {x : Slot F} {d : PolicyActionDecision}
    {r : AuditRecord} (h : Accounts p x d r) :
    ((schemaValid x = true ∧ d.verdict = .approved) ∧
        (r.terminal = .succeeded ∨ r.terminal = .failed)) ∨
      (¬(schemaValid x = true ∧ d.verdict = .approved) ∧
        (r.terminal = .rejectedInvalidSchema ∨ r.terminal = .deniedByCapability ∨
          r.terminal = .deniedByPolicy)) := by
  have hlast := legalPaths_last r.transitions h.path
  simpa only [h.dispatched, h.last, Option.some.injEq] using hlast

section
variable (adapter : ActionAdapter) (p : Params) {decisions : List PolicyActionDecision}

theorem validateSchema_isNone (x : Slot F) (w : UInt32) (t : Int) :
    (validateSchema (x.proposal w t) x.intent.riskLevel).isNone = schemaValid x := rfl

/-- With a decision at hand, one turn of the loop emits one record, which accounts
for the action. -/
theorem runSlot_accounts {x : Slot F} {d : PolicyActionDecision}
    (hd : decisionsByCoord decisions x.key = some d) (calls : List AuthorizedAction) :
    ∃ r, (runSlot adapter p decisions calls x).2 = [r] ∧ Accounts p x d r := by
  have hvalid := validateSchema_isNone x p.windowOrdinal p.authorizedAtMs
  cases hs : validateSchema (x.proposal p.windowOrdinal p.authorizedAtMs)
      x.intent.riskLevel with
  | some err =>
    rw [hs] at hvalid
    refine ⟨_, by simp only [runSlot, hs]; rfl, ?_⟩
    constructor <;>
      simp [AuditRecord.new, AuditRecord.transition, Slot.proposal, legalPaths,
        ActionState.isTerminal, ← hvalid]
  | none =>
    rw [hs] at hvalid
    cases hv : d.verdict with
    | denied reason =>
      refine ⟨_, by simp only [runSlot, hs, hd, hv]; rfl, ?_⟩
      constructor <;> cases reason <;>
        simp [AuditRecord.new, AuditRecord.transition, Slot.proposal, legalPaths,
          ActionState.isTerminal, denialToTerminal, ← hvalid, hv]
    | approved =>
      cases he : adapter.execute calls
          (AuthorizedAction.seal (x.proposal p.windowOrdinal p.authorizedAtMs)
            p.authorizedAtMs) with
      | ok outcome =>
        refine ⟨_, by simp only [runSlot, hs, hd, hv, he]; rfl, ?_⟩
        constructor <;>
          simp [AuditRecord.new, AuditRecord.transition, Slot.proposal, legalPaths,
            ActionState.isTerminal, ← hvalid, hv]
      | error err =>
        refine ⟨_, by simp only [runSlot, hs, hd, hv, he]; rfl, ?_⟩
        constructor <;>
          simp [AuditRecord.new, AuditRecord.transition, Slot.proposal, legalPaths,
            ActionState.isTerminal, ← hvalid, hv]

/-- The actions that reach the adapter. -/
def dispatches (decisions : List PolicyActionDecision) (x : Slot F) : Bool :=
  schemaValid x && (decisionsByCoord decisions x.key).any fun d => decide (d.verdict = .approved)

theorem runSlot_calls (calls : List AuthorizedAction) (x : Slot F) :
    (runSlot adapter p decisions calls x).1 = calls ++
      ([x].filter (dispatches decisions)).map fun x =>
        AuthorizedAction.seal (x.proposal p.windowOrdinal p.authorizedAtMs) p.authorizedAtMs := by
  rw [List.filter_singleton, dispatches,
    ← validateSchema_isNone x p.windowOrdinal p.authorizedAtMs, runSlot]
  cases validateSchema (x.proposal p.windowOrdinal p.authorizedAtMs) x.intent.riskLevel with
  | some err => simp
  | none =>
    cases decisionsByCoord decisions x.key with
    | none => simp
    | some d =>
      cases hv : d.verdict with
      | denied reason => simp [hv]
      | approved =>
        cases he : adapter.execute calls
            (AuthorizedAction.seal (x.proposal p.windowOrdinal p.authorizedAtMs)
              p.authorizedAtMs) <;> simp [hv, he]

theorem runSlot_tells {calls : List AuthorizedAction} {records : List AuditRecord}
    (h : List.Forall₂ Tells (records.filter wasDispatched) (adapter.answers calls)) (x : Slot F) :
    List.Forall₂ Tells
      ((records ++ (runSlot adapter p decisions calls x).2).filter wasDispatched)
      (adapter.answers (runSlot adapter p decisions calls x).1) := by
  rw [List.filter_append, runSlot]
  cases validateSchema (x.proposal p.windowOrdinal p.authorizedAtMs) x.intent.riskLevel with
  | some err => simpa [wasDispatched, AuditRecord.new, AuditRecord.transition] using h
  | none =>
    cases decisionsByCoord decisions x.key with
    | none => simpa [wasDispatched, AuditRecord.new, AuditRecord.transition] using h
    | some d =>
      cases hv : d.verdict with
      | denied reason =>
        cases reason <;>
          simpa [hv, wasDispatched, AuditRecord.new, AuditRecord.transition, denialToTerminal]
            using h
      | approved =>
        cases he : adapter.execute calls
            (AuthorizedAction.seal (x.proposal p.windowOrdinal p.authorizedAtMs)
              p.authorizedAtMs) <;>
        · simp only [hv, he, adapter.answers_concat]
          refine List.rel_append h (.cons ?_ .nil)
          exact ⟨rfl, rfl, rfl⟩

theorem run_tells (xs : List (Slot F)) :
    List.Forall₂ Tells (((machine adapter p decisions).run [] xs).2.filter wasDispatched)
      (adapter.answers ((machine adapter p decisions).run [] xs).1) :=
  Machine.run_history
    (fun _ records calls =>
      List.Forall₂ Tells (records.filter wasDispatched) (adapter.answers calls))
    (fun _ _ _ x h _ => runSlot_tells adapter p h x) .nil
    ((machine adapter p decisions).along_true _ _)

theorem run_calls (xs : List (Slot F)) :
    ((machine adapter p decisions).run [] xs).1 =
      (xs.filter (dispatches decisions)).map fun x =>
        AuthorizedAction.seal (x.proposal p.windowOrdinal p.authorizedAtMs) p.authorizedAtMs := by
  refine Machine.run_history (fun pre _ calls => calls = (pre.filter (dispatches decisions)).map _)
    (fun pre _ calls x h _ => ?_) rfl ((machine adapter p decisions).along_true _ _)
  rw [List.filter_append, List.map_append, ← h]
  exact runSlot_calls adapter p calls x

end

/-! ### The decisions are keyed as the batch is -/

section
variable [LT F] [DecidableLT F]

theorem judge_coords (deny : Nat → SuggestedAction → Option DenialReason) (i : UInt32)
    (n o : Nat) (actions : List SuggestedAction) :
    (PolicyEngine.judge deny i n o actions).map coords =
      (actions.zipIdx o).map fun (_, j) => (i, UInt32.ofNat j) := by
  induction actions generalizing n o with
  | nil => rfl
  | cons action rest ih => simp [PolicyEngine.judge, coords, ih]

theorem evaluateBatchWithContext_coords (cfg : PolicyConfig F) (batch : IntentBatch F)
    (capability : CapabilityLevel) (ctx : StructuredContext) :
    (PolicyEngine.evaluateBatchWithContext cfg batch capability ctx).map coords =
      (slots batch).map Slot.key := by
  simp only [PolicyEngine.evaluateBatchWithContext, PolicyEngine.evaluateIntents, slots,
    List.map_flatMap, PolicyEngine.evaluateIntent_eq_judge, judge_coords, List.map_map]
  rfl

end

theorem approved_authorised [LT F] [DecidableLT F] (cfg : PolicyConfig F)
    (batch : IntentBatch F) (capability : CapabilityLevel) (ctx : StructuredContext) :
    List.Forall₂ (fun x d => d.verdict = .approved → ∃ n, PolicyEngine.Authorised cfg capability
      (KnownTargets.fromContext ctx) x.intent n x.action)
      (slots batch) (PolicyEngine.evaluateBatchWithContext cfg batch capability ctx) := by
  refine List.rel_flatMap (R := Eq) (List.forall₂_eq_eq_eq ▸ rfl) ?_
  rintro ⟨intent, i⟩ _ rfl
  simp only [PolicyEngine.evaluateIntent_eq_judge, List.forall₂_map_left_iff]
  refine (PolicyEngine.judge_forall₂ 0 0 intent.suggestedActions).imp ?_
  rintro ⟨action, j⟩ _ ⟨n, rfl⟩ h
  exact ⟨n, PolicyEngine.checks_none_iff.mp (PolicyEngine.toVerdict_eq_approved.mp h)⟩

theorem approved_checkTarget [LT F] [DecidableLT F] (cfg : PolicyConfig F)
    (batch : IntentBatch F) (capability : CapabilityLevel) (ctx : StructuredContext) :
    List.Forall₂ (fun x d => d.verdict = .approved →
      checkTarget x.action.actionType x.action.target (KnownTargets.fromContext ctx) = none)
      (slots batch) (PolicyEngine.evaluateBatchWithContext cfg batch capability ctx) :=
  (approved_authorised cfg batch capability ctx).imp fun _ _ h hv =>
    (h hv).elim fun _ hauthorised => hauthorised.targetPasses

def ordinals (batch : IntentBatch F) : List (Nat × Nat) :=
  nestedOrdinals Intent.suggestedActions batch.intents

theorem slots_ordinals (batch : IntentBatch F) :
    (slots batch).map (fun x => (x.intentOrdinal, x.actionOrdinal)) = ordinals batch := by
  simp only [slots, ordinals, nestedOrdinals, List.map_flatMap, List.map_map]
  rfl

/-- No ordinal of the batch wraps when cast to `u32`. -/
structure Fits (batch : IntentBatch F) : Prop where
  intents : batch.intents.length < 2 ^ 32
  actions : ∀ intent ∈ batch.intents, intent.suggestedActions.length < 2 ^ 32

theorem Fits.key_toNat {batch : IntentBatch F} (h : Fits batch) {x : Slot F}
    (hx : x ∈ slots batch) :
    (x.key.1.toNat, x.key.2.toNat) = (x.intentOrdinal, x.actionOrdinal) := by
  have hmem : (x.intentOrdinal, x.actionOrdinal) ∈ ordinals batch := by
    rw [← slots_ordinals]
    exact List.mem_map_of_mem hx
  obtain ⟨intent, hi, hj⟩ := mem_nestedOrdinals.mp hmem
  obtain ⟨hlt, rfl⟩ := List.getElem?_eq_some_iff.mp hi
  have h1 : x.intentOrdinal < 2 ^ 32 := lt_trans hlt h.intents
  have h2 : x.actionOrdinal < 2 ^ 32 := lt_trans hj (h.actions _ (List.getElem_mem hlt))
  rw [Slot.key, UInt32.toNat_ofNat_of_lt' h1, UInt32.toNat_ofNat_of_lt' h2]

theorem Fits.keys_toNat {batch : IntentBatch F} (h : Fits batch) :
    ((slots batch).map Slot.key).map (fun k => (k.1.toNat, k.2.toNat)) = ordinals batch := by
  rw [← slots_ordinals, List.map_map]
  exact List.map_congr_left fun x hx => h.key_toNat hx

theorem Fits.keys_nodup {batch : IntentBatch F} (h : Fits batch) :
    ((slots batch).map Slot.key).Nodup := by
  apply List.Nodup.of_map (fun k => (k.1.toNat, k.2.toNat))
  rw [h.keys_toNat]
  exact nestedOrdinals_nodup _ _

section
variable [LT F] [DecidableLT F]

theorem Fits.decision {batch : IntentBatch F} (h : Fits batch) (policy : PolicyConfig F)
    (capability : CapabilityLevel) (ctx : StructuredContext) {x : Slot F}
    (hx : x ∈ slots batch) :
    let decisions := PolicyEngine.evaluateBatchWithContext policy batch capability ctx
    ∃ d ∈ decisions, decisionsByCoord decisions x.key = some d ∧ coords d = x.key ∧
      ∀ d' ∈ decisions, coords d' = x.key → d' = d := by
  intro decisions
  have hkeys := evaluateBatchWithContext_coords policy batch capability ctx
  have hnodup : (decisions.map coords).Nodup := hkeys ▸ h.keys_nodup
  have hmem : x.key ∈ decisions.map coords := hkeys ▸ List.mem_map_of_mem hx
  obtain ⟨d, hd, hk⟩ := List.mem_map.mp hmem
  refine ⟨d, hd, (lastWith_eq_some hnodup).mpr ⟨hd, hk⟩, hk, fun d' hd' hk' => ?_⟩
  exact List.inj_on_of_nodup_map hnodup hd' hd (hk'.trans hk.symm)

theorem Fits.decisions_eq {batch : IntentBatch F} (h : Fits batch) (policy : PolicyConfig F)
    (capability : CapabilityLevel) (ctx : StructuredContext) :
    let decisions := PolicyEngine.evaluateBatchWithContext policy batch capability ctx
    decisions.map some = (slots batch).map fun x => decisionsByCoord decisions x.key := by
  intro decisions
  have hkeys := evaluateBatchWithContext_coords policy batch capability ctx
  have hnodup : (decisions.map coords).Nodup := hkeys ▸ h.keys_nodup
  calc decisions.map some
    _ = decisions.map fun d => decisionsByCoord decisions (coords d) :=
      List.map_congr_left fun d hd => ((lastWith_eq_some hnodup).mpr ⟨hd, rfl⟩).symm
    _ = ((slots batch).map Slot.key).map (decisionsByCoord decisions) := by
      rw [← hkeys, List.map_map]
      rfl
    _ = _ := List.map_map

theorem Fits.lookup_authorised {batch : IntentBatch F} (h : Fits batch) (policy : PolicyConfig F)
    (capability : CapabilityLevel) (ctx : StructuredContext) {x : Slot F} (hx : x ∈ slots batch)
    {d : PolicyActionDecision}
    (hd : decisionsByCoord (PolicyEngine.evaluateBatchWithContext policy batch capability ctx)
      x.key = some d) (hv : d.verdict = .approved) :
    ∃ n, PolicyEngine.Authorised policy capability (KnownTargets.fromContext ctx) x.intent n
      x.action := by
  obtain ⟨i, hi, rfl⟩ := List.getElem_of_mem hx
  have hall := List.forall₂_iff_get.mp (approved_authorised policy batch capability ctx)
  have hi' : i < (PolicyEngine.evaluateBatchWithContext policy batch capability ctx).length :=
    hall.1 ▸ hi
  have hlookup := congrArg (·[i]?) (h.decisions_eq policy capability ctx)
  simp only [List.getElem?_map, List.getElem?_eq_getElem hi, List.getElem?_eq_getElem hi',
    Option.map_some, hd, Option.some.injEq] at hlookup
  exact hall.2 i hi hi' (by rw [List.get_eq_getElem, hlookup]; exact hv)

theorem Fits.run_accounts {batch : IntentBatch F} (h : Fits batch) (policy : PolicyConfig F)
    (adapter : ActionAdapter) (p : Params) (capability : CapabilityLevel)
    (ctx : StructuredContext) :
    let decisions := PolicyEngine.evaluateBatchWithContext policy batch capability ctx
    List.Forall₂ (fun x r => ∃ d ∈ decisions, decisionsByCoord decisions x.key = some d ∧
      coords d = x.key ∧ (∀ d' ∈ decisions, coords d' = x.key → d' = d) ∧ Accounts p x d r)
      (slots batch) ((machine adapter p decisions).run [] (slots batch)).2 := by
  intro decisions
  refine (machine adapter p decisions).run_forall₂ (fun calls x hx => ?_) []
  obtain ⟨d, hd, hlookup, hkey, huniq⟩ := h.decision policy capability ctx hx
  obtain ⟨r, hr, haccounts⟩ := runSlot_accounts adapter p hlookup calls
  exact ⟨r, hr, d, hd, hlookup, hkey, huniq, haccounts⟩

/-- Every run leaves one record for each action of the batch, in the batch's order, that
accounts for the action under its own decision; the adapter is called once for each valid,
approved action, in that order; and the records of these say what it answered. -/
theorem run_complete (policy : PolicyConfig F) (adapter : ActionAdapter)
    (windowOrdinal : UInt32) (batch : IntentBatch F) (route : DecisionRoute)
    (backendError : Option String) (capability : CapabilityLevel) (ctx : StructuredContext)
    (h : Fits batch) :
    let p : Params :=
      ⟨windowOrdinal, route, backendError, ctx.summary.sourceTier, batch.generatedAtMs⟩
    let decisions := PolicyEngine.evaluateBatchWithContext policy batch capability ctx
    let calls :=
      (run policy adapter windowOrdinal batch route backendError capability ctx).1
    let records :=
      (run policy adapter windowOrdinal batch route backendError capability ctx).2
    let position := fun r : AuditRecord =>
      (r.coord.intentOrdinal.toNat, r.coord.actionOrdinal.toNat)
    records.map position = ordinals batch ∧
    (records.map position).Pairwise (Prod.Lex (· < ·) (· < ·)) ∧
    (records.map AuditRecord.coord).Nodup ∧
    List.Forall₂ (fun x r => ∃ d ∈ decisions, decisionsByCoord decisions x.key = some d ∧
      coords d = x.key ∧ (∀ d' ∈ decisions, coords d' = x.key → d' = d) ∧ Accounts p x d r)
      (slots batch) records ∧
    (calls = ((slots batch).filter fun x => schemaValid x &&
        decisions.any fun d => decide (coords d = x.key ∧ d.verdict = .approved)).map fun x =>
      AuthorizedAction.seal (x.proposal windowOrdinal batch.generatedAtMs)
        batch.generatedAtMs) ∧
    List.Forall₂ Tells (records.filter wasDispatched) (adapter.answers calls) := by
  intro p decisions calls records position
  have hdecision := fun x (hx : x ∈ slots batch) => h.decision policy capability ctx hx
  have hrecords := h.run_accounts policy adapter p capability ctx
  have hcoord : records.map AuditRecord.coord = (slots batch).map fun x =>
      (x.proposal p.windowOrdinal p.authorizedAtMs).coord :=
    (map_eq_map_of_forall₂ (hrecords.imp fun x r ⟨_, _, _, _, _, haccounts⟩ =>
      haccounts.coord.symm)).symm
  have hposition : records.map position = ordinals batch := by
    rw [← h.keys_toNat, List.map_map]
    simpa [position, Function.comp_def, Slot.proposal] using congrArg
      (List.map fun c : ActionCoord => (c.intentOrdinal.toNat, c.actionOrdinal.toNat)) hcoord
  refine ⟨hposition, ?_, ?_, hrecords, ?_, run_tells adapter p (slots batch)⟩
  · rw [hposition]
    exact nestedOrdinals_pairwise _ _
  · apply List.Nodup.of_map (fun c => (c.intentOrdinal.toNat, c.actionOrdinal.toNat))
    rw [List.map_map]
    exact hposition ▸ nestedOrdinals_nodup _ _
  · rw [show calls = _ from run_calls adapter p (slots batch)]
    congr 1
    apply List.filter_congr
    intro x hx
    obtain ⟨d, hd, hlookup, hkey, huniq⟩ := hdecision x hx
    rw [dispatches, hlookup, Option.any_some]
    congr 1
    rw [Bool.eq_iff_iff, decide_eq_true_eq, List.any_eq_true]
    constructor
    · intro hv
      exact ⟨d, hd, by simp [hkey, hv]⟩
    · rintro ⟨d', hd', hv⟩
      rw [decide_eq_true_eq] at hv
      exact huniq d' hd' hv.1 ▸ hv.2

end

section
/-! A batch in which one action is dispatched, one is malformed, one is beyond the
route's capability and one belongs to an intent that is too risky. -/

def mixedBatch : IntentBatch ℚ where
  windowId := "w"
  intents :=
    [⟨"i0", .idle, 0.9, .low,
      [⟨.keepAlive, some "work:sync", .immediate⟩, ⟨.preWarmProcess, none, .immediate⟩,
        ⟨.prefetchFile, none, .idleTime⟩], []⟩,
     ⟨"i1", .idle, 0.9, .medium, [⟨.keepAlive, none, .immediate⟩], []⟩]
  generatedAtMs := 0
  model := "rules"

def emptyContext : StructuredContext :=
  ⟨"w", 0, 0, 0, [], ⟨[], [], [], [], none, .publicApi⟩⟩

def unavailable : ActionAdapter :=
  ⟨fun _ _ => .error (.simulatedResourceUnavailable "battery")⟩

theorem mixedBatch_fits : Fits mixedBatch := ⟨by decide, by decide⟩

theorem run_complete_mixedBatch :
    let out := run PolicyConfig.default unavailable 7 mixedBatch .ruleBased none
      (CapabilityLevel.forRoute .ruleBased) emptyContext
    out.2.map AuditRecord.terminal =
      [.failed, .rejectedInvalidSchema, .deniedByCapability, .deniedByCapability] ∧
    out.1.length = 1 ∧
    out.2.map (fun r => (r.coord.intentOrdinal.toNat, r.coord.actionOrdinal.toNat)) =
      ordinals mixedBatch ∧
    List.Forall₂ Tells (out.2.filter wasDispatched) (unavailable.answers out.1) := by
  intro out
  obtain ⟨hordinals, -, -, -, -, htells⟩ := run_complete PolicyConfig.default unavailable 7
    mixedBatch .ruleBased none (CapabilityLevel.forRoute .ruleBased) emptyContext mixedBatch_fits
  exact ⟨by decide +kernel, by decide +kernel, hordinals, htells⟩

end

end ActionLifecycle

end Dipecs.Core
