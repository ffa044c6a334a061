import Mathlib.Algebra.Order.BigOperators.Group.List
import Mathlib.Algebra.Order.Ring.Unbundled.Rat
import Mathlib.Data.UInt
import Dipecs.Cli.Replay

/-! What judging one batch adds to the counters of a replay, at the policy stage, which
evaluates the policy alone, and at the execute stage, which runs the lifecycle. -/

namespace Dipecs.Cli.Replay

open Dipecs.Spec Dipecs.Core Dipecs.Agent Dipecs.Library ActionLifecycle

def wasExecuted (r : AuditRecord) : Bool :=
  match r.terminal with
  | .succeeded | .failed => true
  | _ => false

def wasRefused (r : AuditRecord) : Bool :=
  match r.terminal with
  | .rejectedInvalidSchema | .deniedByCapability | .deniedByPolicy => true
  | _ => false

inductive Tally
  | intentsApproved | intentsRejected | actionsAuthorized | actionsDenied
  | denialCounts (reason : DenialReason)

namespace Tally

def read (summary : ReplaySummary) : Tally → UInt64
  | intentsApproved => summary.intentsApproved
  | intentsRejected => summary.intentsRejected
  | actionsAuthorized => summary.actionsAuthorized
  | actionsDenied => summary.actionsDenied
  | denialCounts reason => summary.denialCounts reason

def ofIntent (approved : Bool) : Tally → Nat
  | intentsApproved => approved.toNat
  | intentsRejected => (!approved).toNat
  | _ => 0

def ofDenial (reason : DenialReason) : Tally → Nat
  | denialCounts r => (r == reason).toNat
  | _ => 0

def ofDecision (d : PolicyActionDecision) : Tally → Nat
  | actionsAuthorized => (isApproved d).toNat
  | actionsDenied => (!isApproved d).toNat
  | denialCounts reason => (denialOf d == some reason).toNat
  | _ => 0

def ofAudit (r : AuditRecord) : Tally → Nat
  | actionsAuthorized => (wasExecuted r).toNat
  | actionsDenied => (wasRefused r).toNat
  | denialCounts reason => (wasRefused r && r.denialReason == some reason).toNat
  | _ => 0

theorem read_countIntent (summary : ReplaySummary) (approved : Bool) (t : Tally) :
    read (Summary.countIntent summary approved) t =
      read summary t + UInt64.ofNat (ofIntent approved t) := by
  cases approved <;> cases t <;> simp [Summary.countIntent, read, ofIntent]

theorem read_countDenial (summary : ReplaySummary) (reason : DenialReason) (t : Tally) :
    read (Summary.countDenial summary reason) t =
      read summary t + UInt64.ofNat (ofDenial reason t) := by
  cases t with
  | denialCounts r =>
    by_cases h : r = reason
    · simp [Summary.countDenial, read, ofDenial, h]
    · have hne : (r == reason) = false := beq_false_of_ne h
      simp [Summary.countDenial, read, ofDenial, h, hne]
  | _ => simp [Summary.countDenial, read, ofDenial]

theorem read_countAudit (summary : ReplaySummary) (r : AuditRecord) (t : Tally) :
    read (Summary.countAudit summary r) t = read summary t + UInt64.ofNat (ofAudit r t) := by
  unfold Summary.countAudit
  cases t with
  | denialCounts reason =>
    cases hreason : r.denialReason with
    | none =>
      cases hterminal : r.terminal <;>
        simp [read, ofAudit, wasRefused, hterminal, hreason]
    | some denial =>
      cases hterminal : r.terminal <;> simp only [read_countDenial] <;>
        simp [read, ofAudit, ofDenial, wasRefused, hterminal, hreason, Bool.beq_comm]
  | _ =>
    cases hterminal : r.terminal <;> cases hreason : r.denialReason <;>
      simp [Summary.countDenial, read, ofAudit, wasExecuted, wasRefused, hterminal]

theorem read_foldl {α : Type} {f : ReplaySummary → α → ReplaySummary} {n : α → Tally → Nat}
    (h : ∀ summary a t, read (f summary a) t = read summary t + UInt64.ofNat (n a t))
    (l : List α) (summary : ReplaySummary) (t : Tally) :
    read (l.foldl f summary) t = read summary t + UInt64.ofNat (l.map (n · t)).sum := by
  induction l generalizing summary with
  | nil => simp
  | cons a l ih =>
    rw [List.foldl_cons, ih, h, List.map_cons, List.sum_cons, UInt64.ofNat_add, UInt64.add_assoc]

theorem sum_toNat {α : Type} (p : α → Bool) (l : List α) :
    (l.map fun a => (p a).toNat).sum = l.countP p := by
  induction l with
  | nil => rfl
  | cons a l ih =>
    rw [List.map_cons, List.sum_cons, ih, List.countP_cons, Nat.add_comm]
    cases p a <;> rfl

theorem sum_ofDenial (ds : List PolicyActionDecision) (reason : DenialReason) :
    ((ds.filterMap denialOf).map (ofDenial · (denialCounts reason))).sum =
      (ds.map (ofDecision · (denialCounts reason))).sum := by
  induction ds with
  | nil => rfl
  | cons d ds ih =>
    rw [List.map_cons, List.sum_cons, ← ih, List.filterMap_cons]
    cases hd : denialOf d <;> simp [ofDecision, ofDenial, hd, Bool.beq_comm]

theorem read_countPolicy (summary : ReplaySummary) (ds : List PolicyActionDecision) (t : Tally) :
    read (Summary.countPolicy summary ds) t = read summary t + UInt64.ofNat
      (ofIntent (decide (0 < ds.countP isApproved)) t + (ds.map (ofDecision · t)).sum) := by
  rw [Summary.countPolicy, read_foldl read_countDenial, UInt64.ofNat_add, ← UInt64.add_assoc,
    ← read_countIntent]
  cases t with
  | denialCounts reason =>
    rw [sum_ofDenial]
    rfl
  | actionsAuthorized => simp [read, ofDenial, ofDecision, sum_toNat]
  | actionsDenied =>
    have hdenied : ds.length - ds.countP isApproved = ds.countP fun d => !isApproved d := by
      rw [List.length_eq_countP_add_countP isApproved, Nat.add_sub_cancel_left]
      simp
    simp [read, ofDenial, ofDecision, sum_toNat, hdenied]
  | _ => simp [read, ofDenial, ofDecision]

end Tally

/-! ### What the stages add -/

section
variable {F : Type} [LinearOrder F] [OfScientific F] {ctx : StructuredContext}
  {decision : DecisionBackendResult F} {windowOrdinal : UInt32}

def decisionOf (decision : DecisionBackendResult F) (ctx : StructuredContext) (x : Slot F) :
    Option PolicyActionDecision :=
  decisionsByCoord (policyDecisions decision ctx) x.key

theorem isAllowedPrewarmTarget_empty (known : KnownTargets) :
    isAllowedPrewarmTarget "" known = false := by
  have hstart : (Text.startsWith "own:" "" || Text.startsWith "notif:" "") = false := by decide
  have hstrip : Text.stripPrefix "pkg:" "" = none := by decide
  unfold isAllowedPrewarmTarget
  rw [hstart, hstrip]
  rfl

/-- The policy of a replay approves no action that the schema check would reject. -/
theorem schemaValid_of_authorised {capability : CapabilityLevel} {known : KnownTargets} {n : Nat}
    {x : Slot F} (h : PolicyEngine.Authorised .default capability known x.intent n x.action) :
    schemaValid x = true := by
  have htarget := h.targetPasses
  have hrisk : x.intent.riskLevel.toNat ≤ RiskLevel.low.toNat := h.riskWithinConfig
  have hlow : (x.intent.riskLevel == .high) = false := by
    cases hlevel : x.intent.riskLevel <;> simp [hlevel, RiskLevel.toNat] at hrisk ⊢
  unfold schemaValid validateSchema
  simp only [Slot.proposal, hlow, Bool.and_false, Bool.false_eq_true, if_false]
  cases haction : x.action.actionType with
  | preWarmProcess =>
    rw [haction] at htarget
    cases hx : x.action.target with
    | none =>
      rw [hx] at htarget
      cases htarget
    | some t =>
      rw [hx] at htarget
      have hne : t ≠ "" := by
        rintro rfl
        rw [checkTarget, isAllowedPrewarmTarget_empty] at htarget
        cases htarget
      simp [hne]
  | _ => rfl

theorem denialOf_eq_some {d : PolicyActionDecision} {reason : DenialReason} :
    denialOf d = some reason ↔ d.verdict = .denied reason := by
  unfold denialOf
  cases d.verdict <;> simp

structure Judged (decision : DecisionBackendResult F) (ctx : StructuredContext)
    (x : Slot F) (r : AuditRecord) (d : PolicyActionDecision) : Prop where
  lookup : decisionOf decision ctx x = some d
  ordinal : r.coord.intentOrdinal = d.intentOrdinal
  executed : wasExecuted r = isApproved d
  refused : wasRefused r = !isApproved d
  reason : r.denialReason = if schemaValid x then denialOf d else none

theorem judged_of_accounts {p : Params} {x : Slot F} {r : AuditRecord} {d : PolicyActionDecision}
    (hlookup : decisionOf decision ctx x = some d) (hkey : coords d = x.key)
    (h : Accounts p x d r) (hvalid : d.verdict = .approved → schemaValid x = true) :
    Judged decision ctx x r d := by
  have hreason : r.denialReason = if schemaValid x then denialOf d else none := by
    apply Option.ext
    intro reason
    rw [h.reason reason, ← denialOf_eq_some]
    cases schemaValid x <;> simp
  have hordinal : r.coord.intentOrdinal = d.intentOrdinal := by
    rw [h.coord]
    exact congrArg Prod.fst hkey.symm
  obtain ⟨⟨-, happroved⟩, hterminal⟩ | ⟨hno, hterminal⟩ := h.terminal_cases
  · have hd : isApproved d = true := decide_eq_true happroved
    refine ⟨hlookup, hordinal, ?_, ?_, hreason⟩ <;> rw [hd] <;>
      rcases hterminal with hterminal | hterminal <;> simp [wasExecuted, wasRefused, hterminal]
  · have hd : isApproved d = false :=
      decide_eq_false fun happroved => hno ⟨hvalid happroved, happroved⟩
    refine ⟨hlookup, hordinal, ?_, ?_, hreason⟩ <;> rw [hd] <;>
      rcases hterminal with hterminal | hterminal | hterminal <;>
      simp [wasExecuted, wasRefused, hterminal]

theorem approved_schemaValid (h : Fits decision.intentBatch) {x : Slot F}
    (hx : x ∈ slots decision.intentBatch) {d : PolicyActionDecision}
    (hlookup : decisionOf decision ctx x = some d) (hv : d.verdict = .approved) :
    schemaValid x = true := by
  obtain ⟨n, hauthorised⟩ := h.lookup_authorised _ _ _ hx hlookup hv
  exact schemaValid_of_authorised hauthorised

theorem audit_judged (windowOrdinal : UInt32) (ctx : StructuredContext)
    (h : Fits decision.intentBatch) :
    List.Forall₂ (fun x r => ∃ d, Judged decision ctx x r d) (slots decision.intentBatch)
      (audit windowOrdinal decision ctx) := by
  have hrecords := h.run_accounts .default OfflineAdapter.adapter
    ⟨windowOrdinal, decision.route, decision.error, ctx.summary.sourceTier,
      decision.intentBatch.generatedAtMs⟩ (CapabilityLevel.forRoute decision.route) ctx
  refine ((List.forall₂_and_left _ _).mpr ⟨fun x hx => hx, hrecords⟩).imp ?_
  rintro x r ⟨hx, d, -, hlookup, hkey, -, haccounts⟩
  exact ⟨d, judged_of_accounts hlookup hkey haccounts (approved_schemaValid h hx hlookup)⟩

theorem policyDecisions_map (h : Fits decision.intentBatch) {γ : Type}
    (f : PolicyActionDecision → γ) (z : γ) :
    (policyDecisions decision ctx).map f =
      (slots decision.intentBatch).map fun x => (decisionOf decision ctx x).elim z f := by
  have heq := congrArg (List.map fun d => Option.elim d z f)
    (h.decisions_eq .default (CapabilityLevel.forRoute decision.route) ctx)
  rw [List.map_map, List.map_map] at heq
  exact heq

/-! ### Intents -/

theorem wasAuthorized_iff (h : Fits decision.intentBatch) (k : UInt32) :
    Summary.wasAuthorized (audit windowOrdinal decision ctx) k = decide (0 <
      ((policyDecisions decision ctx).filter fun d => d.intentOrdinal == k).countP isApproved) := by
  have hrecords : (audit windowOrdinal decision ctx).map
      (fun r => r.coord.intentOrdinal == k && (r.terminal == .succeeded || r.terminal == .failed)) =
      (policyDecisions decision ctx).map fun d => d.intentOrdinal == k && isApproved d := by
    rw [policyDecisions_map h _ false, eq_comm]
    refine map_eq_map_of_forall₂ ((audit_judged windowOrdinal ctx h).imp ?_)
    rintro x r ⟨d, hd⟩
    rw [hd.lookup, Option.elim_some, ← hd.ordinal, ← hd.executed, wasExecuted]
    cases r.terminal <;> rfl
  have hany := congrArg (List.any · id) hrecords
  simp only [List.any_map] at hany
  refine hany.trans ?_
  rw [Bool.eq_iff_iff, List.any_eq_true, decide_eq_true_eq, List.countP_filter,
    List.countP_pos_iff]
  simp only [Function.comp, id, Bool.and_comm]

def intentKeys (decision : DecisionBackendResult F) : List UInt32 :=
  (List.range decision.intentBatch.intents.length).map UInt32.ofNat

theorem decided_groups (decision : DecisionBackendResult F) (ctx : StructuredContext) :
    (decided decision ctx).map Prod.snd = (intentKeys decision).map fun k =>
      (policyDecisions decision ctx).filter fun d => d.intentOrdinal == k := by
  rw [decided, intentKeys, List.map_map, List.map_map, List.range_eq_range',
    ← List.zipIdx_map_snd, List.map_map]
  rfl

omit [LinearOrder F] [OfScientific F] in
theorem intentKeys_nodup (h : Fits decision.intentBatch) : (intentKeys decision).Nodup := by
  refine List.Nodup.map_on (fun i hi j hj hij => ?_) List.nodup_range
  have hi' := (List.mem_range.mp hi).trans h.intents
  have hj' := (List.mem_range.mp hj).trans h.intents
  have hnat := congrArg UInt32.toNat hij
  rwa [UInt32.toNat_ofNat_of_lt' hi', UInt32.toNat_ofNat_of_lt' hj'] at hnat

theorem intentOrdinal_mem :
    ∀ d ∈ policyDecisions decision ctx, d.intentOrdinal ∈ intentKeys decision := by
  intro d hd
  have hcoords := evaluateBatchWithContext_coords .default decision.intentBatch
    (CapabilityLevel.forRoute decision.route) ctx
  have hkey : coords d ∈ (slots decision.intentBatch).map Slot.key :=
    hcoords ▸ List.mem_map_of_mem hd
  obtain ⟨x, hx, hkey⟩ := List.mem_map.mp hkey
  obtain ⟨⟨intent, i⟩, hi, hx⟩ := List.mem_flatMap.mp hx
  obtain ⟨⟨action, j⟩, -, rfl⟩ := List.mem_map.mp hx
  refine List.mem_map.mpr ⟨i, List.mem_range.mpr ?_, congrArg Prod.fst hkey⟩
  simpa using List.snd_lt_of_mem_zipIdx hi

/-! ### Totals -/

open Tally

def intentsTotal (decision : DecisionBackendResult F) (ctx : StructuredContext) (t : Tally) :
    Nat :=
  ((intentKeys decision).map fun k => ofIntent (decide (0 <
    ((policyDecisions decision ctx).filter fun d =>
      d.intentOrdinal == k).countP isApproved)) t).sum

theorem read_policyWindow (windowOrdinal : UInt32) (ctx : StructuredContext)
    (h : Fits decision.intentBatch) (summary : ReplaySummary) (t : Tally) :
    read (policyWindow windowOrdinal ctx decision summary).1 t = read summary t + UInt64.ofNat
      (intentsTotal decision ctx t +
        ((policyDecisions decision ctx).map (ofDecision · t)).sum) := by
  have hread := read_foldl
    (fun summary (x : Intent F × List PolicyActionDecision) t => read_countPolicy summary x.2 t)
    (decided decision ctx) summary t
  have hgroups : ∀ n : List PolicyActionDecision → Nat,
      (decided decision ctx).map (fun x => n x.2) = (intentKeys decision).map fun k =>
        n ((policyDecisions decision ctx).filter fun d => d.intentOrdinal == k) := by
    intro n
    have hmap := congrArg (List.map n) (decided_groups decision ctx)
    rw [List.map_map, List.map_map] at hmap
    exact hmap
  rw [List.sum_map_add, hgroups fun ds => ofIntent (decide (0 < ds.countP isApproved)) t,
    hgroups fun ds => (ds.map (ofDecision · t)).sum,
    sum_groups (intentKeys_nodup h) intentOrdinal_mem] at hread
  exact hread

theorem read_executeWindow (windowOrdinal : UInt32) (ctx : StructuredContext)
    (h : Fits decision.intentBatch) (summary : ReplaySummary) (t : Tally) :
    read (executeWindow windowOrdinal ctx decision summary).1 t = read summary t + UInt64.ofNat
      (intentsTotal decision ctx t +
        ((audit windowOrdinal decision ctx).map (ofAudit · t)).sum) := by
  simp only [executeWindow]
  rw [read_foldl read_countAudit,
    read_foldl (fun summary (ordinal : Nat) t => read_countIntent summary
      (Summary.wasAuthorized (audit windowOrdinal decision ctx) (UInt32.ofNat ordinal)) t),
    UInt64.ofNat_add, UInt64.add_assoc]
  simp only [wasAuthorized_iff h, intentsTotal, intentKeys, List.map_map]
  rfl

/-! ### Actions -/

/-- The policy's reason against an action whose schema is invalid: only the policy stage
counts it. -/
def unreasoned (decision : DecisionBackendResult F) (ctx : StructuredContext) (x : Slot F) :
    Tally → Nat
  | denialCounts reason => (!schemaValid x &&
      (decisionOf decision ctx x).any (denialOf · == some reason)).toNat
  | _ => 0

theorem not_isApproved (d : PolicyActionDecision) (reason : DenialReason) :
    (!isApproved d && denialOf d == some reason) = (denialOf d == some reason) := by
  unfold isApproved denialOf
  cases d.verdict <;> simp

theorem Judged.ofAudit_add {x : Slot F} {r : AuditRecord} {d : PolicyActionDecision}
    (h : Judged decision ctx x r d) (t : Tally) :
    ofAudit r t + unreasoned decision ctx x t = ofDecision d t := by
  cases t with
  | actionsAuthorized => simp [ofAudit, unreasoned, ofDecision, h.executed]
  | actionsDenied => simp [ofAudit, unreasoned, ofDecision, h.refused]
  | denialCounts reason =>
    simp only [ofAudit, unreasoned, ofDecision, h.refused, h.reason, h.lookup, Option.any_some]
    cases schemaValid x with
    | true => simp [not_isApproved]
    | false => simp
  | _ => rfl

theorem decisions_sum (windowOrdinal : UInt32) (h : Fits decision.intentBatch) (t : Tally) :
    ((policyDecisions decision ctx).map (ofDecision · t)).sum =
      ((audit windowOrdinal decision ctx).map (ofAudit · t)).sum +
        ((slots decision.intentBatch).map (unreasoned decision ctx · t)).sum := by
  rw [policyDecisions_map h _ 0]
  have hjudged := audit_judged windowOrdinal ctx h
  generalize slots decision.intentBatch = xs, audit windowOrdinal decision ctx = rs at hjudged ⊢
  induction hjudged with
  | nil => rfl
  | cons hxr _ ih =>
    obtain ⟨d, hd⟩ := hxr
    rw [List.map_cons, List.map_cons, List.map_cons, List.sum_cons, List.sum_cons, List.sum_cons,
      ih, hd.lookup, Option.elim_some, ← hd.ofAudit_add t]
    omega

/-! ### Sums over the reasons -/

def reasons : List DenialReason :=
  [.riskExceedsConfig, .riskExceedsCapability, .confidenceTooLow, .actionTypeBlocked,
    .actionUrgencyDeferred, .actionCapabilityDenied, .targetNotInContext, .batchActionCapExceeded]

theorem sum_reasons (d : PolicyActionDecision) :
    (reasons.map fun reason => (denialOf d == some reason).toNat).sum = (!isApproved d).toNat := by
  unfold denialOf isApproved
  cases d.verdict with
  | approved => rfl
  | denied reason => cases reason <;> rfl

theorem sum_ofDecision (ds : List PolicyActionDecision) :
    (reasons.map fun reason => (ds.map (ofDecision · (denialCounts reason))).sum).sum =
      (ds.map (ofDecision · actionsDenied)).sum := by
  rw [sum_comm fun reason d => ofDecision d (denialCounts reason)]
  exact congrArg List.sum (List.map_congr_left fun d _ => sum_reasons d)

theorem sum_unreasoned (ctx : StructuredContext) (h : Fits decision.intentBatch) :
    (reasons.map fun reason => ((slots decision.intentBatch).map
      (unreasoned decision ctx · (denialCounts reason))).sum).sum =
      (slots decision.intentBatch).countP fun x => !schemaValid x := by
  rw [sum_comm fun reason x => unreasoned decision ctx x (denialCounts reason), ← sum_toNat]
  refine congrArg List.sum (List.map_congr_left fun x hx => ?_)
  obtain ⟨d, -, hlookup, -⟩ := h.decision .default (CapabilityLevel.forRoute decision.route) ctx hx
  have hd : decisionOf decision ctx x = some d := hlookup
  simp only [unreasoned, hd, Option.any_some]
  cases hvalid : schemaValid x with
  | true => simp
  | false =>
    have hdenied : isApproved d = false := by
      refine decide_eq_false fun hv => ?_
      rw [approved_schemaValid h hx hd hv] at hvalid
      cases hvalid
    simpa [hdenied] using sum_reasons d

/-! ### Agreement -/

def added (stage : Stage) (windowOrdinal : UInt32) (ctx : StructuredContext)
    (decision : DecisionBackendResult F) (summary : ReplaySummary) (t : Tally) : UInt64 :=
  read (governWindow stage windowOrdinal ctx decision summary).1 t - read summary t

/-- The two stages add the same, and each gives a reason for every action it denies. -/
def StagesAgree (windowOrdinal : UInt32) (ctx : StructuredContext)
    (decision : DecisionBackendResult F) : Prop :=
  ∀ summary : ReplaySummary,
    let policy := added .policy windowOrdinal ctx decision summary
    let execute := added .execute windowOrdinal ctx decision summary
    (∀ t, policy t = execute t) ∧
      (reasons.map fun reason => policy (.denialCounts reason)).sum = policy .actionsDenied ∧
      (reasons.map fun reason => execute (.denialCounts reason)).sum = execute .actionsDenied

/-- The actions that the lifecycle rejects before the policy is asked. -/
def schemaRejected (decision : DecisionBackendResult F) : List (Slot F) :=
  (slots decision.intentBatch).filter fun x => !schemaValid x

def executeTotal (windowOrdinal : UInt32) (decision : DecisionBackendResult F)
    (ctx : StructuredContext) (t : Tally) : Nat :=
  intentsTotal decision ctx t + ((audit windowOrdinal decision ctx).map (ofAudit · t)).sum

theorem added_execute (h : Fits decision.intentBatch) (summary : ReplaySummary) (t : Tally) :
    added .execute windowOrdinal ctx decision summary t =
      UInt64.ofNat (executeTotal windowOrdinal decision ctx t) := by
  have hread := read_executeWindow windowOrdinal ctx h summary t
  rw [UInt64.add_comm] at hread
  exact (congrArg (· - read summary t) hread).trans (UInt64.add_sub_cancel _ _)

theorem added_policy (h : Fits decision.intentBatch) (summary : ReplaySummary) (t : Tally) :
    added .policy windowOrdinal ctx decision summary t =
      UInt64.ofNat (executeTotal windowOrdinal decision ctx t) + UInt64.ofNat
        (((slots decision.intentBatch).map (unreasoned decision ctx · t)).sum) := by
  have hread := read_policyWindow windowOrdinal ctx h summary t
  rw [UInt64.add_comm, decisions_sum windowOrdinal h, ← Nat.add_assoc,
    UInt64.ofNat_add] at hread
  exact (congrArg (· - read summary t) hread).trans (UInt64.add_sub_cancel _ _)

theorem sum_ofNat (n : DenialReason → Nat) (rs : List DenialReason) :
    (rs.map fun reason => UInt64.ofNat (n reason)).sum = UInt64.ofNat (rs.map n).sum := by
  induction rs with
  | nil => rfl
  | cons reason rs ih =>
    rw [List.map_cons, List.sum_cons, ih, List.map_cons, List.sum_cons, UInt64.ofNat_add]

theorem sum_unreasoned_eq_zero {t : Tally} (ht : ∀ reason, t ≠ .denialCounts reason)
    (xs : List (Slot F)) : (xs.map (unreasoned decision ctx · t)).sum = 0 := by
  rw [List.sum_eq_zero_iff_forall_eq_nat]
  intro n hn
  obtain ⟨x, -, rfl⟩ := List.mem_map.mp hn
  cases t with
  | denialCounts reason => exact absurd rfl (ht reason)
  | _ => rfl

omit [LinearOrder F] [OfScientific F] in
theorem schemaRejected_length (decision : DecisionBackendResult F) :
    (schemaRejected decision).length = (slots decision.intentBatch).countP fun x =>
      !schemaValid x := List.countP_eq_length_filter.symm

theorem executeTotal_denials (windowOrdinal : UInt32) (ctx : StructuredContext)
    (h : Fits decision.intentBatch) :
    (reasons.map fun reason => executeTotal windowOrdinal decision ctx (denialCounts reason)).sum +
      (schemaRejected decision).length = executeTotal windowOrdinal decision ctx actionsDenied := by
  have hintents : ∀ t, t = actionsDenied ∨ (∃ reason, t = denialCounts reason) →
      intentsTotal decision ctx t = 0 := by
    rintro t (rfl | ⟨reason, rfl⟩) <;> simp [intentsTotal, ofIntent]
  have hdecisions := sum_ofDecision (policyDecisions decision ctx)
  simp only [decisions_sum windowOrdinal h] at hdecisions
  rw [List.sum_map_add, sum_unreasoned ctx h, sum_unreasoned_eq_zero (by simp)] at hdecisions
  rw [schemaRejected_length]
  simpa [executeTotal, hintents] using hdecisions

omit [LinearOrder F] [OfScientific F] in
theorem schemaRejected_length_lt (h : Fits decision.intentBatch) :
    (schemaRejected decision).length < 2 ^ 64 := by
  have hslots : (slots decision.intentBatch).length =
      (decision.intentBatch.intents.map fun intent => intent.suggestedActions.length).sum := by
    rw [slots, List.length_flatMap, ← List.zipIdx_map_fst 0 decision.intentBatch.intents,
      List.map_map, List.zipIdx_map_fst]
    simp only [List.length_map, List.length_zipIdx]
    rfl
  have hsum := List.sum_le_card_nsmul
    (decision.intentBatch.intents.map fun intent => intent.suggestedActions.length) (2 ^ 32)
    (List.forall_mem_map.mpr fun intent hintent => (h.actions intent hintent).le)
  rw [List.length_map, ← hslots] at hsum
  change _ ≤ decision.intentBatch.intents.length * 2 ^ 32 at hsum
  have hfilter : (schemaRejected decision).length ≤ (slots decision.intentBatch).length :=
    List.length_filter_le _ _
  have hintents := h.intents
  omega

section
variable (windowOrdinal : UInt32) (ctx : StructuredContext) (h : Fits decision.intentBatch)
  (summary : ReplaySummary)
include h

theorem added_eq {t : Tally} (ht : ∀ reason, t ≠ .denialCounts reason) :
    added .policy windowOrdinal ctx decision summary t =
      added .execute windowOrdinal ctx decision summary t := by
  rw [added_policy h, added_execute h, sum_unreasoned_eq_zero ht]
  exact UInt64.add_zero _

theorem added_denialCounts (reason : DenialReason) :
    added .policy windowOrdinal ctx decision summary (.denialCounts reason) =
      added .execute windowOrdinal ctx decision summary (.denialCounts reason) +
        UInt64.ofNat ((schemaRejected decision).countP fun x =>
          (decisionOf decision ctx x).any (denialOf · == some reason)) := by
  rw [added_policy h, added_execute h, schemaRejected, List.countP_filter, ← sum_toNat]
  simp only [unreasoned, Bool.and_comm]

theorem execute_reasons :
    (reasons.map fun reason =>
        added .execute windowOrdinal ctx decision summary (.denialCounts reason)).sum +
      UInt64.ofNat (schemaRejected decision).length =
        added .execute windowOrdinal ctx decision summary .actionsDenied := by
  simp only [added_execute h]
  rw [sum_ofNat, ← UInt64.ofNat_add, executeTotal_denials windowOrdinal ctx h]

theorem policy_reasons :
    (reasons.map fun reason =>
        added .policy windowOrdinal ctx decision summary (.denialCounts reason)).sum =
      added .policy windowOrdinal ctx decision summary .actionsDenied := by
  rw [added_eq windowOrdinal ctx h summary (by simp), added_execute h,
    ← executeTotal_denials windowOrdinal ctx h, schemaRejected_length,
    ← sum_unreasoned ctx h, ← List.sum_map_add]
  simp only [added_policy h, ← UInt64.ofNat_add]
  exact sum_ofNat _ _

theorem stagesAgree_iff :
    StagesAgree windowOrdinal ctx decision ↔ schemaRejected decision = [] := by
  constructor
  · intro hagree
    have hsum := execute_reasons windowOrdinal ctx h {}
    rw [(hagree {}).2.2, UInt64.add_eq_left] at hsum
    have hzero := congrArg UInt64.toNat hsum
    rw [UInt64.toNat_ofNat_of_lt' (schemaRejected_length_lt h)] at hzero
    exact List.eq_nil_of_length_eq_zero hzero
  · intro hnone summary
    refine ⟨fun t => ?_, policy_reasons windowOrdinal ctx h summary, ?_⟩
    · cases t with
      | denialCounts reason =>
        rw [added_denialCounts windowOrdinal ctx h, hnone]
        exact UInt64.add_zero _
      | _ => exact added_eq windowOrdinal ctx h summary (by simp)
    · have hsum := execute_reasons windowOrdinal ctx h summary
      rw [hnone] at hsum
      exact (UInt64.add_zero _).symm.trans hsum

end

/-- The policy stage adds to every counter what the execute stage adds, and to the counts of
its reasons those against the actions with an invalid schema, which the execute stage denies
without a reason. -/
theorem governWindow_tallies (windowOrdinal : UInt32) (ctx : StructuredContext)
    (decision : DecisionBackendResult F) (h : Fits decision.intentBatch)
    (summary : ReplaySummary) :
    let policy := added .policy windowOrdinal ctx decision summary
    let execute := added .execute windowOrdinal ctx decision summary
    policy .intentsApproved = execute .intentsApproved ∧
      policy .intentsRejected = execute .intentsRejected ∧
      policy .actionsAuthorized = execute .actionsAuthorized ∧
      policy .actionsDenied = execute .actionsDenied ∧
      (∀ reason, policy (.denialCounts reason) = execute (.denialCounts reason) +
        UInt64.ofNat ((schemaRejected decision).countP fun x =>
          (decisionOf decision ctx x).any (denialOf · == some reason))) ∧
      (reasons.map fun reason => policy (.denialCounts reason)).sum = policy .actionsDenied ∧
      (reasons.map fun reason => execute (.denialCounts reason)).sum +
        UInt64.ofNat (schemaRejected decision).length = execute .actionsDenied ∧
      (StagesAgree windowOrdinal ctx decision ↔ schemaRejected decision = []) :=
  ⟨added_eq _ _ h _ (by simp), added_eq _ _ h _ (by simp), added_eq _ _ h _ (by simp),
    added_eq _ _ h _ (by simp), added_denialCounts _ _ h _, policy_reasons _ _ h _,
    execute_reasons _ _ h _, stagesAgree_iff _ _ h⟩

end

namespace TallySample

def prewarm : DecisionBackendResult ℚ where
  route := .cloudLlm
  intentBatch := ⟨"w", [⟨"i0", .idle, 0.9, .low, [⟨.preWarmProcess, none, .idleTime⟩],
    ["cloud_llm"]⟩], 0, "m"⟩
  rationaleTags := []
  latencyUs := 0
  error := none

end TallySample

open TallySample in
/-- The policy stage has a reason for the denial, the execute stage has none. -/
theorem stagesAgree_fails_untargeted :
    let policy := added .policy 0 emptyContext prewarm {}
    let execute := added .execute 0 emptyContext prewarm {}
    policy .actionsDenied = 1 ∧ policy (.denialCounts .targetNotInContext) = 1 ∧
      execute .actionsDenied = 1 ∧ execute (.denialCounts .targetNotInContext) = 0 ∧
      ¬StagesAgree 0 emptyContext prewarm := by
  intro policy execute
  have hpolicy : policy (.denialCounts .targetNotInContext) = 1 := by decide +kernel
  have hexecute : execute (.denialCounts .targetNotInContext) = 0 := by decide +kernel
  refine ⟨by decide +kernel, hpolicy, by decide +kernel, hexecute, fun hagree => ?_⟩
  have hsame := (hagree {}).1 (.denialCounts .targetNotInContext)
  rw [show added .policy 0 emptyContext prewarm {} _ = _ from hpolicy,
    show added .execute 0 emptyContext prewarm {} _ = _ from hexecute] at hsame
  cases hsame

open TallySample in
theorem governWindow_tallies_untargeted :
    (schemaRejected prewarm).length = 1 ∧
      added .policy 0 emptyContext prewarm {} .actionsDenied =
        added .execute 0 emptyContext prewarm {} .actionsDenied :=
  ⟨by decide +kernel,
    (governWindow_tallies 0 emptyContext prewarm ⟨by decide, by decide⟩ {}).2.2.2.1⟩

end Dipecs.Cli.Replay
