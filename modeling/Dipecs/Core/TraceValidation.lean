import Dipecs.Core.PrivacyAirgap
import Dipecs.Core.TraceEngine

/-! What a validated replay tells.  Times, window and intent identifiers are left out of the
comparison, and confidences are compared up to `f32::EPSILON`. -/

namespace Dipecs.Core

open Dipecs.Spec Dipecs.Library

namespace DefaultTraceEngine

structure IntentsAgree (close : Ieee → Ieee → Prop) (expected actual : Intent Ieee) : Prop where
  intentType : expected.intentType = actual.intentType
  riskLevel : expected.riskLevel = actual.riskLevel
  confidence : close expected.confidence actual.confidence
  rationaleTags : expected.rationaleTags = actual.rationaleTags
  suggestedActions : expected.suggestedActions = actual.suggestedActions

structure BatchesAgree (close : Ieee → Ieee → Prop) (expected actual : IntentBatch Ieee) :
    Prop where
  model : expected.model = actual.model
  intents : List.Forall₂ (IntentsAgree close) expected.intents actual.intents

variable {close close' : Ieee → Ieee → Prop} {expected actual : IntentBatch Ieee}

theorem IntentsAgree.imp {e a : Intent Ieee} (h : IntentsAgree close e a)
    (hclose : close e.confidence a.confidence → close' e.confidence a.confidence) :
    IntentsAgree close' e a :=
  { h with confidence := hclose h.confidence }

theorem BatchesAgree.imp (h : BatchesAgree close expected actual)
    (hclose : ∀ p ∈ expected.intents.zip actual.intents,
      close p.1.confidence p.2.confidence → close' p.1.confidence p.2.confidence) :
    BatchesAgree close' expected actual := by
  obtain ⟨hlen, hall⟩ := Positional.forall₂_iff.mp h.intents
  exact ⟨h.model, Positional.forall₂_iff.mpr ⟨hlen, fun p hp => (hall p hp).imp (hclose p hp)⟩⟩

theorem BatchesAgree.close_of_mem (h : BatchesAgree close expected actual)
    {p : Intent Ieee × Intent Ieee} (hp : p ∈ expected.intents.zip actual.intents) :
    close p.1.confidence p.2.confidence :=
  ((Positional.forall₂_iff.mp h.intents).2 p hp).confidence

section
variable (ρ : Ieee.Rounding) (render : Rendering)

/-- Agreement as documented. -/
abbrev Within (x y : Ieee) : Prop := Ieee.within ρ epsilon x y

/-- Agreement as coded. -/
abbrev NotApart (x y : Ieee) : Prop := Ieee.apart ρ epsilon x y = false

variable {ρ render}

theorem not_epsilon_lt_zero : epsilon.lt (.finite 0) = false := by
  decide +kernel

theorem notApart_iff {x y : Ieee} : NotApart ρ x y ↔ x.isNan ∨ y.isNan ∨ Within ρ x y := by
  constructor
  · intro h
    by_cases hx : x.isNan
    · exact .inl hx
    by_cases hy : y.isNan
    · exact .inr (.inl hy)
    exact .inr (.inr (Ieee.within_of_not_apart rfl (Bool.eq_false_iff.mpr hx)
      (Bool.eq_false_iff.mpr hy) h))
  · rintro (hx | hy | hwithin)
    · exact Ieee.apart_of_isNan (.inl hx)
    · exact Ieee.apart_of_isNan (.inr hy)
    · exact Ieee.not_apart_of_within not_epsilon_lt_zero hwithin

theorem suggestedDiff_eq_none {expected actual : List SuggestedAction}
    (hlen : expected.length = actual.length) :
    suggestedDiff render expected actual = none ↔ expected = actual := by
  rw [← List.forall₂_eq_eq_eq, Positional.forall₂_iff, suggestedDiff, List.findSome?_eq_none_iff]
  refine ⟨fun h => ⟨hlen, Positional.forall_zipIdx_iff.mp fun p hp => ?_⟩, fun h p hp => ?_⟩
  · have hp := h p hp
    rw [ite_eq_left_iff] at hp
    by_contra hne
    cases hp fun heq => hne (suggestedEq_iff.mp heq)
  · rw [if_pos]
    exact suggestedEq_iff.mpr (Positional.forall_zipIdx_iff.mpr h.2 p hp)

theorem intentDiff_eq_none {e a : Intent Ieee} :
    intentDiff ρ render e a = none ↔ IntentsAgree (NotApart ρ) e a := by
  constructor
  · intro h
    unfold intentDiff at h
    split_ifs at h with htype hrisk hapart htags hlen
    have hactions := (suggestedDiff_eq_none (not_not.mp hlen)).mp h
    exact ⟨not_not.mp htype, not_not.mp hrisk, Bool.eq_false_iff.mpr hapart, not_not.mp htags,
      hactions⟩
  · rintro ⟨htype, hrisk, hclose, htags, hactions⟩
    have hlen := congrArg List.length hactions
    rw [intentDiff, if_neg (not_not.mpr htype), if_neg (not_not.mpr hrisk),
      if_neg (Bool.eq_false_iff.mp hclose), if_neg (not_not.mpr htags),
      if_neg (not_not.mpr hlen)]
    exact (suggestedDiff_eq_none hlen).mpr hactions

theorem intentDivergences_eq_nil :
    intentDivergences ρ render expected actual = [] ↔
      BatchesAgree (NotApart ρ) expected actual := by
  have hpairs : ((expected.intents.zip actual.intents).zipIdx.filterMap fun p =>
        (intentDiff ρ render p.1.1 p.1.2).map fun reason => s!"intent[{p.2}]: {reason}") = [] ↔
      ∀ p ∈ expected.intents.zip actual.intents, IntentsAgree (NotApart ρ) p.1 p.2 := by
    simp only [List.filterMap_eq_nil_iff, Option.map_eq_none_iff, intentDiff_eq_none]
    exact Positional.forall_zipIdx_iff
      (p := fun p : Intent Ieee × Intent Ieee => IntentsAgree (NotApart ρ) p.1 p.2)
  rw [intentDivergences, List.append_eq_nil_iff, List.append_eq_nil_iff, hpairs]
  constructor
  · rintro ⟨⟨hmodel, hlen⟩, hall⟩
    refine ⟨?_, Positional.forall₂_iff.mpr ⟨?_, hall⟩⟩
    · by_contra hne
      rw [if_pos hne] at hmodel
      cases hmodel
    · by_contra hne
      rw [if_pos hne] at hlen
      cases hlen
  · rintro ⟨hmodel, hintents⟩
    obtain ⟨hlen, hall⟩ := Positional.forall₂_iff.mp hintents
    exact ⟨⟨if_neg (not_not.mpr hmodel), if_neg (not_not.mpr hlen)⟩, hall⟩

end

def EventsAgreeAt {F : Type} (sanitizer : Nat → RawEvent → SourceTier → SanitizedEvent)
    (golden : GoldenTrace F) (i : Nat) : Prop :=
  ∃ raw expected, golden.rawEvents[i]? = some raw ∧ golden.expectedSanitized[i]? = some expected ∧
    let actual := sanitizer i raw (golden.sourceTiers[i]?.getD .publicApi)
    actual.eventType = expected.eventType ∧ actual.sourceTier = expected.sourceTier ∧
      actual.appPackage = expected.appPackage ∧ actual.uid = expected.uid

def ActionsAgreeAt (expected actual : List ExecutedAction) (i : Nat) : Prop :=
  ∃ e a, expected[i]? = some e ∧ actual[i]? = some a ∧
    e.actionType = a.actionType ∧ e.target = a.target ∧ e.success = a.success ∧
      e.errorReason = a.errorReason

/-- The result tells exactly where each layer differs. -/
structure Exact (ρ : Ieee.Rounding) (sanitizer : Nat → RawEvent → SourceTier → SanitizedEvent)
    (golden : GoldenTrace Ieee) (actualIntents : IntentBatch Ieee)
    (actualExecuted : List ExecutedAction) (r : ReplayResult) : Prop where
  sanitization_increasing : r.sanitizationDivergences.Pairwise (· < ·)
  mem_sanitization : ∀ i, i ∈ r.sanitizationDivergences ↔
    i < max golden.rawEvents.length golden.expectedSanitized.length ∧
      ¬ EventsAgreeAt sanitizer golden i
  execution_increasing : r.executionDivergences.Pairwise (· < ·)
  mem_execution : ∀ i, i ∈ r.executionDivergences ↔
    i < max golden.expectedActions.length actualExecuted.length ∧
      ¬ ActionsAgreeAt golden.expectedActions actualExecuted i
  policy : r.policyMatch ↔ BatchesAgree (Within ρ) golden.expectedIntents actualIntents
  sanitization_flag : r.sanitizationMatch ↔ r.sanitizationDivergences = []
  policy_flag : r.policyMatch ↔ r.policyDivergences = []
  execution_flag : r.executionMatch ↔ r.executionDivergences = []

/-- The batches would agree but for confidences that are not numbers. -/
structure NanHides (ρ : Ieee.Rounding) (expected actual : IntentBatch Ieee) : Prop where
  agree : BatchesAgree (fun x y => x.isNan ∨ y.isNan ∨ Within ρ x y) expected actual
  nan : ∃ p ∈ expected.intents.zip actual.intents,
    p.1.confidence.isNan ∨ p.2.confidence.isNan

section
variable {ρ : Ieee.Rounding} {render : Rendering}
  {sanitizer : Nat → RawEvent → SourceTier → SanitizedEvent} {golden : GoldenTrace Ieee}
  {actualIntents : IntentBatch Ieee} {actualExecuted : List ExecutedAction}

theorem mem_sanitizationDivergences {i : Nat} :
    i ∈ sanitizationDivergences sanitizer golden ↔
      i < max golden.rawEvents.length golden.expectedSanitized.length ∧
        ¬ EventsAgreeAt sanitizer golden i := by
  rw [sanitizationDivergences, Positional.mem_divergences, length_actualSanitized]
  refine and_congr_right fun _ => not_congr ?_
  simp only [Positional.AgreeAt, EventsAgreeAt, getElem?_actualSanitized, sanitizedEq_iff,
    Option.map_eq_some_iff]
  constructor
  · rintro ⟨-, expected, ⟨raw, hraw, rfl⟩, hexpected, hsame⟩
    exact ⟨raw, expected, hraw, hexpected, hsame⟩
  · rintro ⟨raw, expected, hraw, hexpected, hsame⟩
    exact ⟨_, expected, ⟨raw, hraw, rfl⟩, hexpected, hsame⟩

theorem mem_executionDivergences {expected actual : List ExecutedAction} {i : Nat} :
    i ∈ executionDivergences expected actual ↔
      i < max expected.length actual.length ∧ ¬ ActionsAgreeAt expected actual i := by
  rw [executionDivergences, Positional.mem_divergences]
  simp only [Positional.AgreeAt, ActionsAgreeAt, executedEq_iff]

theorem validate_policyMatch :
    (validate ρ render sanitizer golden actualIntents actualExecuted).policyMatch ↔
      BatchesAgree (NotApart ρ) golden.expectedIntents actualIntents :=
  List.isEmpty_iff.trans intentDivergences_eq_nil

theorem nanHides_iff {expected actual : IntentBatch Ieee} :
    NanHides ρ expected actual ↔
      BatchesAgree (NotApart ρ) expected actual ∧ ¬ BatchesAgree (Within ρ) expected actual := by
  constructor
  · rintro ⟨hagree, p, hp, hnan⟩
    refine ⟨hagree.imp fun _ _ => notApart_iff.mpr, fun hwithin => ?_⟩
    obtain ⟨hx, hy⟩ := Ieee.number_of_within (hwithin.close_of_mem hp)
    rw [hx, hy] at hnan
    simp at hnan
  · rintro ⟨hcoded, hwithin⟩
    refine ⟨hcoded.imp fun _ _ => notApart_iff.mp, ?_⟩
    by_contra hnone
    refine hwithin (hcoded.imp fun p hp hclose => ?_)
    rcases notApart_iff.mp hclose with hx | hy | hclose
    · exact absurd ⟨p, hp, .inl hx⟩ hnone
    · exact absurd ⟨p, hp, .inr hy⟩ hnone
    · exact hclose

/-- Validation is exact but where a confidence that is no number hides a difference. -/
theorem validate_exact_iff (ρ : Ieee.Rounding) (render : Rendering)
    (sanitizer : Nat → RawEvent → SourceTier → SanitizedEvent) (golden : GoldenTrace Ieee)
    (actualIntents : IntentBatch Ieee) (actualExecuted : List ExecutedAction) :
    Exact ρ sanitizer golden actualIntents actualExecuted
        (validate ρ render sanitizer golden actualIntents actualExecuted) ↔
      ¬ NanHides ρ golden.expectedIntents actualIntents := by
  rw [nanHides_iff]
  constructor
  · rintro hexact ⟨hcoded, hwithin⟩
    exact hwithin (hexact.policy.mp (validate_policyMatch.mpr hcoded))
  · intro hnan
    exact
      { sanitization_increasing := Positional.divergences_increasing _ _
        mem_sanitization := fun _ => mem_sanitizationDivergences
        execution_increasing := Positional.divergences_increasing _ _
        mem_execution := fun _ => mem_executionDivergences
        policy := by
          rw [validate_policyMatch]
          refine ⟨fun hcoded => by_contra fun h => hnan ⟨hcoded, h⟩, fun h => ?_⟩
          exact h.imp fun _ _ hclose => notApart_iff.mpr (.inr (.inr hclose))
        sanitization_flag := List.isEmpty_iff
        policy_flag := List.isEmpty_iff
        execution_flag := List.isEmpty_iff }

end

/-! A replay whose confidence came out as `nan`, against an expected 0.9. -/

def sampleBatch (confidence : Ieee) : IntentBatch Ieee :=
  ⟨"w", [⟨"i", .idle, confidence, .low, [⟨.noOp, none, .immediate⟩], ["idle"]⟩], 0, "rules"⟩

def sampleTrace : GoldenTrace Ieee :=
  ⟨"t", 0, 10, [], [], sampleBatch (.finite (9 / 10)), [], []⟩

def sampleRendering : Rendering := ⟨id, fun _ => "?"⟩

def sampleSanitizer (_ : Nat) (raw : RawEvent) (tier : SourceTier) : SanitizedEvent :=
  PrivacyAirGap.sanitizeWithTier id "e" raw tier

theorem nan_confidence_matches :
    (validate .exact sampleRendering sampleSanitizer sampleTrace (sampleBatch .nan) []).allMatch ∧
      ¬ Exact .exact sampleSanitizer sampleTrace (sampleBatch .nan) []
        (validate .exact sampleRendering sampleSanitizer sampleTrace (sampleBatch .nan) []) := by
  have hmatch : (validate .exact sampleRendering sampleSanitizer sampleTrace
      (sampleBatch .nan) []).allMatch := by decide
  refine ⟨hmatch, fun hexact => ?_⟩
  have hpolicy := (Bool.and_eq_true_iff.mp (Bool.and_eq_true_iff.mp hmatch).1).2
  have hclose := (hexact.policy.mp hpolicy).close_of_mem List.mem_cons_self
  cases (Ieee.number_of_within hclose).2

end DefaultTraceEngine

end Dipecs.Core
