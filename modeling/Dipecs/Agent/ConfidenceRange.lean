import Dipecs.Agent.CandidateSelection
import Mathlib.Algebra.Order.Ring.Unbundled.Rat
import Mathlib.Tactic.Linarith
import Mathlib.Tactic.NormNum.OfScientific
import Mathlib.Tactic.Ring

/-! The confidences of the local evaluator in exact decimal arithmetic.  The clamp of a score
comes before the penalties for recent feedback, so a score can end below zero. -/

namespace Dipecs.Agent.LocalEvaluator

open Dipecs.Spec Dipecs.Core Dipecs.Library

/-! ### Scores in hundredths -/

def points (condition : Bool) (n : Nat) : Nat := if condition then n else 0

@[simp] theorem points_false (n : Nat) : points false n = 0 := rfl

theorem points_le (condition : Bool) (n : Nat) : points condition n ≤ n := by
  cases condition <;> simp [points]

def windowPoints (signals : WindowSignals) (userVisibleHint : Bool) : Nat :=
  points (signals.lowBattery && !signals.charging) 18 + points signals.cellular 6 +
    points signals.offline 20 + points (signals.screenNoninteractive && userVisibleHint) 12

def actionPoints (a : WindowAggregation) (action : SuggestedAction) : Nat :=
  let key := feedbackActionKey action.actionType.debug action.target
  points (containsKey a.recentPolicyRejections key) 12 +
    points (containsKey a.recentExecutionFailures key) 8

def feedbackPoints (a : WindowAggregation) (actions : List SuggestedAction) : Nat :=
  (actions.map (actionPoints a)).sum

/-- The boosts of a package seen in the foreground: the group of behavior is capped. -/
def transitionPoints (a : WindowAggregation) (package : String) : Nat :=
  points (decide ((a.packageCounts.lookup package).getD 0 ≥ 2)) 4 +
    points (a.isRecentForeground package) 3 +
    min 5 (points (containsKey a.frequentForegroundApps package) 3 +
      points (containsKey a.frequentNotifyingApps package) 3)

theorem Score.addIf_penalty (s : Score ℚ) (condition : Bool) {delta : ℚ} (n : Nat)
    (h : delta = -(n / 100 : ℚ)) (tag : String) :
    (s.addIf condition delta tag).value = s.value - (points condition n : ℚ) / 100 := by
  cases condition
  · simp [Score.addIf, points]
  · simp [Score.addIf, Score.add, points, h, sub_eq_add_neg]

theorem Score.applyWindow_value (s : Score ℚ) (signals : WindowSignals) (userVisibleHint : Bool) :
    (s.applyWindow signals userVisibleHint).value =
      min (max (s.value - (windowPoints signals userVisibleHint : ℚ) / 100) 0) (99 / 100) := by
  unfold Score.applyWindow
  dsimp only
  rw [Score.addIf_penalty _ _ 12 (by norm_num), Score.addIf_penalty _ _ 20 (by norm_num),
    Score.addIf_penalty _ _ 6 (by norm_num), Score.addIf_penalty _ _ 18 (by norm_num)]
  have hsum : ∀ a b c d : ℚ, s.value - a / 100 - b / 100 - c / 100 - d / 100 =
      s.value - (a + b + c + d) / 100 := fun a b c d => by ring
  rw [hsum, windowPoints]
  push_cast
  norm_num

theorem applyActionFeedback_value (a : WindowAggregation) (actions : List SuggestedAction)
    (s : Score ℚ) :
    (a.applyActionFeedback actions s).value = s.value - (feedbackPoints a actions : ℚ) / 100 := by
  unfold WindowAggregation.applyActionFeedback
  induction actions generalizing s with
  | nil => simp [feedbackPoints]
  | cons action actions ih =>
    rw [List.foldl_cons, ih]
    dsimp only
    rw [Score.addIf_penalty _ _ 8 (by norm_num), Score.addIf_penalty _ _ 12 (by norm_num)]
    simp only [feedbackPoints, List.map_cons, List.sum_cons, actionPoints]
    push_cast
    ring

theorem Score.le_addGrouped (s : Score ℚ) (group : BoostGroup) (delta : ℚ) (tag : String) :
    s.value ≤ (s.addGrouped group delta tag).value := by
  unfold Score.addGrouped
  dsimp only
  split
  · exact le_rfl
  · rename_i hpos
    have hle : (0 : ℚ) ≤ min delta (max (s.remaining group) 0.0) := by
      have hzero : (0.0 : ℚ) = 0 := by norm_num
      exact hzero ▸ (not_le.mp hpos).le
    cases group <;> exact le_add_of_nonneg_right hle

theorem Score.le_addGroupedIf (s : Score ℚ) (condition : Prop) [Decidable condition]
    (group : BoostGroup) (delta : ℚ) (tag : String) :
    s.value ≤ (if condition then s.addGrouped group delta tag else s).value := by
  split
  · exact s.le_addGrouped group delta tag
  · exact le_rfl

theorem le_applyPackageBoost (a : WindowAggregation) (package : Option String)
    (s : Score ℚ) : s.value ≤ (a.applyPackageBoost package s).value := by
  cases package with
  | none => exact le_rfl
  | some package =>
    refine (s.le_addGroupedIf _ .package 0.04 "local:boost:repeated_package_in_window").trans
      ((Score.le_addGroupedIf _ _ .behavior 0.03 "local:boost:frequent_foreground_app").trans
        (Score.le_addGroupedIf _ _ .behavior 0.03 "local:boost:frequent_notifying_app"))

theorem le_applyCorrelation (delta : Option Int) (tag : String) (s : Score ℚ) :
    s.value ≤ (WindowAggregation.applyCorrelation delta tag s).value := by
  unfold WindowAggregation.applyCorrelation
  split
  · split
    · exact s.le_addGrouped ..
    · exact s.le_addGrouped ..
  · exact le_rfl

def Score.had (s : Score ℚ) : BoostGroup → ℚ
  | .package => s.packageBoost
  | .behavior => s.behaviorBoost
  | .correlation => s.correlationBoost

def groupCap : BoostGroup → Nat
  | .package => 8
  | .behavior => 5
  | .correlation => 8

structure Score.At (s : Score ℚ) (v : Nat) (used : BoostGroup → Nat) : Prop where
  value : s.value = (v : ℚ) / 100
  had : ∀ group, s.had group = (used group : ℚ) / 100
  used_le : ∀ group, used group ≤ groupCap group

theorem applied_eq {n used cap : Nat} (h : used ≤ cap) :
    min ((n : ℚ) / 100) (max ((cap : ℚ) / 100 - (used : ℚ) / 100) 0.0) =
      ((min n (cap - used) : Nat) : ℚ) / 100 := by
  have hrest : max ((cap : ℚ) / 100 - (used : ℚ) / 100) 0.0 = ((cap - used : Nat) : ℚ) / 100 := by
    have hcast : (used : ℚ) ≤ cap := by exact_mod_cast h
    rw [max_eq_left (by norm_num; linarith), Nat.cast_sub h]
    ring
  rw [hrest]
  rcases le_total n (cap - used) with hle | hle
  · have hcast : (n : ℚ) ≤ (cap - used : Nat) := by exact_mod_cast hle
    rw [min_eq_left hle, min_eq_left (by linarith)]
  · have hcast : ((cap - used : Nat) : ℚ) ≤ n := by exact_mod_cast hle
    rw [min_eq_right hle, min_eq_right (by linarith)]

theorem Score.remaining_eq {s : Score ℚ} (group : BoostGroup) :
    s.remaining group = (groupCap group : ℚ) / 100 - s.had group := by
  cases group <;> simp only [Score.remaining, groupCap, Score.had] <;> norm_num

theorem Score.had_with (s : Score ℚ) (value : ℚ) (tags : List String) (g : BoostGroup) :
    ({ s with value := value, tags := tags } : Score ℚ).had g = s.had g := by
  cases g <;> rfl

theorem Score.had_boost (s : Score ℚ) (applied : ℚ) (group g : BoostGroup) :
    (s.boost applied group).had g = s.had g + if g = group then applied else 0 := by
  cases group <;> cases g <;> simp [Score.boost, Score.had]

def granted (used : BoostGroup → Nat) (group : BoostGroup) (n : Nat) : Nat :=
  min n (groupCap group - used group)

theorem Score.At.addGrouped {s : Score ℚ} {v : Nat} {used : BoostGroup → Nat} (h : s.At v used)
    (group : BoostGroup) {delta : ℚ} (n : Nat) (hdelta : delta = n / 100) (tag : String) :
    (s.addGrouped group delta tag).At (v + granted used group n)
      (Function.update used group (used group + granted used group n)) := by
  have happlied : min delta (max (s.remaining group) 0.0) = (granted used group n : ℚ) / 100 := by
    rw [hdelta, Score.remaining_eq, h.had, applied_eq (h.used_le group), granted]
  have hle : ∀ g,
      Function.update used group (used group + granted used group n) g ≤ groupCap g := by
    intro g
    rw [Function.update_apply]
    split
    · rename_i hg
      have := h.used_le g
      rw [hg] at this ⊢
      exact Nat.add_le_of_le_sub' this (Nat.min_le_right _ _)
    · exact h.used_le g
  unfold Score.addGrouped
  dsimp only
  rw [happlied]
  split
  · -- nothing was left in the group
    rename_i hnone
    have hzero : granted used group n = 0 := by
      by_contra hne
      have hpos : (0 : ℚ) < granted used group n := by exact_mod_cast Nat.pos_of_ne_zero hne
      have hdecimal : (0.0 : ℚ) = 0 := by norm_num
      linarith [hdecimal ▸ hnone]
    rw [hzero, Nat.add_zero, Nat.add_zero, Function.update_eq_self]
    exact ⟨h.value, fun g => (s.had_with _ _ g).trans (h.had g), h.used_le⟩
  · refine ⟨?_, fun g => ?_, hle⟩
    · cases group <;> simp only [Score.boost, h.value, Nat.cast_add] <;> ring
    · rw [Score.had_boost, Function.update_apply]
      rw [Score.had_with, h.had]
      split
      · rename_i hg
        rw [hg, Nat.cast_add]
        ring
      · rw [add_zero]

theorem Score.At.addGroupedIf {s : Score ℚ} {v : Nat} {used : BoostGroup → Nat} (h : s.At v used)
    (condition : Prop) [Decidable condition] (group : BoostGroup) {delta : ℚ} (n : Nat)
    (hdelta : delta = n / 100) (tag : String) :
    (if condition then s.addGrouped group delta tag else s).At
      (v + granted used group (points (decide condition) n))
      (Function.update used group
        (used group + granted used group (points (decide condition) n))) := by
  by_cases hc : condition
  · simpa [hc, points] using h.addGrouped group n hdelta tag
  · simpa [hc, points, granted] using h

/-! ### The candidates of a window -/

def transitionActions (package : String) : List SuggestedAction :=
  [⟨.preWarmProcess, some ("pkg:" ++ package), .immediate⟩,
    ⟨.keepAlive, some "work:collector_heartbeat", .immediate⟩]

/-- The score of a transition before the window's penalties: its boosts never reach a cap that
the group of behavior does not account for. -/
theorem transition_boosts (a : WindowAggregation) (package : String) :
    (if a.isRecentForeground package then
        (a.applyPackageBoost (some package) ((Score.new (0.78 : ℚ)).add 0.04
          "local:boost:foreground")).addGrouped .package 0.03 "local:boost:recent_foreground"
      else a.applyPackageBoost (some package) ((Score.new (0.78 : ℚ)).add 0.04
          "local:boost:foreground")).value =
      ((82 + transitionPoints a package : Nat) : ℚ) / 100 := by
  have hstart : ((Score.new (0.78 : ℚ)).add 0.04 "local:boost:foreground").At 82 fun _ => 0 :=
    ⟨by simp only [Score.add, Score.new, Score.withTags]; norm_num,
      fun g => by
        cases g <;> simp only [Score.add, Score.new, Score.withTags, Score.had] <;> norm_num,
      fun g => Nat.zero_le _⟩
  have hboosts := (((hstart.addGroupedIf ((a.packageCounts.lookup package).getD 0 ≥ 2) .package 4
    (by norm_num : (0.04 : ℚ) = (4 : Nat) / 100)
    "local:boost:repeated_package_in_window").addGroupedIf
    (containsKey a.frequentForegroundApps package) .behavior 3
    (by norm_num : (0.03 : ℚ) = (3 : Nat) / 100) "local:boost:frequent_foreground_app").addGroupedIf
    (containsKey a.frequentNotifyingApps package) .behavior 3
    (by norm_num : (0.03 : ℚ) = (3 : Nat) / 100) "local:boost:frequent_notifying_app").addGroupedIf
    (a.isRecentForeground package) .package 3
    (by norm_num : (0.03 : ℚ) = (3 : Nat) / 100) "local:boost:recent_foreground"
  refine hboosts.value.trans ?_
  congr 2
  simp only [transitionPoints, Bool.decide_eq_true]
  cases decide ((a.packageCounts.lookup package).getD 0 ≥ 2) <;>
    cases containsKey a.frequentForegroundApps package <;>
    cases containsKey a.frequentNotifyingApps package <;>
    cases a.isRecentForeground package <;> rfl

theorem transitionPoints_le (a : WindowAggregation) (package : String) :
    transitionPoints a package ≤ 12 := by
  have := points_le (decide ((a.packageCounts.lookup package).getD 0 ≥ 2)) 4
  have := points_le (a.isRecentForeground package) 3
  unfold transitionPoints
  omega

theorem windowPoints_le (signals : WindowSignals) (userVisibleHint : Bool) :
    windowPoints signals userVisibleHint ≤ 44 +
      points (signals.screenNoninteractive && userVisibleHint) 12 := by
  have := points_le (signals.lowBattery && !signals.charging) 18
  have := points_le signals.cellular 6
  have := points_le signals.offline 20
  unfold windowPoints
  omega

/-- The penalties for recent feedback come after the clamp, which never bites. -/
theorem transitionCandidate_confidence (a : WindowAggregation) (signals : WindowSignals)
    (package : String) :
    (transitionCandidate a signals package : IntentCandidate ℚ).confidence =
      ((82 + transitionPoints a package : Nat) : ℚ) / 100 - (windowPoints signals true : ℚ) / 100 -
        (feedbackPoints a (transitionActions package) : ℚ) / 100 := by
  have hupper : ((82 + transitionPoints a package : Nat) : ℚ) ≤ 94 := by
    exact_mod_cast Nat.add_le_add_left (transitionPoints_le a package) 82
  have hlower : (82 : ℚ) ≤ ((82 + transitionPoints a package : Nat) : ℚ) := by
    exact_mod_cast Nat.le_add_right 82 _
  have hwindow : (windowPoints signals true : ℚ) ≤ 56 := by
    have := windowPoints_le signals true
    have := points_le (signals.screenNoninteractive && true) 12
    exact_mod_cast (by omega : windowPoints signals true ≤ 56)
  have hnonneg : (0 : ℚ) ≤ windowPoints signals true := Nat.cast_nonneg _
  unfold transitionCandidate IntentCandidate.new
  dsimp only
  rw [applyActionFeedback_value, Score.applyWindow_value, transition_boosts,
    max_eq_left (by linarith), min_eq_left (by linarith)]
  rfl

theorem feedbackPoints_singleton_le (a : WindowAggregation) (action : SuggestedAction) :
    feedbackPoints a [action] ≤ 20 := by
  have := points_le (containsKey a.recentPolicyRejections
    (feedbackActionKey action.actionType.debug action.target)) 12
  have := points_le (containsKey a.recentExecutionFailures
    (feedbackActionKey action.actionType.debug action.target)) 8
  simp only [feedbackPoints, List.map_cons, List.map_nil, List.sum_cons, List.sum_nil, actionPoints]
  omega

theorem feedback_le (a : WindowAggregation) (actions : List SuggestedAction) (s : Score ℚ)
    (signals : WindowSignals) (userVisibleHint : Bool) :
    (a.applyActionFeedback actions (s.applyWindow signals userVisibleHint)).value ≤ 0.99 := by
  rw [applyActionFeedback_value, Score.applyWindow_value]
  have hclamp := min_le_right (max (s.value - (windowPoints signals userVisibleHint : ℚ) / 100) 0)
    (99 / 100)
  have hfeedback : (0 : ℚ) ≤ feedbackPoints a actions := Nat.cast_nonneg _
  have hmost : (0.99 : ℚ) = 99 / 100 := by norm_num
  linarith

theorem feedback_nonneg (a : WindowAggregation) (action : SuggestedAction) {s : Score ℚ}
    (hs : 64 / 100 ≤ s.value) {signals : WindowSignals} {userVisibleHint : Bool}
    (hwindow : windowPoints signals userVisibleHint ≤ 44) :
    0 ≤ (a.applyActionFeedback [action] (s.applyWindow signals userVisibleHint)).value := by
  rw [applyActionFeedback_value, Score.applyWindow_value]
  have hpenalty : (windowPoints signals userVisibleHint : ℚ) ≤ 44 := by exact_mod_cast hwindow
  have hfeedback : (feedbackPoints a [action] : ℚ) ≤ 20 := by
    exact_mod_cast feedbackPoints_singleton_le a action
  have hclamp : (20 / 100 : ℚ) ≤
      min (max (s.value - (windowPoints signals userVisibleHint : ℚ) / 100) 0) (99 / 100) :=
    le_min (le_max_of_le_left (by linarith)) (by norm_num)
  linarith

theorem fileCandidate_nonneg (a : WindowAggregation) (signals : WindowSignals) (timestampMs : Int)
    (package : Option String) (category : ExtensionCategory) (isHotFile : Bool) :
    0 ≤ (fileCandidate a signals timestampMs package category isHotFile :
      IntentCandidate ℚ).confidence := by
  have hstart : 64 / 100 ≤ ((Score.new (if isHotFile then (0.80 : ℚ) else 0.72)).addIf isHotFile
      0.06 "local:boost:hot_file").value := by
    cases isHotFile <;> simp only [Score.addIf, Score.add, Score.new, Score.withTags] <;> norm_num
  refine feedback_nonneg a _ ?_ (by simpa using windowPoints_le signals false)
  refine (hstart.trans (le_applyPackageBoost a package _)).trans ?_
  unfold WindowAggregation.applyFileNotificationBoost
  cases package with
  | none => exact le_rfl
  | some package => exact le_applyCorrelation _ _ _

theorem notificationCandidate_nonneg (a : WindowAggregation) {signals : WindowSignals}
    (hscreen : signals.screenNoninteractive = false) (timestampMs : Int) (package : String)
    (hints : List SemanticHint) (isOngoing : Bool) :
    0 ≤ (notificationCandidate a signals timestampMs package hints isOngoing :
      IntentCandidate ℚ).confidence := by
  have hstart : 64 / 100 ≤ (((Score.new (if isOngoing then (0.66 : ℚ) else 0.74)).addIf
      (signals.foregroundApps.contains package) 0.08
        "local:boost:foreground_notification_app").addIf (hints.contains .linkAttachment) 0.03
        "local:boost:link_attachment").value := by
    cases isOngoing <;> cases signals.foregroundApps.contains package <;>
      cases hints.contains .linkAttachment <;>
      simp only [Score.addIf, Score.add, Score.new, Score.withTags] <;> norm_num
  have hwindow : windowPoints signals true ≤ 44 := by
    simpa [hscreen, points] using windowPoints_le signals true
  exact feedback_nonneg a _ ((hstart.trans (le_applyPackageBoost a (some package) _)).trans
    (le_applyCorrelation _ _ _)) hwindow

theorem interAppCandidate_nonneg (a : WindowAggregation) (signals : WindowSignals) :
    0 ≤ (interAppCandidate a signals : IntentCandidate ℚ).confidence :=
  feedback_nonneg a _ (by simp only [Score.new, Score.withTags]; norm_num)
    (by simpa using windowPoints_le signals false)

theorem batteryCandidates_range (a : WindowAggregation) (signals : WindowSignals) :
    ∀ c ∈ (batteryCandidates a signals : List (IntentCandidate ℚ)),
      0 ≤ c.confidence ∧ c.confidence ≤ 0.99 := by
  intro c hc
  unfold batteryCandidates at hc
  split at hc
  · obtain rfl := List.mem_singleton.mp hc
    have hfeedback : (feedbackPoints a [⟨.releaseMemory, some "cache:prefetch", .immediate⟩] : ℚ) ≤
        20 := by exact_mod_cast feedbackPoints_singleton_le a _
    have hnonneg : (0 : ℚ) ≤
        feedbackPoints a [⟨.releaseMemory, some "cache:prefetch", .immediate⟩] := Nat.cast_nonneg _
    simp only [IntentCandidate.new, applyActionFeedback_value, Score.withTags]
    norm_num
    constructor <;> linarith
  · exact absurd hc List.not_mem_nil

/-- A foreground transition whose penalties exceed its score: in hundredths, the base of 82 and
the boosts are less than what the window and the feedback on the two actions take off. -/
def Overdrawn (a : WindowAggregation) (signals : WindowSignals) (e : SanitizedEvent) : Prop :=
  match e.eventType with
  | .appTransition package _ .foreground =>
    82 + transitionPoints a package <
      windowPoints signals true + feedbackPoints a (transitionActions package)
  | _ => False

instance (a : WindowAggregation) (signals : WindowSignals) (e : SanitizedEvent) :
    Decidable (Overdrawn a signals e) := by
  unfold Overdrawn
  split <;> infer_instance

theorem isPolicyAware_prewarm_pkg {signals : WindowSignals} (package : String)
    (h : signals.screenNoninteractive = true) :
    isPolicyAwareAction ⟨.preWarmProcess, some ("pkg:" ++ package), .immediate⟩ signals =
      false := by
  have hprefix : Text.startsWith "pkg:" ("pkg:" ++ package) = true :=
    Text.startsWith_iff.mpr ⟨package, rfl⟩
  simp [isPolicyAwareAction, isSafePrewarmTarget, h, hprefix]

theorem candidateOf_range {a : WindowAggregation} {signals : WindowSignals} {e : SanitizedEvent}
    {c : IntentCandidate ℚ} (hc : candidateOf a signals e = some c)
    (hsurvives : (filterActions signals c).actions ≠ []) :
    (0 ≤ c.confidence ↔ ¬ Overdrawn a signals e) ∧ c.confidence ≤ 0.99 := by
  unfold candidateOf candidateType at hc
  unfold Overdrawn
  split at hc <;> rename_i heq <;> simp only [heq]
  · obtain rfl := Option.some.inj hc
    exact ⟨by simp [fileCandidate_nonneg], feedback_le ..⟩
  · split at hc
    · obtain rfl := Option.some.inj hc
      -- with the screen off the only action of the candidate is filtered out
      have hscreen : signals.screenNoninteractive = false := by
        by_contra hne
        refine hsurvives ?_
        simp [filterActions, notificationCandidate, IntentCandidate.new,
          isPolicyAware_prewarm_pkg _ (by simpa using hne)]
      exact ⟨by simp [notificationCandidate_nonneg a hscreen], feedback_le ..⟩
    · cases hc
  · obtain rfl := Option.some.inj hc
    refine ⟨?_, feedback_le ..⟩
    rw [transitionCandidate_confidence, not_lt, ← Nat.cast_le (α := ℚ)]
    push_cast
    constructor <;> intro h <;> linarith
  · obtain rfl := Option.some.inj hc
    exact ⟨by simp [interAppCandidate_nonneg], feedback_le ..⟩
  · obtain rfl := Option.some.inj hc
    exact ⟨by simp [interAppCandidate_nonneg], feedback_le ..⟩
  · cases hc

def candidatesOf (a : WindowAggregation) (signals : WindowSignals) (p : SanitizedEvent → Prop)
    [DecidablePred p] (events : List SanitizedEvent) : List (IntentCandidate ℚ) :=
  (events.filter fun e => decide (p e)).filterMap (candidateOf a signals)

/-- The candidates whose actions survive, apart from overdrawn transitions. -/
def soundCandidates (a : WindowAggregation) (signals : WindowSignals)
    (events : List SanitizedEvent) : List (IntentCandidate ℚ) :=
  survivors (candidatesOf a signals (fun e => ¬ Overdrawn a signals e) events ++
    batteryCandidates a signals) signals

def overdrawnCandidates (a : WindowAggregation) (signals : WindowSignals)
    (events : List SanitizedEvent) : List (IntentCandidate ℚ) :=
  survivors (candidatesOf a signals (Overdrawn a signals) events) signals

theorem mem_survivors {candidates : List (IntentCandidate ℚ)} {signals : WindowSignals}
    {c : IntentCandidate ℚ} :
    c ∈ survivors candidates signals ↔
      ∃ c' ∈ candidates, filterActions signals c' = c ∧ c.actions ≠ [] := by
  simp only [survivors, List.mem_filter, List.mem_map, Bool.not_eq_true', List.isEmpty_eq_false_iff]
  constructor
  · rintro ⟨⟨c', hc', hfilter⟩, hne⟩
    exact ⟨c', hc', hfilter, hne⟩
  · rintro ⟨c', hc', hfilter, hne⟩
    exact ⟨⟨c', hc', hfilter⟩, hne⟩

theorem mem_candidatesOf {a : WindowAggregation} {signals : WindowSignals}
    {p : SanitizedEvent → Prop} [DecidablePred p] {events : List SanitizedEvent}
    {c : IntentCandidate ℚ} :
    c ∈ candidatesOf a signals p events ↔
      ∃ e ∈ events, p e ∧ candidateOf a signals e = some c := by
  simp only [candidatesOf, List.mem_filterMap, List.mem_filter, decide_eq_true_eq, and_assoc]

theorem mem_survivors_append {l l' : List (IntentCandidate ℚ)} {signals : WindowSignals}
    {c : IntentCandidate ℚ} :
    c ∈ survivors (l ++ l') signals ↔ c ∈ survivors l signals ∨ c ∈ survivors l' signals := by
  simp [survivors]

theorem mem_survivors_window {a : WindowAggregation} {signals : WindowSignals}
    {events : List SanitizedEvent} {c : IntentCandidate ℚ} :
    c ∈ survivors (events.filterMap (candidateOf a signals) ++ batteryCandidates a signals)
        signals ↔
      c ∈ soundCandidates a signals events ∨ c ∈ overdrawnCandidates a signals events := by
  have hsplit : c ∈ survivors (events.filterMap (candidateOf a signals)) signals ↔
      c ∈ survivors (candidatesOf a signals (fun e => ¬ Overdrawn a signals e) events) signals ∨
        c ∈ survivors (candidatesOf a signals (Overdrawn a signals) events) signals := by
    simp only [mem_survivors, mem_candidatesOf, List.mem_filterMap]
    constructor
    · rintro ⟨c', ⟨e, he, hce⟩, hc⟩
      by_cases hover : Overdrawn a signals e
      · exact .inr ⟨c', ⟨e, he, hover, hce⟩, hc⟩
      · exact .inl ⟨c', ⟨e, he, hover, hce⟩, hc⟩
    · rintro (⟨c', ⟨e, he, -, hce⟩, hc⟩ | ⟨c', ⟨e, he, -, hce⟩, hc⟩) <;>
        exact ⟨c', ⟨e, he, hce⟩, hc⟩
  rw [soundCandidates, overdrawnCandidates, mem_survivors_append, mem_survivors_append, hsplit,
    or_right_comm]

theorem soundCandidates_range {a : WindowAggregation} {signals : WindowSignals}
    {events : List SanitizedEvent} {c : IntentCandidate ℚ}
    (hc : c ∈ soundCandidates a signals events) : 0 ≤ c.confidence ∧ c.confidence ≤ 0.99 := by
  obtain ⟨c', hc', rfl, hne⟩ := mem_survivors.mp hc
  rcases List.mem_append.mp hc' with hc' | hc'
  · obtain ⟨e, -, hover, hce⟩ := mem_candidatesOf.mp hc'
    exact ⟨(candidateOf_range hce hne).1.mpr hover, (candidateOf_range hce hne).2⟩
  · exact batteryCandidates_range a signals c' hc'

theorem overdrawnCandidates_neg {a : WindowAggregation} {signals : WindowSignals}
    {events : List SanitizedEvent} {c : IntentCandidate ℚ}
    (hc : c ∈ overdrawnCandidates a signals events) : c.confidence < 0 := by
  obtain ⟨c', hc', rfl, hne⟩ := mem_survivors.mp hc
  obtain ⟨e, -, hover, hce⟩ := mem_candidatesOf.mp hc'
  exact not_le.mp fun h => (candidateOf_range hce hne).1.mp h hover

/-! ### What is chosen -/

theorem mem_keySet {l : List (IntentCandidate ℚ)} {k : String} :
    k ∈ keySet l ↔ ∃ c ∈ l, candidateKey c = k := by
  simp [keySet]

theorem Selects.nonneg_iff {sound overdrawn group chosen : List (IntentCandidate ℚ)}
    {maxIntents : Nat} (h : Selects group maxIntents chosen)
    (hgroup : ∀ c, c ∈ group ↔ c ∈ sound ∨ c ∈ overdrawn)
    (hsound : ∀ c ∈ sound, 0 ≤ c.confidence) (hover : ∀ c ∈ overdrawn, c.confidence < 0) :
    (∀ i ∈ chosen, 0 ≤ i.confidence) ↔
      keySet overdrawn ⊆ keySet sound ∨ maxIntents ≤ (keySet sound).card := by
  have hchosen : (keySet chosen).card = chosen.length := by
    rw [keySet, List.toFinset_card_of_nodup h.keys_nodup, List.length_map]
  have hsub : keySet sound ⊆ keySet group := by
    intro k hk
    obtain ⟨c, hc, rfl⟩ := mem_keySet.mp hk
    exact mem_keySet.mpr ⟨c, (hgroup c).mpr (.inl hc), rfl⟩
  -- a key with a sound candidate is chosen, if at all, at a confidence of zero or more
  have hnonneg : ∀ i ∈ chosen, candidateKey i ∈ keySet sound → 0 ≤ i.confidence := by
    intro i hi hk
    obtain ⟨c, hc, hkey⟩ := mem_keySet.mp hk
    exact (hsound c hc).trans ((h.greatest i hi).2 ⟨c, (hgroup c).mpr (.inl hc), hkey, rfl⟩)
  constructor
  · intro hall
    have hkeys : keySet chosen ⊆ keySet sound := by
      intro k hk
      obtain ⟨i, hi, rfl⟩ := mem_keySet.mp hk
      obtain ⟨c, hc, hkey, hconfidence⟩ := (h.greatest i hi).1
      refine mem_keySet.mpr ⟨c, ((hgroup c).mp hc).resolve_right fun hc' => ?_, hkey⟩
      exact absurd (hall i hi) (not_le.mpr (hconfidence ▸ hover c hc'))
    by_cases hfull : maxIntents ≤ (keySet sound).card
    · exact .inr hfull
    · refine .inl fun k hk => ?_
      have hcard := Finset.card_le_card hkeys
      have hgroupCard := Finset.card_le_card hsub
      have heq : keySet sound = keySet group := by
        refine Finset.eq_of_subset_of_card_le hsub ?_
        have := h.length_eq
        omega
      obtain ⟨c, hc, rfl⟩ := mem_keySet.mp hk
      rw [heq]
      exact mem_keySet.mpr ⟨c, (hgroup c).mpr (.inr hc), rfl⟩
  · intro hcases i hi
    refine hnonneg i hi ?_
    rcases hcases with hcovered | hfull
    · obtain ⟨c, hc, hkey, -⟩ := (h.greatest i hi).1
      rcases (hgroup c).mp hc with hc | hc
      · exact mem_keySet.mpr ⟨c, hc, hkey⟩
      · exact hcovered (mem_keySet.mpr ⟨c, hc, hkey⟩)
    · by_contra hnot
      -- every sound key ranks before this one, so the selection would be too long
      have hneg : i.confidence < 0 := by
        obtain ⟨c, hc, hkey, hconfidence⟩ := (h.greatest i hi).1
        rcases (hgroup c).mp hc with hc | hc
        · exact absurd (mem_keySet.mpr ⟨c, hc, hkey⟩) hnot
        · exact hconfidence ▸ hover c hc
      have hall : insert (candidateKey i) (keySet sound) ⊆ keySet chosen := by
        intro k hk
        rcases Finset.mem_insert.mp hk with rfl | hk
        · exact mem_keySet.mpr ⟨i, hi, rfl⟩
        · obtain ⟨c, hc, rfl⟩ := mem_keySet.mp hk
          by_contra hout
          have hprecedes := h.leftOut c ((hgroup c).mpr (.inl hc))
            (fun hmem => hout (List.mem_toFinset.mpr hmem)) i hi
          have := hsound c hc
          rcases hprecedes with hlt | ⟨heq, -⟩ <;> linarith
      have hcard := Finset.card_le_card hall
      rw [Finset.card_insert_of_notMem hnot] at hcard
      have := h.length_eq
      omega

def soundKeys (context : StructuredContext) (behaviorProfile : Option UserBehaviorProfile)
    (recentFeedback : List RecentDecisionRecord) : Finset String :=
  keySet (soundCandidates (.fromContext context behaviorProfile recentFeedback)
    (.fromContext context) context.events)

def overdrawnKeys (context : StructuredContext) (behaviorProfile : Option UserBehaviorProfile)
    (recentFeedback : List RecentDecisionRecord) : Finset String :=
  keySet (overdrawnCandidates (.fromContext context behaviorProfile recentFeedback)
    (.fromContext context) context.events)

def found (context : StructuredContext) (behaviorProfile : Option UserBehaviorProfile)
    (recentFeedback : List RecentDecisionRecord) : List (IntentCandidate ℚ) :=
  let signals := WindowSignals.fromContext context
  let a := WindowAggregation.fromContext context behaviorProfile recentFeedback
  finalizeCandidates .id (context.events.filterMap (candidateOf a signals) ++
    batteryCandidates a signals) signals 5

theorem forall_confidence_iff (draw : BackendDraw) (order : Reordering (IntentCandidate ℚ))
    (context : StructuredContext) (behaviorProfile : Option UserBehaviorProfile)
    (recentFeedback : List RecentDecisionRecord) {p : ℚ → Prop} (hidle : p 0.60) :
    (∀ i ∈ (evaluateInput draw order context behaviorProfile recentFeedback).intentBatch.intents,
      p i.confidence) ↔ ∀ c ∈ found context behaviorProfile recentFeedback, p c.confidence := by
  have hintents : (∀ i ∈ (evaluateInput draw order context behaviorProfile
        recentFeedback).intentBatch.intents, p i.confidence) ↔
      ∀ x ∈ (drafts order context behaviorProfile recentFeedback).map
        (Intent.confidence (F := ℚ)), p x := by
    rw [← map_drawIds (fun _ _ => rfl) draw, List.forall_mem_map]
    rfl
  rw [hintents, drafts, finalizeCandidates_order order, ← found]
  split
  · rename_i hempty
    rw [List.isEmpty_iff.mp hempty]
    exact iff_of_true (by simpa [Agent.draft] using hidle) (by simp)
  · rw [List.map_map, List.forall_mem_map]
    rfl

theorem found_selects (context : StructuredContext) (behaviorProfile : Option UserBehaviorProfile)
    (recentFeedback : List RecentDecisionRecord) :
    (∀ c ∈ found context behaviorProfile recentFeedback, c.confidence ≤ 0.99) ∧
      ((∀ c ∈ found context behaviorProfile recentFeedback, 0 ≤ c.confidence) ↔
        overdrawnKeys context behaviorProfile recentFeedback ⊆
            soundKeys context behaviorProfile recentFeedback ∨
          5 ≤ (soundKeys context behaviorProfile recentFeedback).card) := by
  let signals := WindowSignals.fromContext context
  let a := WindowAggregation.fromContext context behaviorProfile recentFeedback
  have hselects := finalizeCandidates_selects (F := ℚ)
    (context.events.filterMap (candidateOf a signals) ++ batteryCandidates a signals) signals 5
  refine ⟨fun i hi => ?_, hselects.nonneg_iff (fun c => mem_survivors_window)
    (fun c hc => (soundCandidates_range hc).1) fun c hc => overdrawnCandidates_neg hc⟩
  obtain ⟨c, hc, -, hconfidence⟩ := (hselects.greatest i hi).1
  rw [← hconfidence]
  rcases mem_survivors_window.mp hc with hc | hc
  · exact (soundCandidates_range hc).2
  · exact (overdrawnCandidates_neg hc).le.trans (by norm_num)

/-- Every intent has a confidence from 0 to 0.99 exactly when no overdrawn transition has a key
of its own, or five other keys take its place. -/
theorem evaluateInput_range_iff (draw : BackendDraw) (order : Reordering (IntentCandidate ℚ))
    (context : StructuredContext) (behaviorProfile : Option UserBehaviorProfile)
    (recentFeedback : List RecentDecisionRecord) :
    (∀ i ∈ (evaluateInput draw order context behaviorProfile recentFeedback).intentBatch.intents,
      0 ≤ i.confidence ∧ i.confidence ≤ 0.99) ↔
    overdrawnKeys context behaviorProfile recentFeedback ⊆
        soundKeys context behaviorProfile recentFeedback ∨
      5 ≤ (soundKeys context behaviorProfile recentFeedback).card := by
  obtain ⟨hmost, hnonneg⟩ := found_selects context behaviorProfile recentFeedback
  rw [← hnonneg, forall_confidence_iff (p := fun x => 0 ≤ x ∧ x ≤ 0.99) draw order context
    behaviorProfile recentFeedback (by norm_num)]
  exact forall₂_congr fun i hi => ⟨And.left, fun h => ⟨h, hmost i hi⟩⟩

namespace OverdrawnSample

def event (id : String) (eventType : SanitizedEventType) : SanitizedEvent :=
  ⟨id, 1000, eventType, .publicApi, none, none⟩

/-- The keyguard is up, the battery low and the network gone when the mail app opens. -/
def context : StructuredContext where
  windowId := "w3"
  windowStartMs := 0
  windowEndMs := 10000
  durationSecs := 10
  events :=
    [event "e1" (.systemStatus (some 8) false .offline .normal .unknown false),
      event "e2" (.screen .keyguardShown),
      event "e3" (.appTransition "com.mail" none .foreground)]
  summary := ⟨["com.mail"], [], [], [], none, .publicApi⟩

def outcome (actionType target terminal : String) (correctness : FeedbackCorrectness)
    (denialReason error : Option String) : ActionFeedbackRecord :=
  ⟨actionType, some target, terminal, correctness, "", denialReason, error, none⟩

def decision (windowId : String) (outcomes : List ActionFeedbackRecord) : RecentDecisionRecord :=
  ⟨windowId, 0, 10000, ["com.mail"], [], [], "LocalEvaluator", "local-evaluator-v0.1", 1, [], none,
    outcomes⟩

/-- Both actions on the mail app were denied in one window and failed in another. -/
def feedback : List RecentDecisionRecord :=
  [decision "w1"
    [outcome "PreWarmProcess" "pkg:com.mail" "DeniedByPolicy" .policyRejected
        (some "ConfidenceTooLow") none,
      outcome "KeepAlive" "work:collector_heartbeat" "DeniedByPolicy" .policyRejected
        (some "ConfidenceTooLow") none],
    decision "w2"
      [outcome "PreWarmProcess" "pkg:com.mail" "Failed" .executionFailed none (some "refused"),
        outcome "KeepAlive" "work:collector_heartbeat" "Failed" .executionFailed none
          (some "refused")]]

end OverdrawnSample

theorem evaluateInput_overdrawn :
    ¬ ∀ i ∈ (evaluateInput ⟨fun _ => "", 0⟩ .id OverdrawnSample.context none
        OverdrawnSample.feedback).intentBatch.intents,
      (0 : ℚ) ≤ i.confidence ∧ i.confidence ≤ 0.99 := by
  intro h
  have hfound := (forall_confidence_iff (p := fun x => 0 ≤ x ∧ x ≤ 0.99) _ _ _ _ _
    (by norm_num)).mp h
  have hkeys : ¬ (overdrawnKeys OverdrawnSample.context none OverdrawnSample.feedback ⊆
        soundKeys OverdrawnSample.context none OverdrawnSample.feedback ∨
      5 ≤ (soundKeys OverdrawnSample.context none OverdrawnSample.feedback).card) := by
    decide +kernel
  exact hkeys ((found_selects _ _ _).2.mp fun c hc => (hfound c hc).1)

end Dipecs.Agent.LocalEvaluator
