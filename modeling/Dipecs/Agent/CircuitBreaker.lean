import Dipecs.Agent.Router
import Dipecs.Library.Machine
import Mathlib.Data.List.Chain
import Mathlib.Data.List.DropRight

/-! The circuit breaker over every sequence of calls: the failures it counts are those
since the last call that did not fail, seen through a window that only moves forward. -/

namespace Dipecs.Agent

open Dipecs.Spec Dipecs.Core Dipecs.Library

variable {F : Type}

inductive BackendName
  | ruleBased | localEvaluator | cloudLlm | fallback
  deriving DecidableEq

/-- A call of the router, with the backends and the clock as this call finds them. -/
structure Call (F : Type) where
  input : ModelInput
  backends : Backends F
  clock : Clock

structure Answer (F : Type) where
  call : Call F
  invoked : List BackendName
  failed : Bool
  result : DecisionBackendResult F

namespace Answer

def fromFallback (a : Answer F) : Prop := .fallback ∈ a.invoked

instance (a : Answer F) : Decidable a.fromFallback :=
  inferInstanceAs (Decidable (_ ∈ a.invoked))

end Answer

namespace DecisionRouter

def invoked (backends : Backends F) (route : DecisionRoute) (input : ModelInput) :
    List BackendName :=
  match route with
  | .localEvaluator => [.localEvaluator]
  | .cloudLlm =>
    match backends.cloudLlm with
    | some backend => .cloudLlm :: if (backend input).error.isSome then [.ruleBased] else []
    | none => [.ruleBased]
  | .fallbackNoOp => [.fallback]
  | .ruleBased | .mock => [.ruleBased]

def answer (router : DecisionRouter) (circuit : CircuitState) (call : Call F) : Answer F :=
  let input := router.withRuntimeUser call.input
  let route := (router.determineRoute call.backends call.clock circuit input.currentContext).1
  { call
    invoked := invoked call.backends route input
    failed := (dispatch call.backends route input).2
    result := (router.evaluateModelInput call.backends call.clock circuit call.input).result }

def machine (router : DecisionRouter) : Machine CircuitState (Call F) (Answer F) where
  step circuit call :=
    ((router.evaluateModelInput call.backends call.clock circuit call.input).circuit,
      [router.answer circuit call])

def answers (router : DecisionRouter) (calls : List (Call F)) : List (Answer F) :=
  (router.machine.run ⟨[]⟩ calls).2

def window (router : DecisionRouter) : Nat :=
  router.config.circuitBreakerWindowSecs.toNat * 10 ^ 9

def threshold (router : DecisionRouter) : Nat := router.config.circuitBreakerThreshold.toNat

/-- The clock never runs backwards, and the window can be subtracted from it. -/
structure Monotone (router : DecisionRouter) (calls : List (Call F)) : Prop where
  window_le : ∀ c ∈ calls, router.window ≤ c.clock.now
  recorded : ∀ c ∈ calls, c.clock.now ≤ c.clock.recordedAt
  next : calls.IsChain fun c d => c.clock.recordedAt ≤ d.clock.now

def failures (before : List (Answer F)) : List (Answer F) := before.rtakeWhile (·.failed)

section Dispatch

variable {backends : Backends F} {route : DecisionRoute} {input : ModelInput}

theorem fallback_mem_invoked :
    .fallback ∈ invoked backends route input ↔ route = .fallbackNoOp := by
  cases route with
  | cloudLlm =>
    cases hb : backends.cloudLlm with
    | none => simp [invoked, hb]
    | some backend => by_cases he : (backend input).error.isSome <;> simp [invoked, hb, he]
  | _ => simp [invoked]

end Dispatch

section Step

variable {router : DecisionRouter} {circuit : CircuitState} {call : Call F}

def counted (router : DecisionRouter) (circuit : CircuitState) (now : Nat) : Nat :=
  circuit.errors.countP (now - router.window ≤ ·)

theorem determineRoute_fallback {backends : Backends F} {clock : Clock}
    {context : StructuredContext} :
    (router.determineRoute backends clock circuit context).1 = .fallbackNoOp ↔
      router.config.circuitBreakerThreshold ≤
        circuit.countRecentErrors clock router.config.circuitBreakerWindowSecs := by
  have hcloud : ∀ complexity, (cloudRouteOrFallback backends complexity).1 ≠ .fallbackNoOp := by
    intro complexity
    unfold cloudRouteOrFallback
    split <;> simp
  simp only [determineRoute]
  split
  · simp_all
  · rename_i hclosed
    simp only [ge_iff_le] at hclosed
    simp only [hclosed, iff_false]
    split
    · simp
    · split
      · simp
      · split
        · simp
        · simp
        · exact hcloud _
        · exact hcloud _
        · exact hcloud _

theorem answer_fromFallback (hwindow : router.window ≤ call.clock.now)
    (hle : router.counted circuit call.clock.now ≤ router.threshold) :
    (router.answer circuit call).fromFallback ↔
      router.threshold ≤ router.counted circuit call.clock.now := by
  have hlt : router.threshold < 2 ^ 32 := router.config.circuitBreakerThreshold.toNat_lt
  have hcount : (circuit.countRecentErrors call.clock
      router.config.circuitBreakerWindowSecs).toNat = router.counted circuit call.clock.now := by
    unfold window at hwindow
    simp only [CircuitState.countRecentErrors]
    rw [if_pos hwindow]
    exact Nat.mod_eq_of_lt (hle.trans_lt hlt)
  rw [Answer.fromFallback, answer, fallback_mem_invoked, determineRoute_fallback,
    UInt32.le_iff_toNat_le, hcount]
  rfl

theorem answer_not_failed (h : (router.answer circuit call).fromFallback) :
    (router.answer circuit call).failed = false := by
  have hroute := fallback_mem_invoked.mp h
  simp only [answer] at hroute ⊢
  rw [hroute]
  rfl

theorem step_errors :
    ((machine router).step circuit call).1.errors =
      if (router.answer circuit call).failed then circuit.errors ++ [call.clock.recordedAt]
      else [] := by
  change (if (router.answer circuit call).failed then circuit.recordError call.clock.recordedAt
    else circuit.recordSuccess).errors = _
  split <;> rfl

end Step

structure Tracks (router : DecisionRouter) (pre : List (Call F)) (out : List (Answer F))
    (circuit : CircuitState) : Prop where
  calls : out.map Answer.call = pre
  errors : circuit.errors = (failures out).map (·.call.clock.recordedAt)
  succeeds : ∀ a ∈ out, a.fromFallback → a.failed = false
  bounded : ∀ now, (∀ c ∈ pre.getLast?, c.clock.recordedAt ≤ now) →
    router.counted circuit now ≤ router.threshold

section Run

variable {router : DecisionRouter}

theorem Monotone.of_append {pre : List (Call F)} {call : Call F}
    (h : router.Monotone (pre ++ [call])) :
    router.Monotone pre ∧ router.window ≤ call.clock.now ∧
      call.clock.now ≤ call.clock.recordedAt ∧
      ∀ c ∈ pre.getLast?, c.clock.recordedAt ≤ call.clock.now := by
  obtain ⟨hpre, -, hlast⟩ := List.isChain_append.mp h.next
  refine ⟨⟨fun c hc => h.window_le c (by simp [hc]), fun c hc => h.recorded c (by simp [hc]),
    hpre⟩, h.window_le call (by simp), h.recorded call (by simp), ?_⟩
  intro c hc
  exact hlast c hc call (by simp)

theorem counted_mono (circuit : CircuitState) {now later : Nat} (h : now ≤ later) :
    router.counted circuit later ≤ router.counted circuit now := by
  apply List.countP_mono_left
  intro instant _ hrecent
  simp only [decide_eq_true_eq] at hrecent ⊢
  omega

theorem failures_concat (before : List (Answer F)) (a : Answer F) :
    failures (before ++ [a]) = if a.failed then failures before ++ [a] else [] := by
  rw [failures, List.rtakeWhile_concat]
  rfl

theorem Tracks.nil : router.Tracks (F := F) [] [] ⟨[]⟩ where
  calls := rfl
  errors := rfl
  succeeds := by simp
  bounded := by simp [counted]

variable {pre : List (Call F)} {out : List (Answer F)} {circuit : CircuitState} {call : Call F}

theorem Tracks.step (h : router.Tracks pre out circuit)
    (hclock : router.Monotone (pre ++ [call])) :
    router.Tracks (pre ++ [call]) (out ++ ((machine router).step circuit call).2)
      ((machine router).step circuit call).1 := by
  obtain ⟨-, hwindow, hrecorded, hlast⟩ := hclock.of_append
  have hbound := h.bounded _ hlast
  change router.Tracks _ (out ++ [router.answer circuit call]) _
  refine ⟨?_, ?_, ?_, ?_⟩
  · rw [List.map_append, h.calls]
    rfl
  · rw [step_errors, failures_concat, h.errors]
    split
    · rw [List.map_append]
      rfl
    · rfl
  · intro a ha hopen
    rcases List.mem_append.mp ha with ha | ha
    · exact h.succeeds a ha hopen
    · rw [List.mem_singleton.mp ha] at hopen ⊢
      exact answer_not_failed hopen
  · intro now hnow
    have hlater : call.clock.now ≤ now := hrecorded.trans (hnow call (by simp))
    rw [counted, step_errors]
    split
    · rename_i hfailed
      have hbelow : router.counted circuit call.clock.now < router.threshold := by
        by_contra hreached
        have hopen := (answer_fromFallback hwindow hbound).mpr (Nat.le_of_not_lt hreached)
        rw [answer_not_failed hopen] at hfailed
        cases hfailed
      have hmono : router.counted circuit now ≤ router.counted circuit call.clock.now :=
        counted_mono circuit hlater
      have hone := List.countP_le_length (p := (now - router.window ≤ ·))
        (l := [call.clock.recordedAt])
      rw [List.countP_append]
      unfold counted at hmono hbelow
      rw [List.length_singleton] at hone
      omega
    · simp

end Run

end DecisionRouter

namespace BreakerSample
open DecisionRouter

def router : DecisionRouter := ⟨{ circuitBreakerThreshold := 2 }, none⟩

def event : SanitizedEvent where
  eventId := "e"
  timestampMs := 0
  eventType := .notification "app" none none ⟨5, .latin, false⟩ ⟨0, .unknown, false⟩
    [.audioMessage, .calendarInvitation] false none
  sourceTier := .publicApi
  appPackage := some "app"
  uid := none

def input : ModelInput where
  currentContext := WindowAggregator.context ⟨[event], 10, 0⟩ 10000 ⟨"w", .id⟩
  behaviorProfile := ⟨none, "", 0, [], [], [], [], [], [], none⟩
  recentFeedback := []

def answering (route : DecisionRoute) (error : Option String) : DecisionBackend ℚ := fun input =>
  ⟨route, ⟨input.currentContext.windowId, [], 0, "sample"⟩, [], 0, error⟩

def call (rules : DecisionRoute) (cloudError : Option String) (secs : Nat) : Call ℚ where
  input
  backends :=
    { ruleBased := answering rules none
      localEvaluator := answering .localEvaluator none
      fallback := answering .fallbackNoOp (some "circuit breaker engaged")
      cloudLlm := some (answering .cloudLlm cloudError) }
  clock := ⟨secs * 10 ^ 9, secs * 10 ^ 9, secs * 10 ^ 9⟩

end BreakerSample

end Dipecs.Agent
