import Dipecs.Agent.Router
import Dipecs.Core.ActionLifecycle
import Dipecs.Core.ContextMemory

/-! The window pipeline of the daemon: a closed window is answered by the router, governed
by the lifecycle and folded into the memory, from which the profile worker takes snapshots. -/

namespace Dipecs.Daemon

open Dipecs.Spec Dipecs.Core Dipecs.Agent Dipecs.Library

variable {D F : Type}

structure Snapshot where
  observedWindows : UInt32
  profile : UserBehaviorProfile
  recent : List RecentDecisionRecord
  deriving DecidableEq

inductive JobStatus
  | running
  | finished (result : Except String String)
  | panicked

structure ProfileSummaryWorker where
  summarizer : Bool
  intervalWindows : UInt32
  pending : Option Snapshot
  lastStartedWindow : UInt32

namespace ProfileSummaryWorker

def new (summarizer : Bool) (intervalWindows : UInt32) : ProfileSummaryWorker :=
  ⟨summarizer, intervalWindows, none, 0⟩

def poll (w : ProfileSummaryWorker) (status : Snapshot → JobStatus) (memory : ModelMemoryStore D) :
    ProfileSummaryWorker × ModelMemoryStore D :=
  match w.pending with
  | none => (w, memory)
  | some job =>
    match status job with
    | .running => (w, memory)
    | .finished (.ok summary) => ({ w with pending := none }, memory.setLlmSummary summary)
    | .finished (.error _) => ({ w with pending := none }, memory)
    | .panicked => ({ w with pending := none }, memory)

def due (w : ProfileSummaryWorker) (windows : UInt32) : Bool :=
  w.summarizer && w.pending.isNone && w.intervalWindows != 0 && windows != 0 &&
    windows % w.intervalWindows == 0 && windows != w.lastStartedWindow

def maybeStart (ops : MomentumOps D) (w : ProfileSummaryWorker) (memory : ModelMemoryStore D) :
    ProfileSummaryWorker × List Snapshot :=
  let windows := memory.observationWindows
  if w.due windows then
    let job := ⟨windows, memory.behaviorProfile ops, memory.recent⟩
    ({ w with pending := some job, lastStartedWindow := windows }, [job])
  else (w, [])

end ProfileSummaryWorker

/-- What stays the same from window to window. -/
structure Deps (D F : Type) where
  ops : MomentumOps D
  router : DecisionRouter
  cloudReady : Bool
  policy : PolicyConfig F

structure PipelineState (D : Type) where
  windowOrdinal : UInt32
  memory : ModelMemoryStore D
  circuit : CircuitState
  worker : Option ProfileSummaryWorker

/-- How the world answers while one window is processed. -/
structure WindowWorld (F : Type) where
  clock : Clock
  ruleBased : BackendDraw
  fallback : BackendDraw
  localEvaluator : DecisionBackend F
  cloudLlm : DecisionBackend F
  adapter : ActionAdapter
  statusBefore : Snapshot → JobStatus
  statusAfter : Snapshot → JobStatus

structure ClosedWindow (F : Type) where
  context : StructuredContext
  world : WindowWorld F

/-- What leaves the device. -/
inductive Disclosure
  | toCloud (input : ModelInput)
  | toSummarizer (snapshot : Snapshot)
  deriving DecidableEq

namespace Pipeline
variable [OfScientific F] [LT F] [DecidableLT F]

def backends (deps : Deps D F) (world : WindowWorld F) : Backends F where
  ruleBased input := RuleBasedBackend.evaluate world.ruleBased input.currentContext
  localEvaluator := world.localEvaluator
  fallback input := FallbackNoOpBackend.evaluate world.fallback input.currentContext
  cloudLlm := if deps.cloudReady then some world.cloudLlm else none

def pollWorker (worker : Option ProfileSummaryWorker) (status : Snapshot → JobStatus)
    (memory : ModelMemoryStore D) : Option ProfileSummaryWorker × ModelMemoryStore D :=
  match worker with
  | some w => ((w.poll status memory).1, (w.poll status memory).2)
  | none => (none, memory)

def startWorker (ops : MomentumOps D) (worker : Option ProfileSummaryWorker)
    (memory : ModelMemoryStore D) : Option ProfileSummaryWorker × List Snapshot :=
  match worker with
  | some w => ((w.maybeStart ops memory).1, (w.maybeStart ops memory).2)
  | none => (none, [])

def evaluate (deps : Deps D F) (world : WindowWorld F) (circuit : CircuitState)
    (memory : ModelMemoryStore D) (context : StructuredContext) : Evaluation F :=
  deps.router.evaluateModelInput (backends deps world) world.clock circuit
    (memory.modelInput deps.ops context)

def audit (deps : Deps D F) (world : WindowWorld F) (windowOrdinal : UInt32)
    (decision : DecisionBackendResult F) (context : StructuredContext) : List AuditRecord :=
  (ActionLifecycle.run deps.policy world.adapter windowOrdinal decision.intentBatch
    decision.route decision.error (CapabilityLevel.forRoute decision.route) context).2

def processWindow (deps : Deps D F) (s : PipelineState D) (x : ClosedWindow F) :
    PipelineState D × List Disclosure :=
  let (worker, memory) := pollWorker s.worker x.world.statusBefore s.memory
  let evaluation := evaluate deps x.world s.circuit memory x.context
  let records := audit deps x.world s.windowOrdinal evaluation.result x.context
  let memory := memory.observeWindow deps.ops x.context evaluation.result records
  let (worker, memory) := pollWorker worker x.world.statusAfter memory
  let (worker, snapshots) := startWorker deps.ops worker memory
  (⟨s.windowOrdinal + 1, memory, evaluation.circuit, worker⟩,
    evaluation.cloudInputs.map .toCloud ++ snapshots.map .toSummarizer)

def machine (deps : Deps D F) :
    Machine (PipelineState D) (ClosedWindow F) Disclosure := ⟨processWindow deps⟩

/-- The router's privacy gate keeps the window for the rules. -/
def gated (deps : Deps D F) (s : PipelineState D) (x : ClosedWindow F) : Bool :=
  (deps.router.determineRoute (backends deps x.world) x.world.clock s.circuit
    x.context).2.isPrivacySensitive

end Pipeline

end Dipecs.Daemon
