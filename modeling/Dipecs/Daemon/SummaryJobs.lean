import Dipecs.Core.PrewarmAttribution
import Dipecs.Daemon.Pipeline

/-! The profile summary jobs: the threads that the worker spawns run beside the windows, and
end whenever they do.  A window polls the job that is pending twice, before it is decided and
after it is observed, and may then start the next. -/

namespace Dipecs.Daemon

open Dipecs.Spec Dipecs.Core Dipecs.Agent Dipecs.Library

inductive JobOutcome
  | finished (result : Except String String)
  | panicked

/-- A thread with the snapshot it was given; without an outcome it is running. -/
structure Job where
  snapshot : Snapshot
  outcome : Option JobOutcome

def Job.complete (outcome : JobOutcome) (job : Job) : Job :=
  if job.outcome.isSome then job else { job with outcome := some outcome }

inductive JobNote
  | started (snapshot : Snapshot)
  | joined (outcome : JobOutcome)

/-- The pipeline with every thread spawned so far, the last one spawned being the one that a
handle refers to. -/
structure JobsState (D : Type) where
  pipeline : PipelineState D
  jobs : List Job
  midWindow : Bool

/-- A window up to the point where it is observed, the rest of it, or the end of a thread. -/
inductive JobsMove (F : Type)
  | enter (x : ClosedWindow F)
  | leave
  | complete (i : Nat) (outcome : JobOutcome)

namespace SummaryJobs

variable {D F : Type}

def lastOutcome (jobs : List Job) : Option JobOutcome := jobs.getLast?.bind Job.outcome

def statusOf (jobs : List Job) (_ : Snapshot) : JobStatus :=
  match lastOutcome jobs with
  | none => .running
  | some (.finished result) => .finished result
  | some .panicked => .panicked

def polled (worker : Option ProfileSummaryWorker) (jobs : List Job) : List JobOutcome :=
  if (worker.bind ProfileSummaryWorker.pending).isSome then (lastOutcome jobs).toList else []

section
variable [OfScientific F] [LT F] [DecidableLT F]

def enter (deps : Deps D F) (s : JobsState D) (x : ClosedWindow F) : JobsState D × List JobNote :=
  let p := s.pipeline
  let (worker, memory) := Pipeline.pollWorker p.worker (statusOf s.jobs) p.memory
  let evaluation := Pipeline.evaluate deps x.world p.circuit memory x.context
  let records := Pipeline.audit deps x.world p.windowOrdinal evaluation.result x.context
  let memory := memory.observeWindow deps.ops x.context evaluation.result records
  (⟨⟨p.windowOrdinal, memory, evaluation.circuit, worker⟩, s.jobs, true⟩,
    (polled p.worker s.jobs).map .joined)

def leave (deps : Deps D F) (s : JobsState D) : JobsState D × List JobNote :=
  let p := s.pipeline
  let (worker, memory) := Pipeline.pollWorker p.worker (statusOf s.jobs) p.memory
  let (worker, snapshots) := Pipeline.startWorker deps.ops worker memory
  (⟨⟨p.windowOrdinal + 1, memory, p.circuit, worker⟩,
      s.jobs ++ snapshots.map fun snapshot => ⟨snapshot, none⟩, false⟩,
    (polled p.worker s.jobs).map .joined ++ snapshots.map .started)

def step (deps : Deps D F) (s : JobsState D) : JobsMove F → JobsState D × List JobNote
  | .enter x => if s.midWindow then (s, []) else enter deps s x
  | .leave => if s.midWindow then leave deps s else (s, [])
  | .complete i outcome => ({ s with jobs := s.jobs.modify i (Job.complete outcome) }, [])

def machine (deps : Deps D F) : Machine (JobsState D) (JobsMove F) JobNote := ⟨step deps⟩

end

def startedOf (notes : List JobNote) : List Snapshot :=
  notes.filterMap fun
    | .started snapshot => some snapshot
    | .joined _ => none

def joinedOf (notes : List JobNote) : List JobOutcome :=
  notes.filterMap fun
    | .started _ => none
    | .joined outcome => some outcome

def refreshed : JobOutcome → Option String
  | .finished (.ok summary) => if Text.isBlank Text.isWhiteSpace summary then none else some summary
  | .finished (.error _) | .panicked => none

def summaryAfter (initial : Option String) (outcomes : List JobOutcome) : Option String :=
  (outcomes.filterMap refreshed).getLast?.or initial

section notes
variable (notes notes' : List JobNote) (outcomes : List JobOutcome)

@[simp] theorem startedOf_append :
    startedOf (notes ++ notes') = startedOf notes ++ startedOf notes' := by simp [startedOf]

@[simp] theorem joinedOf_append :
    joinedOf (notes ++ notes') = joinedOf notes ++ joinedOf notes' := by simp [joinedOf]

@[simp] theorem startedOf_nil : startedOf [] = [] := rfl

@[simp] theorem joinedOf_nil : joinedOf [] = [] := rfl

@[simp] theorem startedOf_started (snapshot : Snapshot) :
    startedOf [.started snapshot] = [snapshot] := rfl

@[simp] theorem joinedOf_started (snapshot : Snapshot) :
    joinedOf [.started snapshot] = [] := rfl

@[simp] theorem startedOf_joined (outcome : JobOutcome) :
    startedOf [.joined outcome] = [] := rfl

@[simp] theorem joinedOf_joined (outcome : JobOutcome) :
    joinedOf [.joined outcome] = [outcome] := rfl

theorem summaryAfter_concat (initial : Option String) (outcome : JobOutcome) :
    summaryAfter initial (outcomes ++ [outcome]) =
      (refreshed outcome).or (summaryAfter initial outcomes) := by
  cases h : refreshed outcome <;> simp [summaryAfter, List.filterMap_append, h]

end notes

/-! A window leaves the summary to the jobs and counts itself. -/

section memory
variable (ops : MomentumOps D)

theorem foldl_resolvePrewarm_summary (apps : List String) (pendings : List PendingPrewarm)
    (m : ModelMemoryStore D) :
    (pendings.foldl (ModelMemoryStore.resolvePrewarm ops apps) m).llmSummary = m.llmSummary ∧
      (pendings.foldl (ModelMemoryStore.resolvePrewarm ops apps) m).observationWindows =
        m.observationWindows := by
  induction pendings generalizing m with
  | nil => exact ⟨rfl, rfl⟩
  | cons pending pendings ih =>
    rw [List.foldl_cons, (ih _).1, (ih _).2]
    simp only [ModelMemoryStore.resolvePrewarm, ModelMemoryStore.recordPrewarmAttribution]
    split
    · exact ⟨rfl, rfl⟩
    · split <;> exact ⟨rfl, rfl⟩

theorem observeWindow_summary (m : ModelMemoryStore D) (context : StructuredContext)
    (decision : DecisionBackendResult F) (records : List AuditRecord) :
    (m.observeWindow ops context decision records).llmSummary = m.llmSummary ∧
      (m.observeWindow ops context decision records).observationWindows =
        satSucc32 m.observationWindows := by
  obtain ⟨hsummary, hwindows⟩ := foldl_resolvePrewarm_summary ops context.summary.foregroundApps
    m.pendingPrewarms { m with pendingPrewarms := [] }
  obtain ⟨s, d, f, haudit⟩ := ModelMemoryStore.foldl_countAudit ops
    (((m.resolvePendingPrewarms ops context.summary.foregroundApps).decayMomentum ops).countWindow
      ops context) records
  simp only [ModelMemoryStore.observeWindow, haudit, ModelMemoryStore.foldl_registerPendingPrewarm]
  exact ⟨hsummary, congrArg satSucc32 hwindows⟩

end memory

theorem setLlmSummary_summary (m : ModelMemoryStore D) (summary : String) :
    (m.setLlmSummary summary).llmSummary =
      (refreshed (.finished (.ok summary))).or m.llmSummary := by
  rw [ModelMemoryStore.setLlmSummary, refreshed]
  split <;> rfl

@[simp] theorem setLlmSummary_windows (m : ModelMemoryStore D) (summary : String) :
    (m.setLlmSummary summary).observationWindows = m.observationWindows := by
  rw [ModelMemoryStore.setLlmSummary]
  split <;> rfl

/-- How the threads, the worker and the memory stand after `notes`: the threads in `settled`
were joined, the one `inflight`, if there is one, was not. -/
structure Tracks (initial : Option String) (interval : UInt32) (notes : List JobNote)
    (settled : List Job) (inflight : Option Job) (w : ProfileSummaryWorker)
    (memory : ModelMemoryStore D) : Prop where
  every : w.intervalWindows = interval
  pending : w.pending = inflight.map Job.snapshot
  joined : settled.map Job.outcome = (joinedOf notes).map some
  started : (settled ++ inflight.toList).map Job.snapshot = startedOf notes
  due : ∀ snapshot ∈ startedOf notes, interval ≠ 0 ∧ snapshot.observedWindows ≠ 0 ∧
    snapshot.observedWindows % interval = 0
  increasing : (startedOf notes).Pairwise (·.observedWindows < ·.observedWindows)
  last : ∀ snapshot ∈ startedOf notes, snapshot.observedWindows ≤ w.lastStartedWindow
  counted : w.lastStartedWindow ≤ memory.observationWindows
  summary : memory.llmSummary = summaryAfter initial (joinedOf notes)

namespace Tracks
variable {initial : Option String} {interval : UInt32} {notes : List JobNote}
  {settled : List Job} {inflight : Option Job} {w : ProfileSummaryWorker}
  {memory : ModelMemoryStore D}

theorem new (memory : ModelMemoryStore D) (summarizer : Bool) (interval : UInt32) :
    Tracks memory.llmSummary interval [] [] none (.new summarizer interval) memory where
  every := rfl
  pending := rfl
  joined := rfl
  started := rfl
  due := by simp
  increasing := .nil
  last := by simp
  counted := UInt32.zero_le
  summary := rfl

theorem ended (h : Tracks initial interval notes settled inflight w memory) :
    ∀ job ∈ settled, job.outcome.isSome := by
  intro job hjob
  have hmem := List.mem_map_of_mem (f := Job.outcome) hjob
  rw [h.joined] at hmem
  obtain ⟨outcome, -, heq⟩ := List.mem_map.mp hmem
  rw [← heq]
  rfl

theorem join (h : Tracks initial interval notes settled inflight w memory) {job : Job}
    (hjob : inflight = some job) {outcome : JobOutcome} (hout : job.outcome = some outcome)
    {memory' : ModelMemoryStore D} (hwin : memory'.observationWindows = memory.observationWindows)
    (hsum : memory'.llmSummary = (refreshed outcome).or memory.llmSummary) :
    Tracks initial interval (notes ++ [.joined outcome]) (settled ++ [job]) none
      { w with pending := none } memory' where
  every := h.every
  pending := rfl
  joined := by simpa [hout] using h.joined
  started := by simpa [hjob] using h.started
  due := by simpa using h.due
  increasing := by simpa using h.increasing
  last := by simpa using h.last
  counted := hwin ▸ h.counted
  summary := by
    rw [joinedOf_append, joinedOf_joined, summaryAfter_concat, hsum, h.summary]

theorem poll (h : Tracks initial interval notes settled inflight w memory) :
    ∃ settled' inflight' w' memory', settled' ++ inflight'.toList = settled ++ inflight.toList ∧
      Pipeline.pollWorker (some w) (statusOf (settled ++ inflight.toList)) memory =
        (some w', memory') ∧
      Tracks initial interval
        (notes ++ (polled (some w) (settled ++ inflight.toList)).map .joined)
        settled' inflight' w' memory' := by
  cases hjob : inflight with
  | none =>
    have hpend : w.pending = none := by rw [h.pending, hjob]; rfl
    refine ⟨settled, none, w, memory, rfl, ?_, ?_⟩
    · simp [Pipeline.pollWorker, ProfileSummaryWorker.poll, hpend]
    · simpa [polled, hpend, hjob] using h
  | some job =>
    have hpend : w.pending = some job.snapshot := by rw [h.pending, hjob]; rfl
    have hlast : lastOutcome (settled ++ (some job).toList) = job.outcome := by
      simp [lastOutcome]
    have hpoll : polled (some w) (settled ++ (some job).toList) = job.outcome.toList := by
      rw [polled, hlast]
      simp [hpend]
    simp only [hpoll, Pipeline.pollWorker, ProfileSummaryWorker.poll, hpend, statusOf, hlast]
    match hout : job.outcome with
    | none => exact ⟨settled, some job, w, memory, rfl, rfl, by simpa [hjob] using h⟩
    | some (.finished (.ok summary)) =>
      exact ⟨settled ++ [job], none, _, _, by simp, rfl,
        h.join hjob hout (setLlmSummary_windows memory summary)
          (setLlmSummary_summary memory summary)⟩
    | some (.finished (.error _)) | some .panicked =>
      exact ⟨settled ++ [job], none, _, _, by simp, rfl, h.join hjob hout rfl rfl⟩

theorem observe (h : Tracks initial interval notes settled inflight w memory)
    {memory' : ModelMemoryStore D} (hsum : memory'.llmSummary = memory.llmSummary)
    (hwin : memory.observationWindows ≤ memory'.observationWindows) :
    Tracks initial interval notes settled inflight w memory' :=
  { h with
    counted := UInt32.le_trans h.counted hwin
    summary := hsum.trans h.summary }

theorem start (ops : MomentumOps D) (h : Tracks initial interval notes settled inflight w memory) :
    ∃ inflight', settled ++ inflight'.toList =
        settled ++ inflight.toList ++ (w.maybeStart ops memory).2.map (⟨·, none⟩) ∧
      Tracks initial interval (notes ++ (w.maybeStart ops memory).2.map .started)
        settled inflight' (w.maybeStart ops memory).1 memory := by
  simp only [ProfileSummaryWorker.maybeStart]
  split
  · rename_i hdue
    simp only [ProfileSummaryWorker.due, Bool.and_eq_true, Option.isNone_iff_eq_none, bne_iff_ne,
      beq_iff_eq, h.pending, Option.map_eq_none_iff, h.every] at hdue
    obtain ⟨⟨⟨⟨⟨-, hnone⟩, hinterval⟩, hzero⟩, hmultiple⟩, hlast⟩ := hdue
    subst hnone
    have hlt : w.lastStartedWindow < memory.observationWindows :=
      UInt32.lt_of_le_of_ne h.counted (Ne.symm hlast)
    refine ⟨some ⟨⟨memory.observationWindows, memory.behaviorProfile ops, memory.recent⟩, none⟩,
      by simp, ?_⟩
    exact {
      every := h.every
      pending := rfl
      joined := by simpa using h.joined
      started := by simpa using h.started
      due := by
        intro snapshot hmem
        simp only [List.map_cons, List.map_nil, startedOf_append, startedOf_started,
          List.mem_append, List.mem_singleton] at hmem
        rcases hmem with hmem | rfl
        · exact h.due snapshot hmem
        · exact ⟨hinterval, hzero, hmultiple⟩
      increasing := by
        rw [startedOf_append, List.map_singleton, startedOf_started, List.pairwise_append]
        refine ⟨h.increasing, List.pairwise_singleton _ _, fun snapshot hmem new hnew => ?_⟩
        rw [List.mem_singleton.mp hnew]
        exact UInt32.lt_of_le_of_lt (h.last snapshot hmem) hlt
      last := by
        intro snapshot hmem
        simp only [List.map_cons, List.map_nil, startedOf_append, startedOf_started,
          List.mem_append, List.mem_singleton] at hmem
        rcases hmem with hmem | rfl
        · exact UInt32.le_of_lt (UInt32.lt_of_le_of_lt (h.last snapshot hmem) hlt)
        · exact UInt32.le_refl _
      counted := UInt32.le_refl _
      summary := by simpa using h.summary }
  · exact ⟨inflight, by simp, by simpa using h⟩

theorem ends (h : Tracks initial interval notes settled inflight w memory) {inflight' : Option Job}
    (hsame : inflight'.map Job.snapshot = inflight.map Job.snapshot) :
    Tracks initial interval notes settled inflight' w memory :=
  { h with
    pending := h.pending.trans hsame.symm
    started := by
      rw [← h.started, List.map_append, List.map_append, ← Option.toList_map, ← Option.toList_map,
        hsame] }

end Tracks

theorem modify_complete (i : Nat) (outcome : JobOutcome) {settled : List Job}
    (h : ∀ job ∈ settled, job.outcome.isSome) (inflight : Option Job) :
    ∃ inflight' : Option Job, (settled ++ inflight.toList).modify i (Job.complete outcome) =
        settled ++ inflight'.toList ∧
      inflight'.map Job.snapshot = inflight.map Job.snapshot := by
  induction settled generalizing i with
  | nil =>
    cases inflight with
    | none => exact ⟨none, by simp, rfl⟩
    | some job =>
      cases i with
      | zero =>
        refine ⟨some (job.complete outcome), by simp, ?_⟩
        simp only [Option.map_some, Job.complete]
        split <;> rfl
      | succ i => exact ⟨some job, by simp, rfl⟩
  | cons job settled ih =>
    cases i with
    | zero =>
      refine ⟨inflight, ?_, rfl⟩
      rw [List.cons_append, List.modify_zero_cons, Job.complete, if_pos (h job List.mem_cons_self)]
    | succ i =>
      obtain ⟨inflight', hmodify, hsame⟩ :=
        ih i fun job' hmem => h job' (List.mem_cons_of_mem _ hmem)
      exact ⟨inflight', by rw [List.cons_append, List.modify_succ_cons, hmodify]; rfl, hsame⟩

def Steady (initial : Option String) (interval : UInt32) (notes : List JobNote)
    (s : JobsState D) : Prop :=
  ∃ settled inflight w, s.pipeline.worker = some w ∧ s.jobs = settled ++ inflight.toList ∧
    Tracks initial interval notes settled inflight w s.pipeline.memory

section
variable [OfScientific F] [LT F] [DecidableLT F] (deps : Deps D F)

theorem steady_enter {initial : Option String} {interval : UInt32} {notes : List JobNote}
    {s : JobsState D} (h : Steady initial interval notes s) (x : ClosedWindow F) :
    Steady initial interval (notes ++ (enter deps s x).2) (enter deps s x).1 := by
  obtain ⟨settled, inflight, w, hworker, hjobs, htracks⟩ := h
  obtain ⟨settled', inflight', w', memory, hsame, hpoll, htracks'⟩ := htracks.poll
  simp only [enter, hworker, hjobs, hpoll]
  obtain ⟨hsum, hwin⟩ := observeWindow_summary deps.ops memory x.context
    (Pipeline.evaluate deps x.world s.pipeline.circuit memory x.context).result
    (Pipeline.audit deps x.world s.pipeline.windowOrdinal
      (Pipeline.evaluate deps x.world s.pipeline.circuit memory x.context).result x.context)
  exact ⟨settled', inflight', w', rfl, hsame.symm,
    htracks'.observe hsum (hwin ▸ le_satSucc32 memory.observationWindows)⟩

omit [OfScientific F] [LT F] [DecidableLT F] in
theorem steady_leave {initial : Option String} {interval : UInt32} {notes : List JobNote}
    {s : JobsState D} (h : Steady initial interval notes s) :
    Steady initial interval (notes ++ (leave deps s).2) (leave deps s).1 := by
  obtain ⟨settled, inflight, w, hworker, hjobs, htracks⟩ := h
  obtain ⟨settled', inflight', w', memory, hsame, hpoll, htracks'⟩ := htracks.poll
  obtain ⟨inflight'', hjobs', htracks''⟩ := htracks'.start deps.ops
  simp only [leave, hworker, hjobs, hpoll, Pipeline.startWorker, ← List.append_assoc]
  exact ⟨settled', inflight'', _, rfl, by rw [hjobs', hsame], htracks''⟩

theorem steady_step {initial : Option String} {interval : UInt32} {notes : List JobNote}
    {s : JobsState D} (h : Steady initial interval notes s) (move : JobsMove F) :
    Steady initial interval (notes ++ (step deps s move).2) (step deps s move).1 := by
  cases move with
  | enter x =>
    rw [step]
    split
    · simpa using h
    · exact steady_enter deps h x
  | leave =>
    rw [step]
    split
    · exact steady_leave deps h
    · simpa using h
  | complete i outcome =>
    obtain ⟨settled, inflight, w, hworker, hjobs, htracks⟩ := h
    obtain ⟨inflight', hmodify, hsame⟩ := modify_complete i outcome htracks.ended inflight
    refine ⟨settled, inflight', w, hworker, ?_, ?_⟩
    · rw [← hmodify, ← hjobs]
      rfl
    · simpa [step] using htracks.ends hsame

def start (memory : ModelMemoryStore D) (windowOrdinal : UInt32) (circuit : CircuitState)
    (summarizer : Bool) (interval : UInt32) : JobsState D :=
  ⟨⟨windowOrdinal, memory, circuit, some (.new summarizer interval)⟩, [], false⟩

theorem steady_run (memory : ModelMemoryStore D) (windowOrdinal : UInt32) (circuit : CircuitState)
    (summarizer : Bool) (interval : UInt32) (moves : List (JobsMove F)) :
    Steady memory.llmSummary interval
      ((machine deps).run (start memory windowOrdinal circuit summarizer interval) moves).2
      ((machine deps).run (start memory windowOrdinal circuit summarizer interval) moves).1 :=
  Machine.run_history (fun _ notes s => Steady memory.llmSummary interval notes s)
    (fun _ _ _ move h _ => steady_step deps h move)
    ⟨[], none, _, rfl, rfl, .new memory summarizer interval⟩ (Machine.along_true _ _ moves)

theorem startWorker_snapshot (ops : MomentumOps D) {worker : Option ProfileSummaryWorker}
    {memory : ModelMemoryStore D} {snapshot : Snapshot}
    (h : snapshot ∈ (Pipeline.startWorker ops worker memory).2) :
    snapshot = ⟨memory.observationWindows, memory.behaviorProfile ops, memory.recent⟩ := by
  cases worker with
  | none => cases h
  | some w =>
    simp only [Pipeline.startWorker, ProfileSummaryWorker.maybeStart] at h
    split at h
    · exact List.mem_singleton.mp h
    · cases h

theorem started_of_mem_step {s : JobsState D} {move : JobsMove F} {snapshot : Snapshot}
    (h : .started snapshot ∈ (step deps s move).2) :
    snapshot.observedWindows = (step deps s move).1.pipeline.memory.observationWindows := by
  cases move with
  | enter x =>
    rw [step] at h
    split at h
    · cases h
    · simp [enter] at h
  | leave =>
    rw [step] at h ⊢
    split
    · rename_i hmid
      rw [if_pos hmid] at h
      simp only [leave, List.mem_append, List.mem_map, reduceCtorEq, and_false, exists_false,
        JobNote.started.injEq, exists_eq_right, false_or] at h
      rw [startWorker_snapshot deps.ops h]
      rfl
    · rename_i hmid
      rw [if_neg hmid] at h
      cases h
  | complete i outcome => cases h

/-- Whatever the interleaving of windows and threads, one job is in flight at most, a job is
started when the windows observed reach a new multiple of the interval, and the summary is the
last text that a joined job came back with. -/
theorem jobs_serial (memory : ModelMemoryStore D) (windowOrdinal : UInt32)
    (circuit : CircuitState) (summarizer : Bool) (interval : UInt32)
    (moves : List (JobsMove F)) :
    let s := ((machine deps).run (start memory windowOrdinal circuit summarizer interval) moves).1
    let notes :=
      ((machine deps).run (start memory windowOrdinal circuit summarizer interval) moves).2
    s.jobs.map Job.snapshot = startedOf notes ∧
    s.jobs.countP (·.outcome.isNone) ≤ 1 ∧
    (∃ inflight : Option Job, (joinedOf notes).map some ++ (inflight.map Job.outcome).toList =
      s.jobs.map Job.outcome) ∧
    (∀ snapshot ∈ startedOf notes, interval ≠ 0 ∧ snapshot.observedWindows ≠ 0 ∧
      snapshot.observedWindows % interval = 0) ∧
    (∀ move snapshot, .started snapshot ∈ (step deps s move).2 →
      snapshot.observedWindows = (step deps s move).1.pipeline.memory.observationWindows) ∧
    (startedOf notes).Pairwise (·.observedWindows < ·.observedWindows) ∧
    s.pipeline.memory.llmSummary = summaryAfter memory.llmSummary (joinedOf notes) := by
  intro s notes
  obtain ⟨settled, inflight, w, hworker, hjobs, htracks⟩ :=
    steady_run deps memory windowOrdinal circuit summarizer interval moves
  refine ⟨?_, ?_, ⟨inflight, ?_⟩, htracks.due, fun move snapshot => started_of_mem_step deps,
    htracks.increasing, htracks.summary⟩
  · rw [hjobs, htracks.started]
  · have hsettled : settled.countP (·.outcome.isNone) = 0 := by
      refine List.countP_eq_zero.mpr fun job hmem hnone => ?_
      exact absurd (htracks.ended job hmem) (by simp [Option.isNone_iff_eq_none.mp hnone])
    have hone : inflight.toList.length ≤ 1 := by cases inflight <;> simp
    rw [hjobs, List.countP_append, hsettled, Nat.zero_add]
    exact Nat.le_trans List.countP_le_length hone
  · rw [hjobs, List.map_append, htracks.joined, Option.toList_map]

end

end SummaryJobs

end Dipecs.Daemon
