import Dipecs.Core.PrivacyAirgap
import Dipecs.Library.ChangeFeed
import Dipecs.Library.Machine

/-! Process snapshots: which of them become events, and what the events after the airgap
tell of the process table. -/

namespace Dipecs.Collector

open Dipecs.Spec Dipecs.Core Dipecs.Library

structure ProcSnapshot where
  pid : UInt32
  uid : UInt32
  packageName : Option String
  vmRssKb : UInt64
  vmSwapKb : UInt64
  threads : UInt32
  oomScore : Int
  ioReadMb : UInt64
  ioWriteMb : UInt64
  state : ProcState
  deriving DecidableEq

namespace ProcReader

def toEvent (snapshot : ProcSnapshot) (timestampMs : Int) : ProcStateEvent where
  timestampMs := timestampMs
  pid := snapshot.pid
  uid := snapshot.uid
  packageName := snapshot.packageName
  vmRssKb := snapshot.vmRssKb
  vmSwapKb := snapshot.vmSwapKb
  threads := snapshot.threads
  oomScore := snapshot.oomScore
  ioReadMb := snapshot.ioReadMb
  ioWriteMb := snapshot.ioWriteMb
  state := snapshot.state

/-- The comparison of `diff_snapshots`, which looks at neither the package nor the user. -/
def isUnchanged (p c : ProcSnapshot) : Bool :=
  !(p.vmRssKb != c.vmRssKb || p.vmSwapKb != c.vmSwapKb || p.oomScore != c.oomScore ||
    p.threads != c.threads || p.state != c.state)

def diffSnapshots (prev curr : List ProcSnapshot) : List ProcSnapshot :=
  ChangeFeed.diff ProcSnapshot.pid isUnchanged prev curr

/-- One scan of `/proc`, and the order in which the map made of it is then walked. -/
structure Scan where
  nowMs : Int
  snapshots : List ProcSnapshot
  order : Reordering ProcSnapshot

def poll : Machine (List ProcSnapshot) Scan ProcStateEvent where
  step prev scan :=
    let curr := collectByKey ProcSnapshot.pid scan.snapshots
    (curr, (scan.order.reorder (diffSnapshots prev curr)).map (toEvent · scan.nowMs))

/-- What is left of a process event behind the airgap, but for its time and identifier:
package, memory, threads, score and user. -/
def sanitizedView (e : ProcStateEvent) : SanitizedEventType × Option String × Option UInt32 :=
  let sanitized := PrivacyAirGap.sanitizeProc "" e
  (sanitized.eventType, sanitized.appPackage, sanitized.uid)

def snapshotView (snapshot : ProcSnapshot) :
    SanitizedEventType × Option String × Option UInt32 :=
  sanitizedView (toEvent snapshot 0)

/-- The last event of every live process shows the process as it is. -/
def Reconstructs (events : List ProcStateEvent) (table : List ProcSnapshot) : Prop :=
  ChangeFeed.Mirrors ProcSnapshot.pid ProcStateEvent.pid sanitizedView snapshotView events table

/-- A process whose memory, score, threads and state are those of its predecessor under the
same pid has its package and user too. -/
def KeepsIdentity (prev : List ProcSnapshot) (scan : Scan) : Prop :=
  ∀ c ∈ collectByKey ProcSnapshot.pid scan.snapshots, ∀ p,
    ChangeFeed.entry ProcSnapshot.pid prev c.pid = some p → isUnchanged p c = true →
      p.packageName = c.packageName ∧ p.uid = c.uid

theorem isUnchanged_iff {p c : ProcSnapshot} :
    isUnchanged p c = true ↔ p.vmRssKb = c.vmRssKb ∧ p.vmSwapKb = c.vmSwapKb ∧
      p.oomScore = c.oomScore ∧ p.threads = c.threads ∧ p.state = c.state := by
  simp [isUnchanged, and_assoc]

theorem snapshotView_eq_iff {p c : ProcSnapshot} (hpid : p.pid = c.pid)
    (h : isUnchanged p c = true) :
    snapshotView p = snapshotView c ↔ p.packageName = c.packageName ∧ p.uid = c.uid := by
  obtain ⟨hrss, hswap, hscore, hthreads, -⟩ := isUnchanged_iff.mp h
  simp [snapshotView, sanitizedView, PrivacyAirGap.sanitizeProc, toEvent, hpid, hrss, hswap,
    hscore, hthreads]

theorem reconstructs_step_iff {events : List ProcStateEvent} {prev : List ProcSnapshot}
    {scan : Scan} (h : Reconstructs events prev) :
    KeepsIdentity prev scan ↔
      Reconstructs (events ++ (poll.step prev scan).2) (poll.step prev scan).1 := by
  have hdiff := ChangeFeed.mirrors_diff_iff isUnchanged (toEvent · scan.nowMs) scan.order
    (fun _ => rfl) (fun _ => rfl) (collectByKey_nodup ProcSnapshot.pid scan.snapshots) h
  refine Iff.trans ?_ hdiff.symm
  refine forall_congr' fun c => forall_congr' fun _ => forall_congr' fun p => ?_
  refine forall_congr' fun hentry => forall_congr' fun hsame => ?_
  have hpid : p.pid = c.pid := by simpa using List.find?_some hentry
  exact (snapshotView_eq_iff hpid hsame).symm

/-- The events reconstruct the table after every scan exactly when no process takes over a
pid, or another name, with the figures it finds there. -/
theorem poll_reconstructs_iff (scans : List Scan) :
    (∀ k, Reconstructs (poll.run [] (scans.take k)).2 (poll.run [] (scans.take k)).1) ↔
      poll.Along KeepsIdentity [] scans :=
  Machine.run_take_iff_history (fun _ _ _ h => reconstructs_step_iff h) ChangeFeed.mirrors_nil
    scans

def appProcess : ProcSnapshot := ⟨7, 10001, some "com.a", 2048, 0, 3, 100, 0, 0, .sleeping⟩

/-- The pid is used again by a process of another package with the same figures. -/
def reusedScans : List Scan :=
  [⟨0, [appProcess], .id⟩,
    ⟨100, [{ appProcess with packageName := some "com.b", uid := 10002 }], .id⟩]

theorem reused_pid_stays_stale :
    ¬Reconstructs (poll.run [] reusedScans).2 (poll.run [] reusedScans).1 := by
  intro h
  have hview := h { appProcess with packageName := some "com.b", uid := 10002 } (by decide)
  revert hview
  decide

end ProcReader

end Dipecs.Collector
