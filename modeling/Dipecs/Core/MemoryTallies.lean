import Dipecs.Core.MemoryCounters
import Dipecs.Library.Decay
import Mathlib.Algebra.Order.Ring.Rat

/-! What a window does to the tallies of the memory: the prewarms that it resolves are added
before the momentum decays, all else that it shows after. -/

namespace Dipecs.Core

open Dipecs.Spec Dipecs.Library

variable {D F : Type}

def Observation.keys (x : Observation F) : CounterFamily → List String
  | .foreground => x.apps
  | .notifying => x.context.summary.notifiedApps
  | .semanticHint => x.context.summary.allSemanticHints.map SemanticHint.debug
  | .prewarmHit | .prewarmMiss => []
  | family => x.auditRecords.flatMap (ModelMemoryStore.auditBumps family)

namespace ModelMemoryStore

def tally (m : ModelMemoryStore D) : CounterFamily → Tally D
  | .foreground => m.foreground
  | .notifying => m.notifying
  | .semanticHint => m.semanticHint
  | .actionSuccess => m.actionSuccess
  | .actionDenial => m.actionDenial
  | .actionFailure => m.actionFailure
  | .prewarmHit => m.prewarmHit
  | .prewarmMiss => m.prewarmMiss

def resolvedKeys (m : ModelMemoryStore D) (x : Observation F) : CounterFamily → List String
  | .prewarmHit => ((m.resolutions x.apps).filter (·.hit = true)).map (·.prewarm.package)
  | .prewarmMiss => ((m.resolutions x.apps).filter (·.hit = false)).map (·.prewarm.package)
  | _ => []

section observe
variable (ops : MomentumOps D) (m : ModelMemoryStore D)

theorem countAudit_tally (record : AuditRecord) (family : CounterFamily) :
    (countAudit ops m record).tally family =
      (auditBumps family record).foldl (Tally.add ops) (m.tally family) := by
  unfold countAudit auditBumps
  cases record.terminal <;> cases family <;> rfl

theorem foldl_countAudit_tally (records : List AuditRecord) (family : CounterFamily) :
    (records.foldl (countAudit ops) m).tally family =
      (records.flatMap (auditBumps family)).foldl (Tally.add ops) (m.tally family) := by
  induction records generalizing m with
  | nil => rfl
  | cons record records ih =>
    rw [List.foldl_cons, ih, countAudit_tally, List.flatMap_cons, List.foldl_append]

theorem resolvePendingPrewarms_tally (x : Observation F) (family : CounterFamily) :
    (m.resolvePendingPrewarms ops x.apps).tally family =
      (m.resolvedKeys x family).foldl (Tally.add ops) (m.tally family) := by
  obtain ⟨hit, miss, waiting, recent, h⟩ :=
    foldl_resolvePrewarm_frame ops { m with pendingPrewarms := [] } x.apps m.pendingPrewarms
  have hresolved := foldl_resolvePrewarm_tallyOf ops x.apps m.pendingPrewarms
    { m with pendingPrewarms := [] }
  rw [resolvePendingPrewarms]
  cases family with
  | foreground | notifying | semanticHint | actionSuccess | actionDenial | actionFailure =>
    rw [h]
    rfl
  | prewarmHit => exact hresolved true
  | prewarmMiss => exact hresolved false

theorem decayMomentum_tally (family : CounterFamily) :
    (m.decayMomentum ops).tally family =
      (m.tally family).decay ops (ops.ofMilli m.momentumDecayMilli) := by
  cases family <;> rfl

theorem flatMap_auditBumps_eq_nil {family : CounterFamily}
    (h : ∀ terminal, CounterFamily.ofTerminal terminal ≠ some family) (records : List AuditRecord) :
    records.flatMap (auditBumps family) = [] := by
  refine List.flatMap_eq_nil_iff.mpr fun record _ => ?_
  rw [auditBumps, if_neg (h record.terminal)]

theorem foldl_resolvePrewarm_config (apps : List String) (pending : List PendingPrewarm) :
    (pending.foldl (resolvePrewarm ops apps) m).momentumDecayMilli = m.momentumDecayMilli ∧
      (pending.foldl (resolvePrewarm ops apps) m).topLimit = m.topLimit := by
  obtain ⟨hit, miss, waiting, recent, h⟩ := foldl_resolvePrewarm_frame ops m apps pending
  rw [h]
  exact ⟨rfl, rfl⟩

theorem observeWindow_tally (x : Observation F) (family : CounterFamily) :
    (m.observeWindow ops x.context x.decision x.auditRecords).tally family =
      (x.keys family).foldl (Tally.add ops)
        (((m.resolvedKeys x family).foldl (Tally.add ops) (m.tally family)).decay ops
          (ops.ofMilli m.momentumDecayMilli)) := by
  obtain ⟨waiting, recent, h⟩ := observeWindow_eq_countAudit ops m x
  have hmilli : (m.resolvePendingPrewarms ops x.apps).momentumDecayMilli =
      m.momentumDecayMilli :=
    (foldl_resolvePrewarm_config ops { m with pendingPrewarms := [] } x.apps _).1
  have haudit := foldl_countAudit_tally ops
    (((m.resolvePendingPrewarms ops x.apps).decayMomentum ops).countWindow ops x.context)
    x.auditRecords
  have hdecayed := decayMomentum_tally ops (m.resolvePendingPrewarms ops x.apps)
  have hframe : (m.observeWindow ops x.context x.decision x.auditRecords).tally family =
      (x.auditRecords.foldl (countAudit ops)
        (((m.resolvePendingPrewarms ops x.apps).decayMomentum ops).countWindow ops
          x.context)).tally family := by
    rw [h]
    cases family <;> rfl
  rw [hframe, haudit, ← hmilli, ← resolvePendingPrewarms_tally, ← hdecayed]
  cases family with
  | actionSuccess | actionDenial | actionFailure => rfl
  | foreground | notifying | semanticHint | prewarmHit | prewarmMiss =>
    rw [flatMap_auditBumps_eq_nil fun terminal => by
      cases terminal <;> simp [CounterFamily.ofTerminal]]
    rfl

theorem observeWindow_config (x : Observation F) :
    (m.observeWindow ops x.context x.decision x.auditRecords).momentumDecayMilli =
        m.momentumDecayMilli ∧
      (m.observeWindow ops x.context x.decision x.auditRecords).topLimit = m.topLimit ∧
      (m.observeWindow ops x.context x.decision x.auditRecords).lastUpdatedWindowId =
        some x.context.windowId := by
  obtain ⟨waiting, recent, h⟩ := observeWindow_eq_countAudit ops m x
  obtain ⟨s, d, f, haudit⟩ := foldl_countAudit ops
    (((m.resolvePendingPrewarms ops x.apps).decayMomentum ops).countWindow ops x.context)
    x.auditRecords
  obtain ⟨hmilli, htop⟩ :=
    foldl_resolvePrewarm_config ops { m with pendingPrewarms := [] } x.apps m.pendingPrewarms
  rw [h, haudit]
  exact ⟨hmilli, htop, rfl⟩

end observe

end ModelMemoryStore

end Dipecs.Core
