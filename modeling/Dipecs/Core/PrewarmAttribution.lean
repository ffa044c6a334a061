import Dipecs.Core.ContextBuilder
import Dipecs.Core.ContextMemory
import Dipecs.Library.Machine

/-! Prewarm attribution over whole runs: which windows the memory credits to a prewarm,
and when a credited window really opened the app. -/

namespace Dipecs.Core

open Dipecs.Spec Dipecs.Library ContextBuilder

variable {D F : Type} {ops : MomentumOps D}

namespace ModelMemoryStore

def prewarmHits (m : ModelMemoryStore D) (foregroundApps : List String) : List PendingPrewarm :=
  (m.pendingPrewarms.map PendingPrewarm.observed).filter (·.package ∈ foregroundApps)

def staysPending (apps : List String) (horizon : UInt8) (p : PendingPrewarm) : Bool :=
  p.package ∉ apps ∧ p.windowsObserved < horizon

/-- The predictions that `recent` reports as hits all belong to one of `hits`. -/
def HitsRecorded (hits : List PendingPrewarm) (m : ModelMemoryStore D) : Prop :=
  ∀ r ∈ m.recent, ∀ o ∈ r.actionOutcomes, o.correctness = .predictionHit →
    ∃ hit ∈ hits, hit.windowId = r.windowId ∧ o.actionType = "PreWarmProcess" ∧
      o.target = some hit.target

variable (ops)

section resolve
variable (apps : List String) (m : ModelMemoryStore D)

@[simp] theorem recordPrewarmAttribution_prewarmEffectWindows (p : PendingPrewarm)
    (c : FeedbackCorrectness) (e : String) (hit : Bool) :
    (m.recordPrewarmAttribution ops p c e hit).prewarmEffectWindows = m.prewarmEffectWindows := by
  cases hit <;> rfl

@[simp] theorem recordPrewarmAttribution_pendingPrewarms (p : PendingPrewarm)
    (c : FeedbackCorrectness) (e : String) (hit : Bool) :
    (m.recordPrewarmAttribution ops p c e hit).pendingPrewarms = m.pendingPrewarms := by
  cases hit <;> rfl

@[simp] theorem recordPrewarmAttribution_prewarmHit (p : PendingPrewarm)
    (c : FeedbackCorrectness) (e : String) (hit : Bool) :
    (m.recordPrewarmAttribution ops p c e hit).prewarmHit =
      if hit then m.prewarmHit.add ops p.package else m.prewarmHit := by
  cases hit <;> rfl

@[simp] theorem recordPrewarmAttribution_recent (p : PendingPrewarm)
    (c : FeedbackCorrectness) (e : String) (hit : Bool) :
    (m.recordPrewarmAttribution ops p c e hit).recent = m.recent.map (p.markRecord c e hit) := by
  cases hit <;> rfl

theorem resolvePrewarm_cases (p : PendingPrewarm) :
    (p.package ∈ apps ∧ ∃ e, resolvePrewarm ops apps m p =
      m.recordPrewarmAttribution ops p.observed .predictionHit e true) ∨
    (p.package ∉ apps ∧ ¬p.observed.windowsObserved < m.prewarmEffectWindows ∧
      ∃ e, resolvePrewarm ops apps m p =
        m.recordPrewarmAttribution ops p.observed .predictionMiss e false) ∨
    (p.package ∉ apps ∧ p.observed.windowsObserved < m.prewarmEffectWindows ∧
      resolvePrewarm ops apps m p =
        { m with pendingPrewarms := m.pendingPrewarms ++ [p.observed] }) := by
  by_cases hmem : p.observed.package ∈ apps
  · exact .inl ⟨hmem, _, by rw [resolvePrewarm, if_pos hmem]⟩
  · by_cases hlate : p.observed.windowsObserved ≥ m.prewarmEffectWindows
    · exact .inr (.inl ⟨hmem, UInt8.not_lt.mpr hlate, _,
        by rw [resolvePrewarm, if_neg hmem, if_pos hlate]⟩)
    · exact .inr (.inr ⟨hmem, UInt8.not_le.mp hlate,
        by rw [resolvePrewarm, if_neg hmem, if_neg hlate]⟩)

@[simp] theorem resolvePrewarm_prewarmEffectWindows (p : PendingPrewarm) :
    (resolvePrewarm ops apps m p).prewarmEffectWindows = m.prewarmEffectWindows := by
  obtain ⟨-, e, h⟩ | ⟨-, -, e, h⟩ | ⟨-, -, h⟩ := resolvePrewarm_cases ops apps m p <;>
    simp [h]

theorem resolvePrewarm_pendingPrewarms (p : PendingPrewarm) :
    (resolvePrewarm ops apps m p).pendingPrewarms =
      m.pendingPrewarms ++ [p.observed].filter (staysPending apps m.prewarmEffectWindows) := by
  obtain ⟨hp, e, h⟩ | ⟨hp, hlate, e, h⟩ | ⟨hp, hlate, h⟩ :=
    resolvePrewarm_cases ops apps m p
  · have : staysPending apps m.prewarmEffectWindows p.observed = false := by
      simp [staysPending, PendingPrewarm.observed, hp]
    simp [h, this]
  · have : staysPending apps m.prewarmEffectWindows p.observed = false := by
      simp [staysPending, hlate]
    simp [h, this]
  · have : staysPending apps m.prewarmEffectWindows p.observed = true := by
      simp only [staysPending, decide_eq_true_eq]
      exact ⟨hp, hlate⟩
    simp [h, this]

theorem resolvePrewarm_prewarmHit_count (p : PendingPrewarm) (package : String) :
    (resolvePrewarm ops apps m p).prewarmHit.count package =
      m.prewarmHit.count package +
        UInt32.ofNat (([p.observed].filter (·.package ∈ apps)).countP (·.package = package)) := by
  obtain ⟨hp, e, h⟩ | ⟨hp, -, e, h⟩ | ⟨hp, -, h⟩ := resolvePrewarm_cases ops apps m p
  · have hobs : p.observed.package = p.package := rfl
    by_cases hk : p.package = package
    · subst hk
      simp [h, hobs, hp, Tally.count_add]
    · simp [h, hobs, hp, hk, Ne.symm hk, Tally.count_add]
  · have hobs : p.observed.package = p.package := rfl
    simp [h, hobs, hp]
  · have hobs : p.observed.package = p.package := rfl
    simp [h, hobs, hp]

theorem markRecord_hit {p : PendingPrewarm} {c : FeedbackCorrectness} {e : String} {hit : Bool}
    {r : RecentDecisionRecord} {o : ActionFeedbackRecord}
    (ho : o ∈ (p.markRecord c e hit r).actionOutcomes) :
    (o ∈ r.actionOutcomes) ∨
      (o.correctness = c ∧ p.windowId = r.windowId ∧ o.actionType = "PreWarmProcess" ∧
        o.target = some p.target) := by
  unfold PendingPrewarm.markRecord at ho
  split at ho
  · exact .inl ho
  · obtain ⟨o', ho', rfl⟩ := List.mem_map.mp ho
    unfold PendingPrewarm.markOutcome
    split
    · refine .inr ⟨rfl, ?_, ‹_ ∧ _›⟩
      exact (not_not.mp ‹¬r.windowId ≠ p.windowId›).symm
    · exact .inl ho'

@[simp] theorem markRecord_windowId (p : PendingPrewarm) (c : FeedbackCorrectness) (e : String)
    (hit : Bool) (r : RecentDecisionRecord) : (p.markRecord c e hit r).windowId = r.windowId := by
  unfold PendingPrewarm.markRecord
  split <;> rfl

theorem HitsRecorded.mono {hits hits' : List PendingPrewarm} {m : ModelMemoryStore D}
    (h : HitsRecorded hits m) (hsub : hits ⊆ hits') : HitsRecorded hits' m := by
  intro r hr o ho hc
  obtain ⟨hit, hhit, hid⟩ := h r hr o ho hc
  exact ⟨hit, hsub hhit, hid⟩

theorem resolvePrewarm_hitsRecorded {hits : List PendingPrewarm} {m : ModelMemoryStore D}
    (hm : HitsRecorded hits m) (p : PendingPrewarm) :
    HitsRecorded (hits ++ [p.observed].filter (·.package ∈ apps))
      (resolvePrewarm ops apps m p) := by
  have hmono := hm.mono (List.subset_append_left hits ([p.observed].filter (·.package ∈ apps)))
  obtain ⟨hp, e, h⟩ | ⟨hp, -, e, h⟩ | ⟨-, -, h⟩ := resolvePrewarm_cases ops apps m p
  · intro r hr o ho hc
    rw [h, recordPrewarmAttribution_recent] at hr
    obtain ⟨r', hr', rfl⟩ := List.mem_map.mp hr
    rw [markRecord_windowId]
    obtain ho | ⟨-, hid, ht⟩ := markRecord_hit ho
    · exact hmono r' hr' o ho hc
    · have hobs : p.observed.package ∈ apps := hp
      exact ⟨p.observed, by simp [hobs], hid, ht⟩
  · intro r hr o ho hc
    rw [h, recordPrewarmAttribution_recent] at hr
    obtain ⟨r', hr', rfl⟩ := List.mem_map.mp hr
    rw [markRecord_windowId]
    obtain ho | ⟨hmiss, -⟩ := markRecord_hit ho
    · exact hmono r' hr' o ho hc
    · exact absurd (hmiss.symm.trans hc) (by decide)
  · rw [h]
    exact hmono

theorem foldl_resolvePrewarm_pendingPrewarms (l : List PendingPrewarm) (m : ModelMemoryStore D) :
    (l.foldl (resolvePrewarm ops apps) m).prewarmEffectWindows = m.prewarmEffectWindows ∧
    (l.foldl (resolvePrewarm ops apps) m).pendingPrewarms = m.pendingPrewarms ++
      (l.map PendingPrewarm.observed).filter (staysPending apps m.prewarmEffectWindows) := by
  induction l generalizing m with
  | nil => simp
  | cons p l ih =>
    obtain ⟨heff, hpend⟩ := ih (resolvePrewarm ops apps m p)
    rw [resolvePrewarm_prewarmEffectWindows] at heff hpend
    refine ⟨heff, ?_⟩
    rw [List.foldl_cons, hpend, resolvePrewarm_pendingPrewarms, List.append_assoc,
      ← List.filter_append]
    rfl

theorem foldl_resolvePrewarm (l : List PendingPrewarm) (m : ModelMemoryStore D)
    {hits : List PendingPrewarm} (hm : HitsRecorded hits m) :
    let m' := l.foldl (resolvePrewarm ops apps) m
    let seen := l.map PendingPrewarm.observed
    m'.prewarmEffectWindows = m.prewarmEffectWindows ∧
    m'.pendingPrewarms =
      m.pendingPrewarms ++ seen.filter (staysPending apps m.prewarmEffectWindows) ∧
    (∀ package, m'.prewarmHit.count package = m.prewarmHit.count package +
      UInt32.ofNat ((seen.filter (·.package ∈ apps)).countP (·.package = package))) ∧
    HitsRecorded (hits ++ seen.filter (·.package ∈ apps)) m' := by
  obtain ⟨heff, hpend⟩ := foldl_resolvePrewarm_pendingPrewarms ops apps l m
  refine ⟨heff, hpend, ?_⟩
  clear heff hpend
  induction l generalizing m hits with
  | nil => simpa using hm
  | cons p l ih =>
    obtain ⟨hcount, hrec⟩ := ih _ (resolvePrewarm_hitsRecorded ops apps hm p)
    have hcons : ∀ q : PendingPrewarm → Bool, ((p :: l).map PendingPrewarm.observed).filter q =
        [p.observed].filter q ++ (l.map PendingPrewarm.observed).filter q := by
      intro q
      rw [← List.filter_append]
      rfl
    refine ⟨?_, ?_⟩
    · intro package
      rw [hcons, List.foldl_cons, hcount, resolvePrewarm_prewarmHit_count, List.countP_append,
        UInt32.ofNat_add, UInt32.add_assoc]
    · rw [hcons, List.foldl_cons, ← List.append_assoc]
      exact hrec

end resolve

theorem foldl_countAudit (m : ModelMemoryStore D) (records : List AuditRecord) :
    ∃ s d f, records.foldl (countAudit ops) m =
      { m with actionSuccess := s, actionDenial := d, actionFailure := f } := by
  induction records generalizing m with
  | nil => exact ⟨_, _, _, rfl⟩
  | cons r records ih =>
    obtain ⟨s, d, f, h⟩ := ih (countAudit ops m r)
    refine ⟨s, d, f, ?_⟩
    rw [List.foldl_cons, h, countAudit]
    split <;> rfl

theorem foldl_registerPendingPrewarm (context : StructuredContext) (m : ModelMemoryStore D)
    (records : List AuditRecord) :
    records.foldl (registerPendingPrewarm context) m =
      { m with pendingPrewarms :=
        m.pendingPrewarms ++ records.filterMap (pendingPrewarm context) } := by
  induction records generalizing m with
  | nil => simp
  | cons r records ih =>
    rw [List.foldl_cons, ih, List.filterMap_cons]
    cases h : pendingPrewarm context r <;> simp [registerPendingPrewarm, h]

theorem inferCorrectness_ne_hit (r : AuditRecord) :
    (inferCorrectness r).1 ≠ .predictionHit := by
  unfold inferCorrectness
  split
  · decide
  · split <;> decide

theorem observeWindow_frame (m : ModelMemoryStore D) (context : StructuredContext)
    (decision : DecisionBackendResult F) (records : List AuditRecord) :
    let resolved := m.resolvePendingPrewarms ops context.summary.foregroundApps
    let m' := m.observeWindow ops context decision records
    m'.prewarmEffectWindows = resolved.prewarmEffectWindows ∧
    m'.pendingPrewarms =
      resolved.pendingPrewarms ++ records.filterMap (pendingPrewarm context) ∧
    (∀ package, m'.prewarmHit.count package = resolved.prewarmHit.count package) ∧
    ∃ n, m'.recent = (resolved.recent ++ [feedback context decision records]).drop n := by
  obtain ⟨s, d, f, haudit⟩ := foldl_countAudit ops
    (((m.resolvePendingPrewarms ops context.summary.foregroundApps).decayMomentum ops).countWindow
      ops context) records
  simp only [observeWindow, haudit, foldl_registerPendingPrewarm]
  exact ⟨rfl, rfl, fun _ => rfl, _, rfl⟩

theorem observeWindow_prewarms (m : ModelMemoryStore D) (context : StructuredContext)
    (decision : DecisionBackendResult F) (records : List AuditRecord)
    {hits : List PendingPrewarm} (hm : HitsRecorded hits m) :
    let apps := context.summary.foregroundApps
    let m' := m.observeWindow ops context decision records
    m'.prewarmEffectWindows = m.prewarmEffectWindows ∧
    m'.pendingPrewarms =
      (m.pendingPrewarms.map PendingPrewarm.observed).filter
        (staysPending apps m.prewarmEffectWindows) ++
      records.filterMap (pendingPrewarm context) ∧
    (∀ package, m'.prewarmHit.count package = m.prewarmHit.count package +
      UInt32.ofNat ((m.prewarmHits apps).countP (·.package = package))) ∧
    HitsRecorded (hits ++ m.prewarmHits apps) m' := by
  intro apps m'
  obtain ⟨heff, hpend, hcount, hrec⟩ := foldl_resolvePrewarm ops apps m.pendingPrewarms
    { m with pendingPrewarms := [] } hm
  obtain ⟨heff', hpend', hcount', n, hrec'⟩ :=
    observeWindow_frame ops m context decision records
  refine ⟨heff'.trans heff, ?_, fun package => (hcount' package).trans (hcount package), ?_⟩
  · rw [hpend']
    exact congrArg (· ++ _) hpend
  · intro r hr o ho hc
    rw [hrec'] at hr
    obtain hr | hr := List.mem_append.mp (List.mem_of_mem_drop hr)
    · exact hrec r hr o ho hc
    · rw [List.mem_singleton.mp hr] at ho
      obtain ⟨record, -, rfl⟩ := List.mem_map.mp ho
      exact absurd hc (inferCorrectness_ne_hit record)

end ModelMemoryStore

structure Round (F : Type) where
  events : List SanitizedEvent
  nowMs : Int
  draw : WindowDraw
  decision : DecisionBackendResult F
  auditRecords : List AuditRecord

structure Attribution where
  context : StructuredContext
  auditRecords : List AuditRecord
  hits : List PendingPrewarm

def prewarmLoop (ops : MomentumOps D) :
    Machine (WindowAggregator × ModelMemoryStore D) (Round F) Attribution where
  step s r :=
    match (r.events.foldl WindowAggregator.push s.1).close r.nowMs r.draw with
    | (none, w) => ((w, s.2), [])
    | (some context, w) =>
      ((w, s.2.observeWindow ops context r.decision r.auditRecords),
        [⟨context, r.auditRecords, s.2.prewarmHits context.summary.foregroundApps⟩])

def opens (package : String) (events : List SanitizedEvent) : Prop :=
  ∃ e ∈ events, e.openedBy = some package

def isRunning (package : String) (events : List SanitizedEvent) : Prop :=
  ∃ e ∈ events, e.runningBy = some package

instance (package : String) (events : List SanitizedEvent) : Decidable (opens package events) :=
  inferInstanceAs (Decidable (∃ e ∈ events, e.openedBy = some package))

instance (package : String) (events : List SanitizedEvent) :
    Decidable (isRunning package events) :=
  inferInstanceAs (Decidable (∃ e ∈ events, e.runningBy = some package))

def shows (package : String) (events : List SanitizedEvent) : Prop :=
  opens package events ∨ isRunning package events

def Attribution.issued (a : Attribution) (p : PendingPrewarm) : Prop :=
  ∃ record ∈ a.auditRecords,
    ModelMemoryStore.pendingPrewarm a.context record = some { p with windowsObserved := 0 }

/-- Hits mean `evidence`: each is credited to a window that has it of the app and follows
the prewarm within the horizon, and neither the counters nor the feedback know of others. -/
structure HitsMean (evidence : String → List SanitizedEvent → Prop) (horizon : Nat)
    (out : List Attribution) (m : ModelMemoryStore D) : Prop where
  evident : ∀ k a, out[k]? = some a → ∀ hit ∈ a.hits, ∃ i b, out[i]? = some b ∧ b.issued hit ∧
    i < k ∧ k ≤ i + horizon ∧ evidence hit.package a.context.events
  counted : ∀ package, m.prewarmHit.count package =
    UInt32.ofNat ((out.flatMap Attribution.hits).countP (·.package = package))
  recorded : m.HitsRecorded (out.flatMap Attribution.hits)

/-- No window that shows the package of a pending prewarm to be running fails to open it. -/
def NotMerelyRunning (s : WindowAggregator × ModelMemoryStore D) (r : Round F) : Prop :=
  ∀ p ∈ s.2.pendingPrewarms,
    isRunning p.package (s.1.buffer ++ r.events) → opens p.package (s.1.buffer ++ r.events)

instance (s : WindowAggregator × ModelMemoryStore D) (r : Round F) :
    Decidable (NotMerelyRunning s r) :=
  inferInstanceAs (Decidable (∀ p ∈ s.2.pendingPrewarms, _ → _))

/-- The invariant: what is pending was issued as many windows ago as it has observed. -/
structure Attributed (evidence : String → List SanitizedEvent → Prop) (horizon : UInt8)
    (out : List Attribution) (m : ModelMemoryStore D) : Prop
    extends HitsMean evidence horizon.toNat out m where
  effectWindows : m.prewarmEffectWindows = horizon
  pending : ∀ p ∈ m.pendingPrewarms, ∃ i b, out[i]? = some b ∧ b.issued p ∧
    out.length = i + 1 + p.windowsObserved.toNat ∧ p.windowsObserved < horizon

theorem getElem?_append_some {α : Type} {l l' : List α} {i : Nat} {x : α}
    (h : l[i]? = some x) : (l ++ l')[i]? = some x := by
  rw [List.getElem?_append_left (List.getElem?_eq_some_iff.mp h).1, h]

theorem ModelMemoryStore.pendingPrewarm_windowsObserved {context : StructuredContext}
    {record : AuditRecord} {p : PendingPrewarm}
    (h : pendingPrewarm context record = some p) : p.windowsObserved = 0 := by
  unfold pendingPrewarm at h
  split at h
  · cases h
  · simp only [Option.bind_eq_bind, Option.bind_eq_some_iff, Option.some.injEq] at h
    obtain ⟨target, -, package, -, rfl⟩ := h
    rfl

section step
variable {evidence : String → List SanitizedEvent → Prop} {horizon : UInt8}
  {out : List Attribution} {m : ModelMemoryStore D}
  (context : StructuredContext) (decision : DecisionBackendResult F) (records : List AuditRecord)

theorem Attributed.evident_of_hit (h : Attributed evidence horizon out m)
    (hev : ∀ p ∈ m.pendingPrewarms, p.package ∈ context.summary.foregroundApps →
      evidence p.package context.events)
    {hit : PendingPrewarm} (hhit : hit ∈ m.prewarmHits context.summary.foregroundApps) :
    ∃ i b, out[i]? = some b ∧ b.issued hit ∧ i < out.length ∧
      out.length ≤ i + horizon.toNat ∧ evidence hit.package context.events := by
  obtain ⟨hmem, hfg⟩ := List.mem_filter.mp hhit
  obtain ⟨p, hp, rfl⟩ := List.mem_map.mp hmem
  obtain ⟨i, b, hb, hissued, hlen, hlt⟩ := h.pending p hp
  have hlt' : p.windowsObserved.toNat < horizon.toNat := UInt8.lt_iff_toNat_lt.mp hlt
  exact ⟨i, b, hb, hissued, by omega, by omega, hev p hp (of_decide_eq_true hfg)⟩

theorem Attributed.observe (h : Attributed evidence horizon out m) (hpos : 0 < horizon)
    (hev : ∀ p ∈ m.pendingPrewarms, p.package ∈ context.summary.foregroundApps →
      evidence p.package context.events) :
    Attributed evidence horizon
      (out ++ [⟨context, records, m.prewarmHits context.summary.foregroundApps⟩])
      (m.observeWindow ops context decision records) := by
  obtain ⟨heff, hpend, hcount, hrec⟩ :=
    ModelMemoryStore.observeWindow_prewarms ops m context decision records h.recorded
  refine ⟨⟨?evident, ?counted, ?recorded⟩, heff.trans h.effectWindows, ?pending⟩
  case evident =>
    intro k a hk hit hhit
    by_cases hlt : k < out.length
    · rw [List.getElem?_append_left hlt] at hk
      obtain ⟨i, b, hb, rest⟩ := h.evident k a hk hit hhit
      exact ⟨i, b, getElem?_append_some hb, rest⟩
    · have hlen := (List.getElem?_eq_some_iff.mp hk).1
      obtain rfl : k = out.length := by
        rw [List.length_append, List.length_singleton] at hlen
        omega
      rw [List.getElem?_concat_length, Option.some.injEq] at hk
      subst hk
      obtain ⟨i, b, hb, rest⟩ := h.evident_of_hit context hev hhit
      exact ⟨i, b, getElem?_append_some hb, rest⟩
  case counted =>
    intro package
    rw [hcount, h.counted, List.flatMap_append, List.countP_append, UInt32.ofNat_add]
    simp
  case recorded => simpa using hrec
  case pending =>
    intro p hp
    rw [hpend] at hp
    obtain hp | hp := List.mem_append.mp hp
    · -- one window older than before
      obtain ⟨hmem, hstay⟩ := List.mem_filter.mp hp
      obtain ⟨q, hq, rfl⟩ := List.mem_map.mp hmem
      obtain ⟨i, b, hb, hissued, hlen, hlt⟩ := h.pending q hq
      simp only [ModelMemoryStore.staysPending, decide_eq_true_eq, h.effectWindows] at hstay
      refine ⟨i, b, getElem?_append_some hb, hissued, ?_, hstay.2⟩
      have hsucc : (satSucc8 q.windowsObserved).toNat = q.windowsObserved.toNat + 1 := by
        apply satSucc8_toNat
        have := UInt8.lt_iff_toNat_lt.mp hlt
        have := horizon.toNat_lt
        omega
      rw [List.length_append, List.length_singleton, PendingPrewarm.observed, hsucc]
      omega
    · -- issued by this very window
      obtain ⟨record, hrecord, hsome⟩ := List.mem_filterMap.mp hp
      have hzero := ModelMemoryStore.pendingPrewarm_windowsObserved hsome
      refine ⟨out.length, _, List.getElem?_concat_length, ⟨record, hrecord, ?_⟩, ?_, ?_⟩
      · rw [hsome, ← hzero]
      · simp [hzero]
      · rwa [hzero]

end step

theorem foldl_push_buffer (w : WindowAggregator) (events : List SanitizedEvent) :
    (events.foldl WindowAggregator.push w).buffer = w.buffer ++ events := by
  induction events generalizing w with
  | nil => simp
  | cons e events ih => simp [ih]

section run
variable {evidence : String → List SanitizedEvent → Prop}

/-- The evidence that the rule of `build_summary` needs of each pending prewarm. -/
def Evident (evidence : String → List SanitizedEvent → Prop)
    (s : WindowAggregator × ModelMemoryStore D) (r : Round F) : Prop :=
  ∀ p ∈ s.2.pendingPrewarms, shows p.package (s.1.buffer ++ r.events) →
    evidence p.package (s.1.buffer ++ r.events)

theorem prewarmLoop_step {horizon : UInt8} (hpos : 0 < horizon) {out : List Attribution}
    {s : WindowAggregator × ModelMemoryStore D} {r : Round F}
    (h : Attributed evidence horizon out s.2) (hr : Evident evidence s r) :
    Attributed evidence horizon (out ++ ((prewarmLoop ops).step s r).2)
      ((prewarmLoop ops).step s r).1.2 := by
  have hfst := WindowAggregator.close_fst (r.events.foldl WindowAggregator.push s.1) r.nowMs r.draw
  simp only [prewarmLoop]
  split
  · simpa using h
  · rename_i context w hclose
    rw [hclose, foldl_push_buffer] at hfst
    split at hfst
    · cases hfst
    · obtain rfl := Option.some.inj hfst
      refine h.observe _ r.decision r.auditRecords hpos fun p hp hfg => ?_
      rw [WindowAggregator.context_events, foldl_push_buffer]
      obtain ⟨e, he, hseen⟩ := mem_foregroundApps.mp hfg
      rw [foldl_push_buffer] at he
      exact hr p hp (hseen.imp (fun h => ⟨e, he, h⟩) (fun h => ⟨e, he, h⟩))

theorem prewarmLoop_hitsMean (config : ModelMemoryConfig) {windowSecs : UInt64} {nowMs : Int}
    {rounds : List (Round F)}
    (h : (prewarmLoop ops).Along (Evident evidence)
      (.new windowSecs nowMs, ModelMemoryStore.withConfig config) rounds) :
    let r := (prewarmLoop ops).run
      (.new windowSecs nowMs, ModelMemoryStore.withConfig config) rounds
    HitsMean evidence (min (max config.prewarmEffectWindows 1) 20).toNat r.2 r.1.2 := by
  have hpos := ModelMemoryStore.effectWindows_pos config.prewarmEffectWindows
  have hinit : Attributed evidence (min (max config.prewarmEffectWindows 1) 20) []
      (ModelMemoryStore.withConfig (D := D) config) :=
    ⟨⟨by simp, fun _ => rfl, fun r hr => by cases hr⟩, rfl, fun p hp => by cases hp⟩
  have := Machine.run_history (fun _ out s => Attributed evidence _ out s.2)
    (fun _ out s x hinv hok => prewarmLoop_step hpos hinv hok) hinit h
  exact this.toHitsMean

theorem evident_opens_iff {s : WindowAggregator × ModelMemoryStore D} {r : Round F} :
    NotMerelyRunning s r ↔ Evident opens s r :=
  forall₂_congr fun _ _ => ⟨fun h hs => hs.elim id h, fun h hs => h (.inr hs)⟩

end run

/-- In every run of windows, hits mean that the app was opened or shown to be running; they
mean openings when a pending package is never merely running. -/
theorem prewarmLoop_hitsMeanShown (config : ModelMemoryConfig) (windowSecs : UInt64)
    (nowMs : Int) (rounds : List (Round F)) :
    let s := (.new windowSecs nowMs, ModelMemoryStore.withConfig config)
    let r := (prewarmLoop ops).run s rounds
    let horizon := (min (max config.prewarmEffectWindows 1) 20).toNat
    HitsMean shows horizon r.2 r.1.2 ∧
    ((prewarmLoop ops).Along NotMerelyRunning s rounds → HitsMean opens horizon r.2 r.1.2) := by
  refine ⟨prewarmLoop_hitsMean config ?_, fun h => prewarmLoop_hitsMean config ?_⟩
  · exact (Machine.along_congr _ fun _ _ => iff_true_intro fun _ _ hs => hs).mpr
      (Machine.along_true ..)
  · exact (Machine.along_congr _ fun _ _ => evident_opens_iff).mp h

namespace PrewarmSample

def transition (package : String) : SanitizedEvent :=
  ⟨"event", 0, .appTransition package none .foreground, .publicApi, some package, none⟩

def process (package : String) : SanitizedEvent :=
  ⟨"event", 0, .processResource 4211 (some package) 180 0 24 100, .daemon, some package, none⟩

def prewarmed : AuditRecord where
  coord := ⟨0, 0, 0⟩
  intentId := "intent"
  actionType := .preWarmProcess
  target := some "pkg:com.chat"
  effect := .localStateChange
  route := .cloudLlm
  backendError := none
  transitions := [.proposed, .schemaValidated, .policyChecked, .dispatched, .succeeded]
  terminal := .succeeded
  outcome := none
  denialReason := none
  error := none
  sourceTier := .publicApi

def round (windowId : String) (nowMs : Int) (events : List SanitizedEvent)
    (auditRecords : List AuditRecord) : Round ℚ where
  events := events
  nowMs := nowMs
  draw := ⟨windowId, .id⟩
  decision := ⟨.cloudLlm, ⟨windowId, [], nowMs, "model"⟩, [], 0, none⟩
  auditRecords := auditRecords

def running : List (Round ℚ) :=
  [round "w1" 10000 [transition "com.mail"] [prewarmed],
    round "w2" 20000 [process "com.chat"] []]

def opening : List (Round ℚ) :=
  [round "w1" 10000 [transition "com.mail"] [prewarmed],
    round "w2" 20000 [process "com.chat", transition "com.chat"] []]

end PrewarmSample

open PrewarmSample in
theorem prewarmLoop_hitsMeanShown_opening :
    let r := (prewarmLoop rationalMomentum).run (.new 10 0, .withConfig {}) opening
    r.1.2.prewarmHit.count "com.chat" = 1 ∧ HitsMean shows 3 r.2 r.1.2 ∧
      HitsMean opens 3 r.2 r.1.2 := by
  obtain ⟨hshown, hopened⟩ := @prewarmLoop_hitsMeanShown _ _ rationalMomentum {} 10 0 opening
  exact ⟨by decide +kernel, hshown, hopened (by decide +kernel)⟩

open PrewarmSample in
/-- A process that merely runs is taken for an opening. -/
theorem prewarmLoop_hits_running :
    let r := (prewarmLoop rationalMomentum).run (.new 10 0, .withConfig {}) running
    ¬HitsMean opens 3 r.2 r.1.2 ∧ r.1.2.prewarmHit.count "com.chat" = 1 := by
  refine ⟨fun h => ?_, by decide +kernel⟩
  obtain ⟨i, b, -, -, -, -, hopen⟩ := h.evident 1 _ rfl _ (List.mem_singleton.mpr rfl)
  exact absurd hopen (by decide +kernel)

end Dipecs.Core
