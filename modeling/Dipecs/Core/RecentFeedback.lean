import Dipecs.Core.PrewarmFeedback
import Dipecs.Library.Progress

/-! The recent feedback over whole runs: the last windows in order, each as it was recorded and
then marked by every prewarm that a later window resolved. -/

namespace Dipecs.Core

open Dipecs.Spec Dipecs.Library

variable {D F : Type}

def marked (horizon : UInt8) (rs : List Resolution) (record : RecentDecisionRecord) :
    RecentDecisionRecord :=
  rs.foldl (fun record r => r.markRecord horizon record) record

def remembered (horizon : UInt8) (xs : List (Observation F)) (out : List (List Resolution)) :
    List RecentDecisionRecord :=
  xs.zipIdx.map fun y => marked horizon (out.drop (y.2 + 1)).flatten
    (ModelMemoryStore.feedback y.1.context y.1.decision y.1.auditRecords)

section remembered
variable {horizon : UInt8} {xs : List (Observation F)} {out : List (List Resolution)}

theorem remembered_concat (hlen : out.length = xs.length) (x : Observation F)
    (rs : List Resolution) :
    remembered horizon (xs ++ [x]) (out ++ [rs]) =
      (remembered horizon xs out).map (marked horizon rs) ++
        [ModelMemoryStore.feedback x.context x.decision x.auditRecords] := by
  rw [remembered, List.zipIdx_append, List.map_append, remembered, List.map_map]
  refine congrArg₂ (· ++ ·) (List.map_congr_left fun y hy => ?_) ?_
  · have hi : y.2 + 1 ≤ out.length := by
      rw [hlen]
      exact (List.getElem?_eq_some_iff.mp (List.mem_zipIdx_iff_getElem?.mp hy)).1
    rw [Function.comp_apply, List.drop_append_of_le_length hi, List.flatten_append,
      List.flatten_singleton, marked, List.foldl_append]
    rfl
  · have hnil : (out ++ [rs]).drop (0 + xs.length + 1) = [] := by
      rw [List.drop_eq_nil_iff, List.length_append, List.length_singleton, hlen, Nat.zero_add]
    rw [List.zipIdx_singleton, List.map_singleton, hnil]
    rfl

@[simp] theorem length_remembered : (remembered horizon xs out).length = xs.length := by
  rw [remembered, List.length_map, List.length_zipIdx]

end remembered

namespace ModelMemoryStore
variable (ops : MomentumOps D)

theorem observeWindow_recent_eq (m : ModelMemoryStore D) (x : Observation F)
    (hlimit : 0 < m.recentLimit) :
    (m.observeWindow ops x.context x.decision x.auditRecords).recent =
      m.surviving.map (marked m.prewarmEffectWindows (m.resolutions x.apps)) ++
        [feedback x.context x.decision x.auditRecords] := by
  obtain ⟨s, d, f, haudit⟩ := foldl_countAudit ops
    (((m.resolvePendingPrewarms ops x.context.summary.foregroundApps).decayMomentum ops).countWindow
      ops x.context) x.auditRecords
  have hkept : (m.resolvePendingPrewarms ops x.apps).recentLimit = m.recentLimit :=
    foldl_resolvePrewarm_recentLimit ops x.apps m.pendingPrewarms { m with pendingPrewarms := [] }
  have hresolved : (m.resolvePendingPrewarms ops x.apps).recent =
      m.recent.map (marked m.prewarmEffectWindows (m.resolutions x.apps)) :=
    foldl_resolvePrewarm_recent ops x.apps m.pendingPrewarms { m with pendingPrewarms := [] }
  have hpushed : (m.observeWindow ops x.context x.decision x.auditRecords).recent =
      ((m.resolvePendingPrewarms ops x.apps).recent ++
        [feedback x.context x.decision x.auditRecords]).drop
          ((m.resolvePendingPrewarms ops x.apps).recent.length + 1 -
            (m.resolvePendingPrewarms ops x.apps).recentLimit) := by
    simp only [observeWindow, haudit, foldl_registerPendingPrewarm, pushRecent, List.length_append,
      List.length_singleton]
    rfl
  rw [hpushed, hkept, hresolved, List.length_map, List.drop_append_of_le_length, ← List.map_drop]
  · rfl
  · rw [List.length_map]
    omega

theorem observeWindow_recentLimit (m : ModelMemoryStore D) (x : Observation F) :
    (m.observeWindow ops x.context x.decision x.auditRecords).recentLimit = m.recentLimit := by
  obtain ⟨s, d, f, haudit⟩ := foldl_countAudit ops
    (((m.resolvePendingPrewarms ops x.context.summary.foregroundApps).decayMomentum ops).countWindow
      ops x.context) x.auditRecords
  simp only [observeWindow, haudit, foldl_registerPendingPrewarm]
  exact foldl_resolvePrewarm_recentLimit ops x.apps m.pendingPrewarms
    { m with pendingPrewarms := [] }

end ModelMemoryStore

/-! ### What the feedback tells -/

/-- The resolution of the prewarm that a window asked for with success under the target of the
record, if it has one. -/
def toldBy (horizon : UInt8) (xs : List (Observation F)) (x : Observation F) (i : Nat)
    (record : AuditRecord) : Option Resolution :=
  if record.actionType = .preWarmProcess then do
    let p ← (x.auditRecords.filterMap (ModelMemoryStore.pendingPrewarm x.context)).find?
      fun p => record.target = some p.target
    let (k, hit) ← Registered.fate horizon.toNat xs ⟨i, p⟩
    some ⟨Registered.after ⟨i, p⟩ k, hit⟩
  else none

def toldOutcome (horizon : UInt8) (xs : List (Observation F)) (x : Observation F) (i : Nat)
    (record : AuditRecord) : ActionFeedbackRecord :=
  match toldBy horizon xs x i record with
  | none => actionFeedback record
  | some r => { actionFeedback record with
      correctness := r.correctness
      correctnessEvidence := r.evidence horizon
      outcomeSummary := some
        ((if r.hit then "prewarm_effect_hit:" else "prewarm_effect_miss:") ++ r.prewarm.package) }

/-- What the memory is to tell of a window, from the windows alone. -/
def toldFeedback (horizon : UInt8) (xs : List (Observation F)) (x : Observation F) (i : Nat) :
    RecentDecisionRecord :=
  { ModelMemoryStore.feedback x.context x.decision x.auditRecords with
    actionOutcomes := x.auditRecords.map (toldOutcome horizon xs x i) }

namespace Resolution
variable {horizon : UInt8} {windowId : String} {o : ActionFeedbackRecord} {r : Resolution}

theorem markOutcome_of_not_rewrites (h : r.rewrites windowId o = false) :
    r.markOutcome horizon windowId o = o := by
  unfold Resolution.markOutcome PendingPrewarm.markOutcome
  unfold Resolution.rewrites at h
  split
  · rename_i hid
    rw [if_neg (by simpa [hid] using h)]
  · rfl

theorem markOutcome_markOutcome :
    r.markOutcome horizon windowId (r.markOutcome horizon windowId o) =
      r.markOutcome horizon windowId o := by
  unfold Resolution.markOutcome PendingPrewarm.markOutcome
  split
  · split <;> simp_all
  · rfl

theorem rewrites_markOutcome (r' : Resolution) :
    r'.rewrites windowId (r.markOutcome horizon windowId o) = r'.rewrites windowId o := by
  obtain ⟨htype, htarget, -⟩ := r.markOutcome_frame horizon windowId o
  simp only [Resolution.rewrites, htype, htarget]

theorem foldl_markOutcome_marked {rs : List Resolution}
    (h : ∀ r' ∈ rs, r'.rewrites windowId o = true → r' = r) :
    rs.foldl (fun o r => r.markOutcome horizon windowId o) (r.markOutcome horizon windowId o) =
      r.markOutcome horizon windowId o := by
  induction rs with
  | nil => rfl
  | cons r' rs ih =>
    have hrest := ih fun r'' hr'' => h r'' (List.mem_cons_of_mem _ hr'')
    cases hr' : r'.rewrites windowId o with
    | false =>
      rw [List.foldl_cons, markOutcome_of_not_rewrites ((rewrites_markOutcome r').trans hr'), hrest]
    | true =>
      obtain rfl := h r' List.mem_cons_self hr'
      rw [List.foldl_cons, markOutcome_markOutcome, hrest]

theorem foldl_markOutcome_eq {rs : List Resolution}
    (h : ∀ r' ∈ rs, r'.rewrites windowId o = true → r' = r) (hr : r ∈ rs)
    (hmatch : r.rewrites windowId o = true) :
    rs.foldl (fun o r => r.markOutcome horizon windowId o) o =
      r.markOutcome horizon windowId o := by
  induction rs with
  | nil => cases hr
  | cons r' rs ih =>
    have hrest : ∀ r'' ∈ rs, r''.rewrites windowId o = true → r'' = r :=
      fun r'' hr'' => h r'' (List.mem_cons_of_mem _ hr'')
    cases hr' : r'.rewrites windowId o with
    | false =>
      have hne : r ≠ r' := by
        rintro rfl
        rw [hmatch] at hr'
        cases hr'
      rw [List.foldl_cons, markOutcome_of_not_rewrites hr',
        ih hrest (List.mem_of_ne_of_mem hne hr)]
    | true =>
      obtain rfl := h r' List.mem_cons_self hr'
      rw [List.foldl_cons, foldl_markOutcome_marked hrest]

theorem foldl_markOutcome_of_not_rewrites {rs : List Resolution}
    (h : ∀ r' ∈ rs, r'.rewrites windowId o = false) :
    rs.foldl (fun o r => r.markOutcome horizon windowId o) o = o := by
  induction rs with
  | nil => rfl
  | cons r' rs ih =>
    rw [List.foldl_cons, markOutcome_of_not_rewrites (h r' List.mem_cons_self),
      ih fun r'' hr'' => h r'' (List.mem_cons_of_mem _ hr'')]

end Resolution

structure Recalls (limit : Nat) (horizon : UInt8) (xs : List (Observation F))
    (out : List (List Resolution)) (m : ModelMemoryStore D) : Prop where
  recentLimit : m.recentLimit = limit
  effectWindows : m.prewarmEffectWindows = horizon
  length : out.length = xs.length
  recent : m.recent = (remembered horizon xs out).drop (xs.length - limit)

theorem Recalls.observe {limit : Nat} {horizon : UInt8} {xs : List (Observation F)}
    {out : List (List Resolution)} {m : ModelMemoryStore D} (h : Recalls limit horizon xs out m)
    (ops : MomentumOps D) (hpos : 0 < limit) (x : Observation F) :
    Recalls limit horizon (xs ++ [x]) (out ++ [m.resolutions x.apps])
      (m.observeWindow ops x.context x.decision x.auditRecords) := by
  have hrecent := m.observeWindow_recent_eq ops x (h.recentLimit ▸ hpos)
  refine ⟨?_, (ModelMemoryStore.observeWindow_resolves ops m x).1.trans h.effectWindows, ?_, ?_⟩
  · exact (m.observeWindow_recentLimit ops x).trans h.recentLimit
  · rw [List.length_append, List.length_append, h.length]
    rfl
  · rw [hrecent, remembered_concat h.length, ModelMemoryStore.surviving, h.recent, h.effectWindows,
      h.recentLimit, List.drop_drop, List.length_drop, length_remembered, List.length_append,
      List.length_singleton, List.drop_append_of_le_length, List.map_drop]
    · congr 2
      omega
    · rw [List.length_map, length_remembered]
      omega

/-! ### What is recalled is what is to be told -/

theorem pendingPrewarm_spec {context : StructuredContext} {record : AuditRecord}
    {p : PendingPrewarm} (h : ModelMemoryStore.pendingPrewarm context record = some p) :
    p.windowId = context.windowId ∧ normalizePrewarmPackage p.target = some p.package ∧
      p.windowsObserved = 0 := by
  unfold ModelMemoryStore.pendingPrewarm at h
  split at h
  · cases h
  · simp only [Option.bind_eq_bind, Option.bind_eq_some_iff] at h
    obtain ⟨target, -, package, hpackage, hp⟩ := h
    cases hp
    exact ⟨rfl, hpackage, rfl⟩

theorem pendingPrewarm_eq {context : StructuredContext} {record record' : AuditRecord}
    {p p' : PendingPrewarm} (h : ModelMemoryStore.pendingPrewarm context record = some p)
    (h' : ModelMemoryStore.pendingPrewarm context record' = some p')
    (htarget : p.target = p'.target) : p = p' := by
  obtain ⟨hid, hpackage, hzero⟩ := pendingPrewarm_spec h
  obtain ⟨hid', hpackage', hzero'⟩ := pendingPrewarm_spec h'
  have hsame : p.package = p'.package := by
    rw [htarget, hpackage'] at hpackage
    exact (Option.some.inj hpackage).symm
  cases p
  cases p'
  simp_all

theorem mem_registered {xs : List (Observation F)} {r : Registered} :
    r ∈ registered xs ↔ ∃ x, xs[r.window]? = some x ∧ ∃ record ∈ x.auditRecords,
      ModelMemoryStore.pendingPrewarm x.context record = some r.prewarm := by
  rw [registered, List.mem_flatMap]
  constructor
  · rintro ⟨⟨x, i⟩, hx, hr⟩
    obtain ⟨p, hp, rfl⟩ := List.mem_map.mp hr
    exact ⟨x, List.mem_zipIdx_iff_getElem?.mp hx, List.mem_filterMap.mp hp⟩
  · rintro ⟨x, hx, hrecord⟩
    exact ⟨(x, r.window), List.mem_zipIdx_iff_getElem?.mpr hx,
      List.mem_map.mpr ⟨r.prewarm, List.mem_filterMap.mpr hrecord, rfl⟩⟩

theorem resolvedAt_eq_some {horizon k : Nat} {xs : List (Observation F)} {q : Registered}
    {r : Resolution} : q.resolvedAt horizon xs k = some r ↔
      q.fate horizon xs = some (k, r.hit) ∧ r.prewarm = q.after k := by
  unfold Registered.resolvedAt
  cases q.fate horizon xs with
  | none => simp
  | some f =>
    obtain ⟨k', hit⟩ := f
    obtain ⟨prewarm, hit'⟩ := r
    by_cases hk : k' = k
    · simp [hk, and_comm, eq_comm]
    · simp [hk]

section told
variable {horizon : UInt8} {xs : List (Observation F)} {out : List (List Resolution)}
  {x : Observation F} {i : Nat} {record : AuditRecord}

theorem toldBy_eq_some {r : Resolution} :
    toldBy horizon xs x i record = some r ↔ record.actionType = .preWarmProcess ∧
      ∃ p k, (x.auditRecords.filterMap (ModelMemoryStore.pendingPrewarm x.context)).find?
          (fun p => record.target = some p.target) = some p ∧
        Registered.fate horizon.toNat xs ⟨i, p⟩ = some (k, r.hit) ∧
        r.prewarm = Registered.after ⟨i, p⟩ k := by
  unfold toldBy
  obtain ⟨prewarm, hit⟩ := r
  split
  · rename_i htype
    simp only [htype, true_and, Option.bind_eq_bind, Option.bind_eq_some_iff, Option.some.injEq,
      Resolution.mk.injEq, Prod.exists]
    constructor
    · rintro ⟨p, hp, k, hit', hfate, rfl, rfl⟩
      exact ⟨p, k, hp, hfate, rfl⟩
    · rintro ⟨p, k, hp, hfate, rfl⟩
      exact ⟨p, hp, k, hit, hfate, rfl, rfl⟩
  · simp_all

theorem debug_eq_preWarmProcess {action : ActionType} :
    action.debug = "PreWarmProcess" ↔ action = .preWarmProcess := by
  cases action <;> simp [ActionType.debug]

/-- With one id for each window, a prewarm tells by its id which window asked for it. -/
theorem asked_of_windowId (hids : (xs.map (·.context.windowId)).Nodup) (hx : xs[i]? = some x)
    {q : Registered} (hq : q ∈ registered xs) (hid : q.prewarm.windowId = x.context.windowId) :
    ∃ p, q = ⟨i, p⟩ ∧
      p ∈ x.auditRecords.filterMap (ModelMemoryStore.pendingPrewarm x.context) := by
  obtain ⟨y, hy, asked, hasked, hpending⟩ := mem_registered.mp hq
  have hwindow : q.window = i := by
    refine (List.getElem?_inj (l := xs.map (·.context.windowId)) ?_ hids).mp ?_
    · rw [List.length_map]
      exact (List.getElem?_eq_some_iff.mp hy).1
    · rw [List.getElem?_map, List.getElem?_map, hy, hx, Option.map_some, Option.map_some, ← hid,
        (pendingPrewarm_spec hpending).1]
  obtain ⟨window, p⟩ := q
  obtain rfl : window = i := hwindow
  obtain rfl : y = x := Option.some.inj (hy.symm.trans hx)
  exact ⟨p, rfl, List.mem_filterMap.mpr ⟨asked, hasked, hpending⟩⟩

theorem find?_asked {target : Option String} {p : PendingPrewarm}
    (hp : p ∈ x.auditRecords.filterMap (ModelMemoryStore.pendingPrewarm x.context))
    (htarget : target = some p.target) :
    (x.auditRecords.filterMap (ModelMemoryStore.pendingPrewarm x.context)).find?
      (fun p => target = some p.target) = some p := by
  cases hfind : (x.auditRecords.filterMap (ModelMemoryStore.pendingPrewarm x.context)).find?
      fun p => target = some p.target with
  | none => exact absurd (decide_eq_true htarget) (List.find?_eq_none.mp hfind p hp)
  | some p' =>
    obtain ⟨asked, -, hpending⟩ := List.mem_filterMap.mp hp
    obtain ⟨asked', -, hpending'⟩ := List.mem_filterMap.mp (List.mem_of_find?_eq_some hfind)
    have htarget' : target = some p'.target := by simpa using List.find?_some hfind
    rw [pendingPrewarm_eq hpending' hpending (Option.some.inj (htarget'.symm.trans htarget))]

theorem rewrites_iff (hlen : out.length = xs.length)
    (hresolved : ∀ k rs, out[k]? = some rs →
      rs = (registered xs).filterMap (Registered.resolvedAt horizon.toNat xs k))
    (hids : (xs.map (·.context.windowId)).Nodup) (hx : xs[i]? = some x) (r : Resolution) :
    (r ∈ (out.drop (i + 1)).flatten ∧
        r.rewrites x.context.windowId (actionFeedback record) = true) ↔
      toldBy horizon xs x i record = some r := by
  have hrewrites : r.rewrites x.context.windowId (actionFeedback record) = true ↔
      r.prewarm.windowId = x.context.windowId ∧ record.actionType = .preWarmProcess ∧
        record.target = some r.prewarm.target := by
    rw [Resolution.rewrites, decide_eq_true_eq, actionFeedback, debug_eq_preWarmProcess]
  rw [hrewrites, toldBy_eq_some]
  constructor
  · rintro ⟨hmem, hid, htype, htarget⟩
    obtain ⟨rs, hrs, hr⟩ := List.mem_flatten.mp hmem
    obtain ⟨j, hj⟩ := List.getElem?_of_mem hrs
    rw [List.getElem?_drop] at hj
    rw [hresolved _ rs hj] at hr
    obtain ⟨q, hq, hsome⟩ := List.mem_filterMap.mp hr
    obtain ⟨hfate, hprewarm⟩ := resolvedAt_eq_some.mp hsome
    rw [hprewarm] at hid htarget
    obtain ⟨p, rfl, hp⟩ := asked_of_windowId hids hx hq hid
    exact ⟨htype, p, _, find?_asked hp htarget, hfate, hprewarm⟩
  · rintro ⟨htype, p, k, hfind, hfate, hprewarm⟩
    obtain ⟨asked, hasked, hpending⟩ :=
      List.mem_filterMap.mp (List.mem_of_find?_eq_some hfind)
    have hptarget : record.target = some p.target := by simpa using List.find?_some hfind
    have hregistered : (⟨i, p⟩ : Registered) ∈ registered xs :=
      mem_registered.mpr ⟨x, hx, asked, hasked, hpending⟩
    have hk := Registered.fate_lt (window_lt_of_registered hregistered) hfate
    have hik : i + 1 ≤ k := (fateFrom_lt _ hfate).1
    refine ⟨List.mem_flatten.mpr ⟨out[k], ?_, ?_⟩, ?_, htype, ?_⟩
    · rw [List.mem_drop_iff_getElem]
      exact ⟨k - (i + 1), by omega, by congr 1; omega⟩
    · rw [hresolved k out[k] (List.getElem?_eq_getElem _)]
      exact List.mem_filterMap.mpr ⟨_, hregistered, resolvedAt_eq_some.mpr ⟨hfate, hprewarm⟩⟩
    · rw [hprewarm, ← (pendingPrewarm_spec hpending).1]
      rfl
    · rw [hptarget, hprewarm]
      rfl

theorem marked_eq_told (hlen : out.length = xs.length)
    (hresolved : ∀ k rs, out[k]? = some rs →
      rs = (registered xs).filterMap (Registered.resolvedAt horizon.toNat xs k))
    (hids : (xs.map (·.context.windowId)).Nodup) (hx : xs[i]? = some x) :
    marked horizon (out.drop (i + 1)).flatten
        (ModelMemoryStore.feedback x.context x.decision x.auditRecords) =
      toldFeedback horizon xs x i := by
  rw [marked, Resolution.foldl_markRecord, toldFeedback]
  refine congrArg (fun outcomes => { ModelMemoryStore.feedback x.context x.decision x.auditRecords
    with actionOutcomes := outcomes }) ?_
  refine (List.map_map ..).trans (List.map_congr_left fun record _ => ?_)
  have hiff : ∀ r, (r ∈ (out.drop (i + 1)).flatten ∧
      r.rewrites x.context.windowId (actionFeedback record) = true) ↔
      toldBy horizon xs x i record = some r := rewrites_iff hlen hresolved hids hx
  rw [toldOutcome]
  cases htold : toldBy horizon xs x i record with
  | none =>
    refine Resolution.foldl_markOutcome_of_not_rewrites fun r hr => ?_
    refine Bool.eq_false_iff.mpr fun hmatch => ?_
    rw [(hiff r).mp ⟨hr, hmatch⟩] at htold
    cases htold
  | some r =>
    obtain ⟨hr, hmatch⟩ := (hiff r).mpr htold
    have hsame : ∀ r' ∈ (out.drop (i + 1)).flatten,
        r'.rewrites x.context.windowId (actionFeedback record) = true → r' = r := by
      intro r' hr' hmatch'
      have heq := (hiff r').mp ⟨hr', hmatch'⟩
      rw [htold] at heq
      exact (Option.some.inj heq).symm
    refine (Resolution.foldl_markOutcome_eq hsame hr hmatch).trans ?_
    rw [Resolution.rewrites, decide_eq_true_eq] at hmatch
    obtain ⟨hid, hkey⟩ := hmatch
    rw [Resolution.markOutcome, PendingPrewarm.markOutcome]
    exact (if_pos hid).trans (if_pos hkey)

end told

/-- In every run from a fresh store in which windows have ids of their own and no counter wraps,
the model is given the last windows in order, each with its own record and the fate of every
prewarm it asked for with success. -/
theorem recentFeedback_told (ops : MomentumOps D) (config : ModelMemoryConfig)
    (xs : List (Observation F)) (context : StructuredContext)
    (hids : (xs.map (·.context.windowId)).Nodup)
    (hfit : (memoryLoop ops).Along ModelMemoryStore.CountersFit (.withConfig config) xs) :
    let m := ((memoryLoop ops).run (.withConfig config) xs).1
    let horizon := min (max config.prewarmEffectWindows 1) 20
    (m.modelInput ops context).recentFeedback =
      (xs.zipIdx.drop (xs.length - min (max config.recentLimit 1) 50)).map fun y =>
        toldFeedback horizon xs y.1 y.2 := by
  intro m horizon
  have hpos : 0 < horizon.toNat :=
    UInt8.lt_iff_toNat_lt.mp (ModelMemoryStore.effectWindows_pos config.prewarmEffectWindows)
  have hinit : Accounts (F := F) horizon.toNat [] []
      (ModelMemoryStore.withConfig (D := D) config) :=
    ⟨rfl, by simp, rfl, by simp [ModelMemoryStore.withConfig],
      fun hit package => by cases hit <;> rfl, rfl⟩
  have hfresh : Recalls (F := F) (min (max config.recentLimit 1) 50) horizon [] []
      (ModelMemoryStore.withConfig (D := D) config) :=
    ⟨rfl, rfl, rfl, by rw [remembered, List.zipIdx_nil, List.map_nil, List.drop_nil]; rfl⟩
  have hrun := Machine.run_history (fun pre out m => Accounts horizon.toNat pre out m ∧
      Recalls (min (max config.recentLimit 1) 50) horizon pre out m)
    (fun pre out m x hinv hfit => ⟨hinv.1.observe ops x hinv.2.effectWindows hpos hfit,
      hinv.2.observe ops (by omega) x⟩) ⟨hinit, hfresh⟩ hfit
  obtain ⟨haccounts, hrecalls⟩ := hrun
  refine hrecalls.recent.trans ?_
  rw [remembered, ← List.map_drop]
  refine List.map_congr_left fun y hy => ?_
  exact marked_eq_told haccounts.length haccounts.resolved hids
    (List.mem_zipIdx_iff_getElem?.mp (List.mem_of_mem_drop hy))

open PrewarmSample in
theorem recentFeedback_told_overlapping :
    let m := ((memoryLoop rationalMomentum).run (.withConfig {}) overlapping).1
    let next := (observation "w4" [] []).context
    (toldOutcome 3 overlapping (observation "w1" ["com.mail"] [prewarmed, prewarmed]) 0
        prewarmed).correctness = .predictionHit ∧
      (m.modelInput rationalMomentum next).recentFeedback =
        overlapping.zipIdx.map fun y => toldFeedback 3 overlapping y.1 y.2 :=
  ⟨by decide +kernel, recentFeedback_told rationalMomentum {} overlapping _ (by decide +kernel)
    (by decide +kernel)⟩

end Dipecs.Core
