import Dipecs.Core.PrewarmAttribution

/-! Prewarm accounting over whole runs: every prewarm that the memory registers is resolved
once, at a window that its package and the horizon fix. -/

namespace Dipecs.Core

open Dipecs.Spec Dipecs.Library

variable {D F : Type}

structure Observation (F : Type) where
  context : StructuredContext
  decision : DecisionBackendResult F
  auditRecords : List AuditRecord

def Observation.apps (x : Observation F) : List String := x.context.summary.foregroundApps

structure Resolution where
  prewarm : PendingPrewarm
  hit : Bool
  deriving DecidableEq

namespace ModelMemoryStore
variable (ops : MomentumOps D)

def verdict (apps : List String) (horizon : UInt8) (p : PendingPrewarm) : Option Bool :=
  if p.package ∈ apps then some true
  else if p.windowsObserved ≥ horizon then some false
  else none

def resolve (apps : List String) (horizon : UInt8) (pending : PendingPrewarm) :
    Option Resolution :=
  (verdict apps horizon pending.observed).map (⟨pending.observed, ·⟩)

def resolutions (m : ModelMemoryStore D) (apps : List String) : List Resolution :=
  m.pendingPrewarms.filterMap (resolve apps m.prewarmEffectWindows)

def tallyOf (m : ModelMemoryStore D) (hit : Bool) : Tally D :=
  if hit then m.prewarmHit else m.prewarmMiss

section
variable (apps : List String) (m : ModelMemoryStore D)

theorem recordPrewarmAttribution_tallyOf (p : PendingPrewarm) (c : FeedbackCorrectness)
    (e : String) (hit hit' : Bool) :
    (m.recordPrewarmAttribution ops p c e hit).tallyOf hit' =
      if hit = hit' then (m.tallyOf hit').add ops p.package else m.tallyOf hit' := by
  cases hit <;> cases hit' <;> rfl

theorem resolvePrewarm_tallyOf (p : PendingPrewarm) (hit : Bool) :
    (resolvePrewarm ops apps m p).tallyOf hit =
      ((((resolve apps m.prewarmEffectWindows p).toList).filter (·.hit = hit)).map
        (·.prewarm.package)).foldl (Tally.add ops) (m.tallyOf hit) := by
  have hobs : p.observed.package = p.package := rfl
  obtain ⟨hp, e, h⟩ | ⟨hp, hlate, e, h⟩ | ⟨hp, hlate, h⟩ := resolvePrewarm_cases ops apps m p
  · rw [h, recordPrewarmAttribution_tallyOf]
    cases hit <;> simp [resolve, verdict, hobs, hp]
  · rw [h, recordPrewarmAttribution_tallyOf]
    have hlate' := UInt8.not_lt.mp hlate
    cases hit <;> simp [resolve, verdict, hobs, hp, hlate']
  · rw [h]
    have hlate' := UInt8.not_le.mpr hlate
    cases hit <;> simp [resolve, verdict, hobs, hp, hlate', tallyOf]

theorem filterMap_resolve_cons (apps : List String) (horizon : UInt8) (p : PendingPrewarm)
    (l : List PendingPrewarm) :
    (p :: l).filterMap (resolve apps horizon) =
      (resolve apps horizon p).toList ++ l.filterMap (resolve apps horizon) := by
  cases h : resolve apps horizon p with
  | none => rw [List.filterMap_cons_none h, Option.toList_none, List.nil_append]
  | some r => rw [List.filterMap_cons_some h, Option.toList_some, List.singleton_append]

theorem foldl_resolvePrewarm_tallyOf (l : List PendingPrewarm) (m : ModelMemoryStore D)
    (hit : Bool) :
    (l.foldl (resolvePrewarm ops apps) m).tallyOf hit =
      (((l.filterMap (resolve apps m.prewarmEffectWindows)).filter (·.hit = hit)).map
        (·.prewarm.package)).foldl (Tally.add ops) (m.tallyOf hit) := by
  induction l generalizing m with
  | nil => rfl
  | cons p l ih =>
    rw [List.foldl_cons, ih, resolvePrewarm_tallyOf, resolvePrewarm_prewarmEffectWindows,
      filterMap_resolve_cons, List.filter_append, List.map_append, List.foldl_append]

end

theorem observeWindow_count (m : ModelMemoryStore D) (x : Observation F) (hit : Bool) :
    ((m.observeWindow ops x.context x.decision x.auditRecords).tallyOf hit).counts =
      ((m.resolvePendingPrewarms ops x.apps).tallyOf hit).counts := by
  obtain ⟨s, d, f, haudit⟩ := foldl_countAudit ops
    (((m.resolvePendingPrewarms ops x.context.summary.foregroundApps).decayMomentum ops).countWindow
      ops x.context) x.auditRecords
  simp only [observeWindow, haudit, foldl_registerPendingPrewarm]
  cases hit <;> rfl

def CountersFit (m : ModelMemoryStore D) (x : Observation F) : Prop :=
  ∀ r ∈ m.resolutions x.apps, ((m.tallyOf r.hit).count r.prewarm.package).toNat +
    (m.resolutions x.apps).countP (fun r' => r'.hit = r.hit ∧
      r'.prewarm.package = r.prewarm.package) < 2 ^ 32

instance (m : ModelMemoryStore D) (x : Observation F) : Decidable (CountersFit m x) :=
  inferInstanceAs (Decidable (∀ r ∈ m.resolutions x.apps, _))

theorem staysPending_observed (apps : List String) (horizon : UInt8) (p : PendingPrewarm) :
    staysPending apps horizon p.observed = (resolve apps horizon p).isNone := by
  unfold staysPending resolve verdict
  by_cases hp : p.observed.package ∈ apps
  · simp [hp]
  · by_cases hlate : p.observed.windowsObserved ≥ horizon
    · simp [hp, hlate, UInt8.not_lt.mpr hlate]
    · simp [hp, hlate, UInt8.not_le.mp hlate]

theorem observeWindow_resolves (m : ModelMemoryStore D) (x : Observation F) :
    let m' := m.observeWindow ops x.context x.decision x.auditRecords
    let rs := m.resolutions x.apps
    m'.prewarmEffectWindows = m.prewarmEffectWindows ∧
    m'.pendingPrewarms =
      (m.pendingPrewarms.filter fun p =>
        (resolve x.apps m.prewarmEffectWindows p).isNone).map PendingPrewarm.observed ++
      x.auditRecords.filterMap (pendingPrewarm x.context) ∧
    (∀ hit, (m'.tallyOf hit).counts =
      (((rs.filter (·.hit = hit)).map (·.prewarm.package)).foldl (Tally.add ops)
        (m.tallyOf hit)).counts) := by
  intro m' rs
  obtain ⟨heff, hpend⟩ := foldl_resolvePrewarm_pendingPrewarms ops x.apps m.pendingPrewarms
    { m with pendingPrewarms := [] }
  obtain ⟨heff', hpend', -⟩ := observeWindow_frame ops m x.context x.decision x.auditRecords
  refine ⟨heff'.trans heff, ?_, fun hit => ?_⟩
  · refine hpend'.trans (congrArg (· ++ _) (hpend.trans ?_))
    rw [List.nil_append, List.filter_map]
    refine congrArg (List.map _) (List.filter_congr fun p _ => ?_)
    exact staysPending_observed x.apps m.prewarmEffectWindows p
  · rw [observeWindow_count, resolvePendingPrewarms, foldl_resolvePrewarm_tallyOf]
    rfl

end ModelMemoryStore

/-! ### What becomes of a prewarm -/

def Issues (context : StructuredContext) (record : AuditRecord) (p : PendingPrewarm) : Prop :=
  record.actionType = .preWarmProcess ∧ record.terminal = .succeeded ∧
    ∃ package, record.target = some ("pkg:" ++ package) ∧
      Text.isBlank Text.isWhiteSpace package = false ∧
      p = ⟨context.windowId, "pkg:" ++ package, Text.trim Text.isWhiteSpace package, 0⟩

theorem pendingPrewarm_eq_some {context : StructuredContext} {record : AuditRecord}
    {p : PendingPrewarm} :
    ModelMemoryStore.pendingPrewarm context record = some p ↔ Issues context record p := by
  unfold ModelMemoryStore.pendingPrewarm Issues normalizePrewarmPackage
  by_cases h : record.actionType = .preWarmProcess ∧ record.terminal = .succeeded
  · obtain ⟨htype, hterminal⟩ := h
    simp only [htype, hterminal, ne_eq, not_true_eq_false, or_self, if_false, true_and,
      Option.bind_eq_bind, Option.bind_eq_some_iff, Option.map_eq_some_iff,
      Option.filter_eq_some_iff, Text.stripPrefix_eq_some, Bool.not_eq_true', Option.some.injEq]
    constructor
    · rintro ⟨target, htarget, _, ⟨package, ⟨rfl, hblank⟩, rfl⟩, rfl⟩
      exact ⟨package, htarget, hblank, rfl⟩
    · rintro ⟨package, htarget, hblank, rfl⟩
      exact ⟨_, htarget, _, ⟨package, ⟨rfl, hblank⟩, rfl⟩, rfl⟩
  · rw [if_pos (by tauto)]
    constructor
    · intro h'
      cases h'
    · rintro ⟨htype, hterminal, -⟩
      exact absurd ⟨htype, hterminal⟩ h

structure Registered where
  window : Nat
  prewarm : PendingPrewarm

def registered (xs : List (Observation F)) : List Registered :=
  xs.zipIdx.flatMap fun (x, i) =>
    (x.auditRecords.filterMap (ModelMemoryStore.pendingPrewarm x.context)).map (⟨i, ·⟩)

/-- The window among those from number `k` on, of at most `horizon`, that resolves a prewarm of
the package: the first to show it, as a hit, or else the last, as a miss. -/
def fateFrom (package : String) : Nat → Nat → List (List String) → Option (Nat × Bool)
  | _, _, [] => none
  | horizon, k, apps :: rest =>
    if package ∈ apps then some (k, true)
    else if horizon ≤ 1 then some (k, false)
    else fateFrom package (horizon - 1) (k + 1) rest

def Registered.fate (horizon : Nat) (xs : List (Observation F)) (r : Registered) :
    Option (Nat × Bool) :=
  fateFrom r.prewarm.package horizon (r.window + 1) ((xs.drop (r.window + 1)).map Observation.apps)

def Registered.after (r : Registered) (k : Nat) : PendingPrewarm :=
  { r.prewarm with windowsObserved := UInt8.ofNat (k - r.window) }

def Registered.resolvedAt (horizon : Nat) (xs : List (Observation F)) (k : Nat)
    (r : Registered) : Option Resolution :=
  match r.fate horizon xs with
  | some (k', hit) => if k' = k then some ⟨r.after k, hit⟩ else none
  | none => none

def Registered.stillPending (horizon : Nat) (xs : List (Observation F)) (r : Registered) :
    Option PendingPrewarm :=
  match r.fate horizon xs with
  | some _ => none
  | none => some (r.after (xs.length - 1))

def Shows (package : String) (l : List (List String)) (j : Nat) : Prop :=
  ∃ apps, l[j]? = some apps ∧ package ∈ apps

section fate
variable (package : String)

@[simp] theorem shows_cons_zero (apps : List String) (l : List (List String)) :
    Shows package (apps :: l) 0 ↔ package ∈ apps := by
  simp [Shows]

@[simp] theorem shows_cons_succ (apps : List String) (l : List (List String)) (j : Nat) :
    Shows package (apps :: l) (j + 1) ↔ Shows package l j := by
  simp [Shows]

theorem fateFrom_append (horizon k : Nat) (l l' : List (List String)) :
    fateFrom package horizon k (l ++ l') = (fateFrom package horizon k l).or
      (fateFrom package (horizon - l.length) (k + l.length) l') := by
  induction l generalizing horizon k with
  | nil => rfl
  | cons apps l ih =>
    rw [List.cons_append, fateFrom, fateFrom, List.length_cons]
    split
    · rfl
    · split
      · rfl
      · rw [ih, Nat.sub_sub, Nat.add_assoc, Nat.add_comm 1]

theorem fateFrom_lt {horizon k k' : Nat} {hit : Bool} {l : List (List String)}
    (h : fateFrom package horizon k l = some (k', hit)) : k ≤ k' ∧ k' < k + l.length := by
  induction l generalizing horizon k with
  | nil => cases h
  | cons apps l ih =>
    rw [fateFrom] at h
    rw [List.length_cons]
    split at h
    · cases h
      omega
    · split at h
      · cases h
        omega
      · have := ih h
        omega

theorem fateFrom_hit {horizon k k' : Nat} (hpos : 0 < horizon) {l : List (List String)}
    (h : fateFrom package horizon k l = some (k', true)) :
    ∃ j, k' = k + j ∧ j < horizon ∧ Shows package l j ∧ ∀ i < j, ¬Shows package l i := by
  induction l generalizing horizon k with
  | nil => cases h
  | cons apps l ih =>
    rw [fateFrom] at h
    split at h
    · cases h
      exact ⟨0, rfl, hpos, by simpa, fun i hi => absurd hi (Nat.not_lt_zero i)⟩
    · split at h
      · cases h
      · obtain ⟨j, rfl, hj, hshows, hfirst⟩ := ih (by omega) h
        refine ⟨j + 1, by omega, by omega, by simpa, fun i hi => ?_⟩
        cases i with
        | zero => simpa
        | succ i =>
          rw [shows_cons_succ]
          exact hfirst i (by omega)

theorem fateFrom_miss {horizon k k' : Nat} (hpos : 0 < horizon) {l : List (List String)}
    (h : fateFrom package horizon k l = some (k', false)) :
    k' + 1 = k + horizon ∧ horizon ≤ l.length ∧ ∀ i < horizon, ¬Shows package l i := by
  induction l generalizing horizon k with
  | nil => cases h
  | cons apps l ih =>
    rw [fateFrom] at h
    split at h
    · cases h
    · split at h
      · cases h
        refine ⟨by omega, by rw [List.length_cons]; omega, fun i hi => ?_⟩
        obtain rfl : i = 0 := by omega
        simpa
      · obtain ⟨hk, hlen, hnone⟩ := ih (by omega) h
        refine ⟨by omega, by rw [List.length_cons]; omega, fun i hi => ?_⟩
        cases i with
        | zero => simpa
        | succ i =>
          rw [shows_cons_succ]
          exact hnone i (by omega)

theorem fateFrom_none {horizon k : Nat} (hpos : 0 < horizon) {l : List (List String)}
    (h : fateFrom package horizon k l = none) :
    l.length < horizon ∧ ∀ i, ¬Shows package l i := by
  induction l generalizing horizon k with
  | nil => exact ⟨hpos, fun i => by simp [Shows]⟩
  | cons apps l ih =>
    rw [fateFrom] at h
    split at h
    · cases h
    · split at h
      · cases h
      · obtain ⟨hlen, hnone⟩ := ih (by omega) h
        refine ⟨by rw [List.length_cons]; omega, fun i => ?_⟩
        cases i with
        | zero => simpa
        | succ i =>
          rw [shows_cons_succ]
          exact hnone i

end fate

def seenAt (xs : List (Observation F)) (package : String) (k : Nat) : Prop :=
  ∃ x, xs[k]? = some x ∧ package ∈ x.apps

/-- A prewarm is a hit at the first window after its own, of at most `horizon`, that shows the
package; a miss at the last of them, if none does; and pending while they are not all seen. -/
structure Fated (horizon : Nat) (xs : List (Observation F)) (r : Registered) : Prop where
  hit : ∀ k, r.fate horizon xs = some (k, true) → r.window < k ∧ k ≤ r.window + horizon ∧
    seenAt xs r.prewarm.package k ∧
    ∀ i, r.window < i → i < k → ¬seenAt xs r.prewarm.package i
  miss : ∀ k, r.fate horizon xs = some (k, false) → k = r.window + horizon ∧ k < xs.length ∧
    ∀ i, r.window < i → i ≤ k → ¬seenAt xs r.prewarm.package i
  pending : r.fate horizon xs = none → xs.length ≤ r.window + horizon ∧
    ∀ i, r.window < i → ¬seenAt xs r.prewarm.package i

theorem shows_iff_seenAt (xs : List (Observation F)) (package : String) (i j : Nat) :
    Shows package ((xs.drop (i + 1)).map Observation.apps) j ↔ seenAt xs package (i + 1 + j) := by
  simp [Shows, seenAt, List.getElem?_drop]

theorem fated {horizon : Nat} (hpos : 0 < horizon) (xs : List (Observation F)) (r : Registered) :
    Fated horizon xs r := by
  refine ⟨fun k h => ?_, fun k h => ?_, fun h => ?_⟩
  · obtain ⟨j, rfl, hj, hshows, hfirst⟩ := fateFrom_hit _ hpos h
    refine ⟨by omega, by omega, (shows_iff_seenAt _ _ _ _).mp hshows, fun i hi hk hseen => ?_⟩
    obtain ⟨j', rfl⟩ := Nat.exists_eq_add_of_lt hi
    exact hfirst j' (by omega) ((shows_iff_seenAt _ _ _ _).mpr (by convert hseen using 1; omega))
  · obtain ⟨hk, hlen, hnone⟩ := fateFrom_miss _ hpos h
    rw [List.length_map, List.length_drop] at hlen
    refine ⟨by omega, by omega, fun i hi hk hseen => ?_⟩
    obtain ⟨j', rfl⟩ := Nat.exists_eq_add_of_lt hi
    exact hnone j' (by omega) ((shows_iff_seenAt _ _ _ _).mpr (by convert hseen using 1; omega))
  · obtain ⟨hlen, hnone⟩ := fateFrom_none _ hpos h
    rw [List.length_map, List.length_drop] at hlen
    refine ⟨by omega, fun i hi hseen => ?_⟩
    obtain ⟨j', rfl⟩ := Nat.exists_eq_add_of_lt hi
    exact hnone j' ((shows_iff_seenAt _ _ _ _).mpr (by convert hseen using 1; omega))

/-! ### One more window -/

section step
variable {horizon : UInt8} (xs : List (Observation F)) (x : Observation F)

theorem registered_append :
    registered (xs ++ [x]) = registered xs ++
      (x.auditRecords.filterMap (ModelMemoryStore.pendingPrewarm x.context)).map
        (⟨xs.length, ·⟩) := by
  simp [registered, List.zipIdx_append]

variable {xs}

theorem window_lt_of_registered {r : Registered} (h : r ∈ registered xs) :
    r.window < xs.length := by
  obtain ⟨⟨y, i⟩, hy, hr⟩ := List.mem_flatMap.mp h
  obtain ⟨p, -, rfl⟩ := List.mem_map.mp hr
  exact (List.getElem?_eq_some_iff.mp (List.mem_zipIdx_iff_getElem?.mp hy)).1

variable (r : Registered)

theorem Registered.fate_lt {r : Registered} {k : Nat} {hit : Bool} {h : Nat}
    (hr : r.window < xs.length) (hf : r.fate h xs = some (k, hit)) : k < xs.length := by
  have := fateFrom_lt _ hf
  rw [List.length_map, List.length_drop] at this
  omega

theorem Registered.fate_append (h : Nat) {r : Registered} (hr : r.window < xs.length) :
    r.fate h (xs ++ [x]) = (r.fate h xs).or
      (fateFrom r.prewarm.package (h - (xs.length - (r.window + 1))) xs.length [x.apps]) := by
  rw [Registered.fate, List.drop_append_of_le_length hr, List.map_append, fateFrom_append,
    List.length_map, List.length_drop, Nat.add_sub_cancel' hr]
  rfl

theorem Registered.fate_new (h : Nat) (p : PendingPrewarm) :
    Registered.fate h (xs ++ [x]) ⟨xs.length, p⟩ = none := by
  have hnil : (xs ++ [x]).drop (xs.length + 1) = [] := by simp
  simp only [Registered.fate, hnil]
  rfl

theorem Registered.observed_after {n : Nat} (hn : r.window < n)
    (hlt : n - 1 - r.window < horizon.toNat) : (r.after (n - 1)).observed = r.after n := by
  have hhorizon := horizon.toNat_lt
  have hle : (UInt8.ofNat (n - 1 - r.window)).toNat = n - 1 - r.window :=
    toNat_ofNat_of_le hlt.le
  have hobs : satSucc8 (UInt8.ofNat (n - 1 - r.window)) = UInt8.ofNat (n - r.window) := by
    apply UInt8.toNat_inj.mp
    have hsucc : n - r.window ≤ horizon.toNat := by omega
    rw [satSucc8_toNat (by omega), hle, toNat_ofNat_of_le hsucc]
    omega
  rw [PendingPrewarm.observed, Registered.after, Registered.after, hobs]

theorem Registered.resolve_after {n : Nat} (hn : r.window < n)
    (hlt : n - 1 - r.window < horizon.toNat) (apps : List String) :
    ModelMemoryStore.resolve apps horizon (r.after (n - 1)) =
      (fateFrom r.prewarm.package (horizon.toNat - (n - (r.window + 1))) n [apps]).map
        fun f => ⟨r.after n, f.2⟩ := by
  have hobs := r.observed_after hn hlt
  have hsucc : n - r.window ≤ horizon.toNat := by omega
  have hlate : (r.after n).windowsObserved ≥ horizon ↔
      horizon.toNat - (n - (r.window + 1)) ≤ 1 := by
    rw [ge_iff_le, UInt8.le_iff_toNat_le, Registered.after, toNat_ofNat_of_le hsucc]
    omega
  have hpackage : (r.after n).package = r.prewarm.package := rfl
  rw [ModelMemoryStore.resolve, hobs, ModelMemoryStore.verdict, hpackage, fateFrom]
  split
  · rfl
  · by_cases h : horizon.toNat - (n - (r.window + 1)) ≤ 1
    · rw [if_pos (hlate.mpr h), if_pos h]
      rfl
    · rw [if_neg (mt hlate.mp h), if_neg h]
      rfl

theorem Registered.waiting_bound (hpos : 0 < horizon.toNat) {r : Registered}
    (hr : r.window < xs.length) (hf : r.fate horizon.toNat xs = none) :
    xs.length - 1 - r.window < horizon.toNat := by
  have := ((fated hpos xs r).pending hf).1
  omega

/-- What the code does to the prewarm at a new window is what its new fate says. -/
theorem Registered.resolvedAt_length (hpos : 0 < horizon.toNat) {r : Registered}
    (hr : r.window < xs.length) :
    r.resolvedAt horizon.toNat (xs ++ [x]) xs.length =
      (r.stillPending horizon.toNat xs).bind (ModelMemoryStore.resolve x.apps horizon) := by
  unfold Registered.resolvedAt Registered.stillPending
  rw [Registered.fate_append x _ hr]
  cases hf : r.fate horizon.toNat xs with
  | some f =>
    have hlt := Registered.fate_lt hr hf
    simp [hlt.ne]
  | none =>
    rw [Option.none_or, Option.bind_some,
      r.resolve_after hr (r.waiting_bound hpos hr hf)]
    cases hnew : fateFrom r.prewarm.package (horizon.toNat - (xs.length - (r.window + 1)))
        xs.length [x.apps] with
    | none => rfl
    | some f =>
      have hbounds := fateFrom_lt _ hnew
      have hk : f.1 = xs.length := by
        rw [List.length_singleton] at hbounds
        omega
      simp [hk]

theorem Registered.resolvedAt_append {h k : Nat} (hk : k < xs.length) {r : Registered}
    (hr : r.window < xs.length) :
    r.resolvedAt h (xs ++ [x]) k = r.resolvedAt h xs k := by
  unfold Registered.resolvedAt
  rw [Registered.fate_append x _ hr]
  cases hf : r.fate h xs with
  | some f => rfl
  | none =>
    rw [Option.none_or]
    cases hnew : fateFrom r.prewarm.package (h - (xs.length - (r.window + 1)))
        xs.length [x.apps] with
    | none => rfl
    | some f =>
      have hbounds := fateFrom_lt _ hnew
      have hne : f.1 ≠ k := by omega
      simp [hne]

theorem Registered.stillPending_append (hpos : 0 < horizon.toNat) {r : Registered}
    (hr : r.window < xs.length) :
    r.stillPending horizon.toNat (xs ++ [x]) =
      (r.stillPending horizon.toNat xs).bind fun p =>
        if (ModelMemoryStore.resolve x.apps horizon p).isNone then some p.observed else none := by
  unfold Registered.stillPending
  rw [Registered.fate_append x _ hr]
  cases hf : r.fate horizon.toNat xs with
  | some f => rfl
  | none =>
    have hlt := r.waiting_bound hpos hr hf
    rw [Option.none_or, Option.bind_some, r.resolve_after hr hlt, r.observed_after hr hlt]
    cases fateFrom r.prewarm.package (horizon.toNat - (xs.length - (r.window + 1)))
        xs.length [x.apps] with
    | none => simp
    | some f => simp

theorem Registered.resolvedAt_new (h k : Nat) (p : PendingPrewarm) :
    Registered.resolvedAt h (xs ++ [x]) k ⟨xs.length, p⟩ = none := by
  rw [Registered.resolvedAt, Registered.fate_new]

theorem Registered.stillPending_new (h : Nat) {p : PendingPrewarm} (hp : p.windowsObserved = 0) :
    Registered.stillPending h (xs ++ [x]) ⟨xs.length, p⟩ = some p := by
  rw [Registered.stillPending, Registered.fate_new]
  simp [Registered.after, ← hp]

end step

/-! ### The accounts -/

/-- The books of a run: what each window resolves and what still waits is as the fates say,
and the counters count it. -/
structure Accounts (horizon : Nat) (xs : List (Observation F)) (out : List (List Resolution))
    (m : ModelMemoryStore D) : Prop where
  length : out.length = xs.length
  resolved : ∀ k rs, out[k]? = some rs →
    rs = (registered xs).filterMap (Registered.resolvedAt horizon xs k)
  pending : m.pendingPrewarms = (registered xs).filterMap (Registered.stillPending horizon xs)
  below : ∀ p ∈ m.pendingPrewarms, p.windowsObserved.toNat < horizon
  counted : ∀ hit package, ((m.tallyOf hit).count package).toNat =
    out.flatten.countP fun r => r.hit = hit ∧ r.prewarm.package = package
  balance : (m.tallyOf true).total + (m.tallyOf false).total + m.pendingPrewarms.length =
    (registered xs).length

def memoryLoop (ops : MomentumOps D) :
    Machine (ModelMemoryStore D) (Observation F) (List Resolution) where
  step m x := (m.observeWindow ops x.context x.decision x.auditRecords, [m.resolutions x.apps])

section step
variable (ops : MomentumOps D) {horizon : UInt8} {xs : List (Observation F)}
  {out : List (List Resolution)} {m : ModelMemoryStore D} (x : Observation F)

theorem filterMap_resolvedAt_append (horizon k : Nat) :
    (registered (xs ++ [x])).filterMap (Registered.resolvedAt horizon (xs ++ [x]) k) =
      (registered xs).filterMap (Registered.resolvedAt horizon (xs ++ [x]) k) := by
  rw [registered_append, List.filterMap_append, List.append_right_eq_self, List.filterMap_map,
    List.filterMap_eq_nil_iff]
  exact fun p _ => Registered.resolvedAt_new x _ _ p

theorem Accounts.resolutions (h : Accounts horizon.toNat xs out m)
    (heff : m.prewarmEffectWindows = horizon) (hpos : 0 < horizon.toNat) :
    m.resolutions x.apps =
      (registered (xs ++ [x])).filterMap
        (Registered.resolvedAt horizon.toNat (xs ++ [x]) xs.length) := by
  rw [filterMap_resolvedAt_append, ModelMemoryStore.resolutions, h.pending, heff,
    List.filterMap_filterMap]
  refine (List.filterMap_congr fun r hr => ?_).symm
  exact Registered.resolvedAt_length x hpos (window_lt_of_registered hr)

theorem Accounts.stillPending (h : Accounts horizon.toNat xs out m)
    (heff : m.prewarmEffectWindows = horizon) (hpos : 0 < horizon.toNat) :
    (m.observeWindow ops x.context x.decision x.auditRecords).pendingPrewarms =
      (registered (xs ++ [x])).filterMap
        (Registered.stillPending horizon.toNat (xs ++ [x])) := by
  obtain ⟨-, hpend, -⟩ := ModelMemoryStore.observeWindow_resolves ops m x
  have hnew : ((x.auditRecords.filterMap (ModelMemoryStore.pendingPrewarm x.context)).map
      fun p => (⟨xs.length, p⟩ : Registered)).filterMap
        (Registered.stillPending horizon.toNat (xs ++ [x])) =
          x.auditRecords.filterMap (ModelMemoryStore.pendingPrewarm x.context) := by
    rw [List.filterMap_map]
    refine (List.filterMap_congr fun p hp => ?_).trans List.filterMap_some
    obtain ⟨record, -, hsome⟩ := List.mem_filterMap.mp hp
    exact Registered.stillPending_new x _ (ModelMemoryStore.pendingPrewarm_windowsObserved hsome)
  rw [hpend, registered_append, List.filterMap_append, hnew, h.pending, heff,
    ← List.filterMap_eq_map, List.filterMap_filter, List.filterMap_filterMap]
  refine congrArg (· ++ _) (List.filterMap_congr fun r hr => ?_).symm
  exact Registered.stillPending_append x hpos (window_lt_of_registered hr)

theorem stillPending_below {h : UInt8} (hpos : 0 < h.toNat) {p : PendingPrewarm}
    (hp : p ∈ (registered xs).filterMap (Registered.stillPending h.toNat xs)) :
    p.windowsObserved.toNat < h.toNat := by
  obtain ⟨r, hr, hsome⟩ := List.mem_filterMap.mp hp
  unfold Registered.stillPending at hsome
  cases hf : r.fate h.toNat xs with
  | some f => simp [hf] at hsome
  | none =>
    rw [hf] at hsome
    obtain rfl := Option.some.inj hsome
    have hlt := r.waiting_bound hpos (window_lt_of_registered hr) hf
    rw [Registered.after, toNat_ofNat_of_le hlt.le]
    exact hlt

theorem count_packages (rs : List Resolution) (hit : Bool) (package : String) :
    ((rs.filter (·.hit = hit)).map (·.prewarm.package)).count package =
      rs.countP fun r => r.hit = hit ∧ r.prewarm.package = package := by
  rw [List.count_eq_countP, List.countP_map, List.countP_filter]
  refine List.countP_congr fun r _ => ?_
  simp [and_comm]

theorem observeWindow_counted (hfit : m.CountersFit x) (hit : Bool) :
    let m' := m.observeWindow ops x.context x.decision x.auditRecords
    let rs := m.resolutions x.apps
    (∀ package, ((m'.tallyOf hit).count package).toNat =
      ((m.tallyOf hit).count package).toNat +
        rs.countP fun r => r.hit = hit ∧ r.prewarm.package = package) ∧
    (m'.tallyOf hit).total = (m.tallyOf hit).total + (rs.filter (·.hit = hit)).length := by
  intro m' rs
  obtain ⟨-, -, hcounts⟩ := ModelMemoryStore.observeWindow_resolves ops m x
  constructor
  · intro package
    have hcount : (m'.tallyOf hit).count package = (m.tallyOf hit).count package +
        UInt32.ofNat (rs.countP fun r => r.hit = hit ∧ r.prewarm.package = package) := by
      rw [← count_packages, ← Tally.count_foldl_add ops, Tally.count, hcounts, ← Tally.count]
    by_cases hany : ∃ r ∈ rs, r.hit = hit ∧ r.prewarm.package = package
    · obtain ⟨r, hr, rfl, rfl⟩ := hany
      have hlt : _ + (rs.countP fun r' => r'.hit = r.hit ∧
        r'.prewarm.package = r.prewarm.package) < 2 ^ 32 := hfit r hr
      rw [hcount, UInt32.toNat_add,
        UInt32.toNat_ofNat_of_lt' (lt_of_le_of_lt (Nat.le_add_left _ _) hlt)]
      exact Nat.mod_eq_of_lt hlt
    · have hzero : (rs.countP fun r => r.hit = hit ∧ r.prewarm.package = package) = 0 := by
        rw [List.countP_eq_zero]
        intro r hr
        simpa using fun h h' => hany ⟨r, hr, h, h'⟩
      rw [hcount, hzero]
      simp
  · have htotal := Tally.total_foldl_add ops ((rs.filter (·.hit = hit)).map (·.prewarm.package))
      (m.tallyOf hit) ?_
    · rw [Tally.total, hcounts, ← Tally.total, htotal, List.length_map]
    · intro package hpackage
      obtain ⟨r, hr, rfl⟩ := List.mem_map.mp hpackage
      obtain ⟨hmem, hhit⟩ := List.mem_filter.mp hr
      obtain rfl := of_decide_eq_true hhit
      rw [count_packages]
      exact hfit r hmem

theorem Accounts.observe (h : Accounts horizon.toNat xs out m)
    (heff : m.prewarmEffectWindows = horizon) (hpos : 0 < horizon.toNat)
    (hfit : m.CountersFit x) :
    Accounts horizon.toNat (xs ++ [x]) (out ++ [m.resolutions x.apps])
      (m.observeWindow ops x.context x.decision x.auditRecords) := by
  have hpending := h.stillPending ops x heff hpos
  refine ⟨?length, ?resolved, hpending, ?below, ?counted, ?balance⟩
  case length => rw [List.length_append, List.length_append, h.length]; rfl
  case resolved =>
    intro k rs hk
    by_cases hlt : k < out.length
    · rw [List.getElem?_append_left hlt] at hk
      rw [h.length] at hlt
      rw [h.resolved k rs hk, filterMap_resolvedAt_append]
      exact List.filterMap_congr fun r hr =>
        (Registered.resolvedAt_append x hlt (window_lt_of_registered hr)).symm
    · have hlen := (List.getElem?_eq_some_iff.mp hk).1
      obtain rfl : k = out.length := by
        rw [List.length_append, List.length_singleton] at hlen
        omega
      rw [List.getElem?_concat_length, Option.some.injEq] at hk
      rw [← hk, h.resolutions x heff hpos, h.length]
  case below =>
    intro p hp
    rw [hpending] at hp
    exact stillPending_below hpos hp
  case counted =>
    intro hit package
    rw [(observeWindow_counted ops x hfit hit).1, h.counted, List.flatten_append,
      List.countP_append, List.flatten_singleton]
  case balance =>
    obtain ⟨-, hpend, -⟩ := ModelMemoryStore.observeWindow_resolves ops m x
    have hhits := (observeWindow_counted ops x hfit true).2
    have hmisses := (observeWindow_counted ops x hfit false).2
    have hbalance := h.balance
    have hrs : (m.resolutions x.apps).length =
        ((m.resolutions x.apps).filter (·.hit = true)).length +
          ((m.resolutions x.apps).filter (·.hit = false)).length := by
      rw [← List.countP_eq_length_filter, ← List.countP_eq_length_filter,
        List.length_eq_countP_add_countP fun r => decide (r.hit = true)]
      simp
    have hwaiting : m.pendingPrewarms.length = (m.resolutions x.apps).length +
        (m.pendingPrewarms.filter fun p =>
          (ModelMemoryStore.resolve x.apps m.prewarmEffectWindows p).isNone).length := by
      rw [ModelMemoryStore.resolutions, List.length_filterMap_eq_countP,
        ← List.countP_eq_length_filter,
        List.length_eq_countP_add_countP fun p =>
          (ModelMemoryStore.resolve x.apps m.prewarmEffectWindows p).isSome]
      exact congrArg _ (List.countP_congr fun p _ => by simp)
    rw [hhits, hmisses, hpend, registered_append]
    simp only [List.length_append, List.length_map]
    omega

end step

/-- In every run from a fresh store in which no counter wraps, every prewarm is resolved as its
fate says and never otherwise, and the books balance. -/
theorem memoryLoop_accounts (ops : MomentumOps D) (config : ModelMemoryConfig)
    (xs : List (Observation F))
    (h : (memoryLoop ops).Along ModelMemoryStore.CountersFit (.withConfig config) xs) :
    let horizon := (min (max config.prewarmEffectWindows 1) 20).toNat
    let r := (memoryLoop ops).run (.withConfig config) xs
    (∀ x ∈ xs, ∀ record p,
      ModelMemoryStore.pendingPrewarm x.context record = some p ↔ Issues x.context record p) ∧
    (∀ p ∈ registered xs, Fated horizon xs p) ∧ Accounts horizon xs r.2 r.1 := by
  intro horizon r
  have hpos : 0 < horizon :=
    UInt8.lt_iff_toNat_lt.mp (ModelMemoryStore.effectWindows_pos config.prewarmEffectWindows)
  have hinit : Accounts (F := F) horizon [] [] (ModelMemoryStore.withConfig (D := D) config) :=
    ⟨rfl, by simp, rfl, by simp [ModelMemoryStore.withConfig],
      fun hit package => by cases hit <;> rfl, rfl⟩
  have hrun := Machine.run_history (fun pre out m => m.prewarmEffectWindows =
      min (max config.prewarmEffectWindows 1) 20 ∧ Accounts horizon pre out m)
    (fun pre out m x hinv hfit => ⟨(ModelMemoryStore.observeWindow_resolves ops m x).1.trans hinv.1,
      hinv.2.observe ops x hinv.1 hpos hfit⟩) ⟨rfl, hinit⟩ h
  exact ⟨fun x _ record p => pendingPrewarm_eq_some, fun p _ => fated hpos xs p, hrun.2⟩

namespace PrewarmSample

def observation (windowId : String) (apps : List String) (auditRecords : List AuditRecord) :
    Observation ℚ where
  context := ⟨windowId, 0, 10000, 10, [], ⟨apps, [], [], [], none, .daemon⟩⟩
  decision := ⟨.cloudLlm, ⟨windowId, [], 10000, "model"⟩, [], 0, none⟩
  auditRecords := auditRecords

/-- The chat is prewarmed twice, and again a window later, which sees it. -/
def overlapping : List (Observation ℚ) :=
  [observation "w1" ["com.mail"] [prewarmed, prewarmed], observation "w2" ["com.chat"] [prewarmed],
    observation "w3" ["com.mail"] []]

end PrewarmSample

open PrewarmSample in
theorem memoryLoop_accounts_overlapping :
    let r := (memoryLoop rationalMomentum).run (.withConfig {}) overlapping
    r.2.map List.length = [0, 2, 0] ∧ r.1.pendingPrewarms.length = 1 ∧
      Accounts 3 overlapping r.2 r.1 :=
  ⟨by decide +kernel, by decide +kernel,
    (memoryLoop_accounts rationalMomentum {} overlapping (by decide +kernel)).2.2⟩

end Dipecs.Core
