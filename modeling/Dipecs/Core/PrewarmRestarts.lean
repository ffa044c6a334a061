import Dipecs.Core.MemoryPersistence
import Dipecs.Core.PrewarmAccounting

/-! Prewarms across restarts.  A pending prewarm keeps its age when the store is saved and
loaded, while the horizon is that of the new configuration. -/

namespace Dipecs.Core

open Dipecs.Spec Dipecs.Library

variable {D F : Type}

namespace ModelMemoryStore

def reread (m : ModelMemoryStore D) (f : D → D) : ModelMemoryStore D :=
  let tally := fun t : Tally D => { t with momentum := t.momentum.mapValues f }
  { m with
    foreground := tally m.foreground
    notifying := tally m.notifying
    semanticHint := tally m.semanticHint
    actionSuccess := tally m.actionSuccess
    actionDenial := tally m.actionDenial
    actionFailure := tally m.actionFailure
    prewarmHit := tally m.prewarmHit
    prewarmMiss := tally m.prewarmMiss }

theorem completes_none (text : List UInt8) : SaveFaults.none.Completes text := ⟨nofun, nofun⟩

theorem loadOrDefault_saved {json : StoreJson D} {m : ModelMemoryStore D} {f : D → D}
    (hread : json.fromReader (json.text m) = .ok (m.reread f)) (path : StorePath)
    (file : Option (List UInt8)) (config : ModelMemoryConfig) :
    loadOrDefault json config (some path)
        (persistIfConfigured json (some path) .none file m) =
      (m.reread f).applyConfig config := by
  have hopened : ¬SaveFaults.none.Untouched path := by simp [SaveFaults.Untouched, SaveFaults.none]
  obtain ⟨bytes, hfile, -, hwhole⟩ : ∃ bytes, (saveToPath json path .none file m).1 = some bytes ∧
      bytes <+: json.text m ∧ (bytes = json.text m ↔ SaveFaults.none.Completes (json.text m)) :=
    saveToPath_touched hopened file m
  rw [persistIfConfigured, hfile, hwhole.mpr (completes_none _), loadOrDefault, loadFromPath, hread]

end ModelMemoryStore

/-- A window, or a restart of the daemon: the store is saved, loaded and configured. -/
inductive MemoryEvent (D F : Type)
  | observe (x : Observation F)
  | restart (config : ModelMemoryConfig) (f : D → D)

def MemoryEvent.window : MemoryEvent D F → Option (Observation F)
  | .observe x => some x
  | .restart _ _ => none

def windows (events : List (MemoryEvent D F)) : List (Observation F) :=
  events.filterMap MemoryEvent.window

structure ResolvedWindow where
  horizon : UInt8
  resolutions : List Resolution

def lifetimeLoop (ops : MomentumOps D) :
    Machine (ModelMemoryStore D) (MemoryEvent D F) ResolvedWindow where
  step m
    | .observe x =>
      (m.observeWindow ops x.context x.decision x.auditRecords,
        [⟨m.prewarmEffectWindows, m.resolutions x.apps⟩])
    | .restart config f => ((m.reread f).applyConfig config, [])

def IssuedAt (xs : List (Observation F)) (i : Nat) (p : PendingPrewarm) : Prop :=
  ∃ x, xs[i]? = some x ∧ ∃ record ∈ x.auditRecords,
    Issues x.context record { p with windowsObserved := 0 }

/-- Every hit is of a prewarm issued in an earlier window, no more windows before than the
horizon then in force, and its package is among the apps of its own window. -/
def HitsInTime (xs : List (Observation F)) (out : List ResolvedWindow) : Prop :=
  ∀ k a, out[k]? = some a → ∀ r ∈ a.resolutions, r.hit = true →
    ∃ i, i < k ∧ k - i ≤ a.horizon.toNat ∧ IssuedAt xs i r.prewarm ∧
      seenAt xs r.prewarm.package k

def HitsCounted (out : List ResolvedWindow) (m : ModelMemoryStore D) : Prop :=
  ∀ package, m.prewarmHit.count package = UInt32.ofNat
    ((out.flatMap ResolvedWindow.resolutions).countP fun r =>
      r.hit = true ∧ r.prewarm.package = package)

/-- A restart finds no prewarm pending that has already been observed for its horizon. -/
def RestartFits (m : ModelMemoryStore D) : MemoryEvent D F → Prop
  | .observe _ => True
  | .restart config _ => ∀ p ∈ m.pendingPrewarms,
      p.windowsObserved < min (max config.prewarmEffectWindows 1) 20

instance (m : ModelMemoryStore D) : ∀ e : MemoryEvent D F, Decidable (RestartFits m e)
  | .observe _ => inferInstanceAs (Decidable True)
  | .restart _ _ => inferInstanceAs (Decidable (∀ p ∈ m.pendingPrewarms, _))

/-- Every pending prewarm is as old as its window, and below the horizon. -/
structure Ages (xs : List (Observation F)) (m : ModelMemoryStore D) : Prop where
  horizon_pos : 0 < m.prewarmEffectWindows
  below : ∀ p ∈ m.pendingPrewarms, p.windowsObserved < m.prewarmEffectWindows
  issued : ∀ p ∈ m.pendingPrewarms, ∃ i, i < xs.length ∧
    xs.length - (i + 1) = p.windowsObserved.toNat ∧ IssuedAt xs i p

theorem IssuedAt.append {xs : List (Observation F)} {i : Nat} {p : PendingPrewarm}
    (h : IssuedAt xs i p) (ys : List (Observation F)) : IssuedAt (xs ++ ys) i p := by
  obtain ⟨x, hx, hissues⟩ := h
  exact ⟨x, List.getElem?_append_left (List.getElem?_eq_some_iff.mp hx).1 ▸ hx, hissues⟩

section step
variable (ops : MomentumOps D) {xs : List (Observation F)} {m : ModelMemoryStore D}

theorem toNat_observed {horizon : UInt8} {p : PendingPrewarm} (h : p.windowsObserved < horizon) :
    p.observed.windowsObserved.toNat = p.windowsObserved.toNat + 1 := by
  refine satSucc8_toNat ?_
  have hlt := UInt8.lt_iff_toNat_lt.mp h
  have hmax := horizon.toNat_lt
  omega

theorem mem_resolutions {apps : List String} {r : Resolution} (hr : r ∈ m.resolutions apps) :
    ∃ p ∈ m.pendingPrewarms, r.prewarm = p.observed ∧ (r.hit = true → p.package ∈ apps) := by
  obtain ⟨p, hp, hresolve⟩ := List.mem_filterMap.mp hr
  obtain ⟨hit, hverdict, rfl⟩ := Option.map_eq_some_iff.mp hresolve
  refine ⟨p, hp, rfl, fun hhit => ?_⟩
  obtain rfl : hit = true := hhit
  unfold ModelMemoryStore.verdict at hverdict
  split at hverdict
  · assumption
  · split at hverdict <;> cases hverdict

theorem observed_lt_of_unresolved {apps : List String} {horizon : UInt8} {p : PendingPrewarm}
    (h : (ModelMemoryStore.resolve apps horizon p).isNone) :
    p.observed.windowsObserved < horizon := by
  unfold ModelMemoryStore.resolve ModelMemoryStore.verdict at h
  split at h
  · cases h
  · split at h
    · cases h
    · exact UInt8.not_le.mp ‹_›

theorem Ages.observe (h : Ages xs m) (x : Observation F) :
    Ages (xs ++ [x]) (m.observeWindow ops x.context x.decision x.auditRecords) := by
  obtain ⟨heff, hpend, -⟩ := ModelMemoryStore.observeWindow_resolves ops m x
  refine ⟨heff ▸ h.horizon_pos, fun p hp => ?below, fun p hp => ?issued⟩
  all_goals
    rw [hpend] at hp
    rcases List.mem_append.mp hp with hp | hp
  case below.inl =>
    obtain ⟨p, hkept, rfl⟩ := List.mem_map.mp hp
    rw [heff]
    exact observed_lt_of_unresolved (List.mem_filter.mp hkept).2
  case below.inr =>
    obtain ⟨record, -, hsome⟩ := List.mem_filterMap.mp hp
    rw [heff, ModelMemoryStore.pendingPrewarm_windowsObserved hsome]
    exact h.horizon_pos
  case issued.inl =>
    obtain ⟨p, hkept, rfl⟩ := List.mem_map.mp hp
    have hmem := (List.mem_filter.mp hkept).1
    obtain ⟨i, hi, hage, hissued⟩ := h.issued p hmem
    refine ⟨i, ?_, ?_, hissued.append [x]⟩
    · rw [List.length_append, List.length_singleton]
      omega
    · rw [toNat_observed (h.below p hmem), List.length_append, List.length_singleton]
      omega
  case issued.inr =>
    obtain ⟨record, hrecord, hsome⟩ := List.mem_filterMap.mp hp
    have hage := ModelMemoryStore.pendingPrewarm_windowsObserved hsome
    refine ⟨xs.length, ?_, ?_, x, List.getElem?_concat_length, record, hrecord, ?_⟩
    · rw [List.length_append, List.length_singleton]
      exact Nat.lt_succ_self _
    · rw [hage, List.length_append, List.length_singleton, Nat.sub_self]
      rfl
    · rw [← hage]
      exact pendingPrewarm_eq_some.mp hsome

theorem Ages.hits (h : Ages xs m) (x : Observation F) {r : Resolution}
    (hr : r ∈ m.resolutions x.apps) (hhit : r.hit = true) :
    ∃ i, i < xs.length ∧ xs.length - i ≤ m.prewarmEffectWindows.toNat ∧
      IssuedAt (xs ++ [x]) i r.prewarm ∧ seenAt (xs ++ [x]) r.prewarm.package xs.length := by
  obtain ⟨p, hp, hprewarm, hshown⟩ := mem_resolutions hr
  obtain ⟨i, hi, hage, hissued⟩ := h.issued p hp
  have hbelow := UInt8.lt_iff_toNat_lt.mp (h.below p hp)
  refine ⟨i, hi, by omega, ?_, x, List.getElem?_concat_length, ?_⟩
  · rw [hprewarm]
    exact hissued.append [x]
  · rw [hprewarm]
    exact hshown hhit

theorem Ages.restart (h : Ages xs m) {config : ModelMemoryConfig} {f : D → D}
    (hfits : RestartFits m (.restart config f : MemoryEvent D F)) :
    Ages xs ((m.reread f).applyConfig config) :=
  ⟨ModelMemoryStore.effectWindows_pos config.prewarmEffectWindows, hfits, h.issued⟩

theorem count_hits_append (out : List ResolvedWindow) (a : ResolvedWindow) (package : String) :
    ((out ++ [a]).flatMap ResolvedWindow.resolutions).countP (fun r =>
        r.hit = true ∧ r.prewarm.package = package) =
      (out.flatMap ResolvedWindow.resolutions).countP (fun r =>
        r.hit = true ∧ r.prewarm.package = package) +
      a.resolutions.countP fun r => r.hit = true ∧ r.prewarm.package = package := by
  rw [List.flatMap_append, List.flatMap_singleton, List.countP_append]

theorem HitsCounted.observe {out : List ResolvedWindow} (h : HitsCounted out m)
    (x : Observation F) :
    HitsCounted (out ++ [⟨m.prewarmEffectWindows, m.resolutions x.apps⟩])
      (m.observeWindow ops x.context x.decision x.auditRecords) := by
  obtain ⟨-, -, hcounts⟩ := ModelMemoryStore.observeWindow_resolves ops m x
  intro package
  have hcount := Tally.count_foldl_add ops
    (((m.resolutions x.apps).filter (·.hit = true)).map (·.prewarm.package)) (m.tallyOf true)
    package
  rw [Tally.count, ← hcounts true, count_packages] at hcount
  have hbefore : (m.tallyOf true).count package = _ := h package
  rw [count_hits_append, UInt32.ofNat_add, ← hbefore]
  exact hcount

theorem windows_concat (events : List (MemoryEvent D F)) (e : MemoryEvent D F) :
    windows (events ++ [e]) = windows events ++ e.window.toList := by
  rw [windows, List.filterMap_append, windows]
  cases e <;> rfl

theorem HitsInTime.concat {out : List ResolvedWindow} (h : HitsInTime xs out)
    (hlen : out.length = xs.length) (hages : Ages xs m) (x : Observation F) :
    HitsInTime (xs ++ [x]) (out ++ [⟨m.prewarmEffectWindows, m.resolutions x.apps⟩]) := by
  intro k a hk r hr hhit
  by_cases hlt : k < out.length
  · rw [List.getElem?_append_left hlt] at hk
    obtain ⟨i, hi, hle, hissued, y, hy, hshown⟩ := h k a hk r hr hhit
    refine ⟨i, hi, hle, hissued.append [x], y, ?_, hshown⟩
    rwa [List.getElem?_append_left (hlen ▸ hlt)]
  · have hbound := (List.getElem?_eq_some_iff.mp hk).1
    rw [List.length_append, List.length_singleton] at hbound
    obtain rfl : k = out.length := by omega
    rw [List.getElem?_concat_length, Option.some.injEq] at hk
    subst hk
    rw [hlen]
    exact hages.hits x hr hhit

end step

/-- In every lifetime whose restarts find no overdue prewarm pending, every hit is counted in
time. -/
theorem lifetimeLoop_hitsInTime (ops : MomentumOps D) (config : ModelMemoryConfig)
    (events : List (MemoryEvent D F))
    (h : (lifetimeLoop ops).Along RestartFits (.withConfig config) events) :
    let r := (lifetimeLoop ops).run (.withConfig config) events
    HitsInTime (windows events) r.2 ∧ HitsCounted r.2 r.1 := by
  intro r
  have hinit : Ages ([] : List (Observation F)) (ModelMemoryStore.withConfig (D := D) config) :=
    ⟨ModelMemoryStore.effectWindows_pos config.prewarmEffectWindows, nofun, nofun⟩
  have hrun := Machine.run_history (m := lifetimeLoop ops)
    (fun (pre : List (MemoryEvent D F)) out m => out.length = (windows pre).length ∧
      Ages (windows pre) m ∧ HitsInTime (windows pre) out ∧ HitsCounted out m)
    (fun pre out m e hinv (hfits : RestartFits m e) => ?step) ⟨rfl, hinit, nofun, fun _ => rfl⟩ h
  case step =>
    obtain ⟨hlen, hages, htime, hcounted⟩ := hinv
    rw [windows_concat]
    cases e with
    | observe x =>
      refine ⟨?_, hages.observe ops x, htime.concat hlen hages x, hcounted.observe ops x⟩
      rw [List.length_append, List.length_append, hlen]
      rfl
    | restart config f =>
      simp only [MemoryEvent.window, Option.toList_none, List.append_nil, lifetimeLoop]
      exact ⟨hlen, hages.restart hfits, htime, hcounted⟩
  exact hrun.2.2

theorem effectWindows_lt (x : UInt8) : min (max x 1) 20 < 255 := by
  have hmin : min (max x 1) 20 = if max x 1 ≤ 20 then max x 1 else 20 := rfl
  grind

theorem late_of_not_restartFits {m : ModelMemoryStore D} {config : ModelMemoryConfig} {f : D → D}
    (h : ¬RestartFits m (.restart config f : MemoryEvent D F)) :
    ∃ p ∈ m.pendingPrewarms, ∀ apps, p.package ∈ apps →
      ⟨p.observed, true⟩ ∈ ((m.reread f).applyConfig config).resolutions apps ∧
        ((m.reread f).applyConfig config).prewarmEffectWindows < p.observed.windowsObserved := by
  simp only [RestartFits, not_forall] at h
  obtain ⟨p, hp, hoverdue⟩ := h
  refine ⟨p, hp, fun apps happs => ⟨List.mem_filterMap.mpr ⟨p, hp, ?_⟩, ?_⟩⟩
  · have hshown : p.observed.package ∈ apps := happs
    rw [ModelMemoryStore.resolve, ModelMemoryStore.verdict, if_pos hshown]
    rfl
  · exact lt_satSucc8 (UInt8.not_lt.mp hoverdue) (effectWindows_lt _)

namespace PrewarmSample

/-- The chat is prewarmed with a horizon of two windows and shows in the second. -/
def restarted (horizon : UInt8) : List (MemoryEvent ℚ ℚ) :=
  [.observe (observation "w1" ["com.mail"] [prewarmed]),
    .observe (observation "w2" ["com.mail"] []),
    .restart { prewarmEffectWindows := horizon } id,
    .observe (observation "w3" ["com.chat"] [])]

end PrewarmSample

open PrewarmSample in
theorem lifetimeLoop_hitsInTime_restarted :
    let r := (lifetimeLoop rationalMomentum).run (.withConfig { prewarmEffectWindows := 2 })
      (restarted 2)
    r.1.prewarmHit.count "com.chat" = 1 ∧ HitsInTime (windows (restarted 2)) r.2 :=
  ⟨by decide +kernel,
    (lifetimeLoop_hitsInTime rationalMomentum { prewarmEffectWindows := 2 } (restarted 2)
      (by decide +kernel)).1⟩

open PrewarmSample in
/-- After the restart the horizon is one window, and the hit is two windows late. -/
theorem lifetimeLoop_hits_late :
    let r := (lifetimeLoop rationalMomentum).run (.withConfig { prewarmEffectWindows := 2 })
      (restarted 1)
    r.1.prewarmHit.count "com.chat" = 1 ∧ ¬HitsInTime (windows (restarted 1)) r.2 := by
  refine ⟨by decide +kernel, fun h => ?_⟩
  obtain ⟨i, hi, hle, ⟨x, hx, record, hrecord, -⟩, -⟩ :=
    h 2 _ rfl _ (List.mem_singleton.mpr rfl) rfl
  have hle : 2 - i ≤ 1 := hle
  obtain rfl : i = 1 := by omega
  obtain rfl : observation "w2" ["com.mail"] [] = x := Option.some.inj hx
  exact List.not_mem_nil hrecord

end Dipecs.Core
