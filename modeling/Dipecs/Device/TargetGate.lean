import Dipecs.Core.ActionLifecycle
import Dipecs.Device.ActionExecutors

/-! The target gate from end to end: what the policy lets through, and what the device
makes of it. -/

namespace Dipecs.Device

open Dipecs.Spec Dipecs.Core Dipecs.Library

def targetReading (action : ActionType) (target : String) : String :=
  if action = .preWarmProcess then SystemActionExecutors.parsePackageTarget target
  else Text.removePrefix "pkg:" (trim target)

/-- A collected name in which the device reads nothing but the name itself. -/
def PlainName (name : String) : Prop :=
  ':' ∉ name.toList ∧ '/' ∉ name.toList ∧ ∀ c ∈ name.toList, isWhitespace c = false

def Own (p : Platform) (pkg : String) : Prop :=
  pkg = p.packageName ∨ pkg = "com.dipecs.collector"

/-! ### The device, effect by effect -/

section
variable {p : Platform} {pkg : String}

theorem CacheTrimmer.release_actsOn (target : Option String) :
    ∀ e ∈ (CacheTrimmer.release p target).1, e.ActsOn p pkg → pkg = p.packageName := by
  simp only [CacheTrimmer.release]
  split_ifs <;> simp [Effect.ActsOn]

theorem OwnResourceWarmer.warm_actsOn (target : Option String) :
    ∀ e ∈ (OwnResourceWarmer.warm target).1, e.ActsOn p pkg → pkg = p.packageName := by
  simp only [OwnResourceWarmer.warm]
  split_ifs <;> simp [Effect.ActsOn]

namespace SystemActionExecutors

theorem prewarmOwn_actsOn (target : String) :
    ∀ e ∈ (prewarmOwn p target).effects, e.ActsOn p pkg → pkg = p.packageName := by
  intro e he h
  simp only [prewarmOwn] at he
  by_cases hv : Text.startsWith "own:volatile-cache" target = true
  · simp only [hv, if_true] at he
    exact OwnResourceWarmer.warm_actsOn (some target) e he h
  · rw [if_neg hv] at he
    cases hs : p.startOwnActivity with
    | ok u =>
      simp only [hs, List.mem_singleton] at he
      subst he
      exact h
    | error message =>
      simp only [hs, List.mem_singleton] at he
      subst he
      exact h

theorem prewarmExternal_actsOn (q : String) :
    ∀ e ∈ (prewarmExternal p q).effects, e.ActsOn p pkg → pkg = q := by
  simp only [prewarmExternal]
  cases p.launch q <;> simp [Effect.ActsOn]

theorem prewarmProcess_actsOn (target : String) :
    ∀ e ∈ (prewarmProcess p target).effects, e.ActsOn p pkg →
      pkg = p.packageName ∨ pkg = parsePackageTarget target := by
  intro e he h
  simp only [prewarmProcess] at he
  split at he
  · exact .inl (prewarmOwn_actsOn target e he h)
  · exact .inr (prewarmExternal_actsOn _ e he h)

theorem releaseParts_actsOn (target : Option String) (t : String) :
    ∀ e ∈ (releaseParts p target t).1, e.ActsOn p pkg →
      pkg = p.packageName ∨ t = "cache:all" ∨ t = "page" ∨
        Text.startsWith "pkg:" t = true ∧ pkg = Text.removePrefix "pkg:" t := by
  intro e he h
  by_cases h1 : t = "cache:all"
  · exact .inr (.inl h1)
  by_cases h2 : t = "page"
  · exact .inr (.inr (.inl h2))
  by_cases h3 : t = "cache:prefetch"
  · left
    simp only [releaseParts, h3, beq_self_eq_true, if_true, List.mem_singleton] at he
    subst he
    exact h
  by_cases h4 : t = "cache:volatile"
  · left
    simp [releaseParts, h4] at he
    subst he
    exact h
  by_cases h5 : Text.startsWith "pkg:" t = true
  · refine .inr (.inr (.inr ⟨h5, ?_⟩))
    simp [releaseParts, h1, h3, h4, h5] at he
    cases hp : p.pmClear (Text.removePrefix "pkg:" t) <;>
      · simp only [hp, List.mem_singleton] at he
        subst he
        exact h
  · left
    simp [releaseParts, h1, h2, h3, h4, h5] at he
    exact CacheTrimmer.release_actsOn target e he h

theorem releaseMemory_actsOn (target : Option String) :
    ∀ e ∈ (releaseMemory p target).effects, e.ActsOn p pkg →
      pkg = p.packageName ∨ ∃ t, target = some t ∧
        (trim t = "cache:all" ∨ trim t = "page" ∨
          Text.startsWith "pkg:" (trim t) = true ∧ pkg = Text.removePrefix "pkg:" (trim t)) := by
  intro e he h
  simp only [releaseMemory, List.mem_append, List.mem_singleton] at he
  rcases he with he | rfl
  case inr => exact h.elim
  rcases releaseParts_actsOn target _ e he h with hown | hcase
  · exact .inl hown
  cases target with
  | none => simp [ifBlank, isBlank, Text.isBlank, Text.startsWith] at hcase
  | some t =>
    refine .inr ⟨t, rfl, ?_⟩
    by_cases hb : isBlank (trim t) = true
    · simp [ifBlank, hb, Text.startsWith] at hcase
    · simpa [ifBlank, hb] using hcase

end SystemActionExecutors

end

/-! ### What the policy lets through -/

theorem prewarm_reading {target : String} {known : KnownTargets} (hfiles : known.files = ∅)
    (h : isAllowedPrewarmTarget target known = true) :
    Text.startsWith "notif:" target = true ∨
      SystemActionExecutors.parsePackageTarget target = "com.dipecs.collector" ∨
      ∃ name ∈ known.packages, (target = name ∨ target = "pkg:" ++ name) ∧
        SystemActionExecutors.parsePackageTarget target =
          Text.before '/' (Text.before ':' (Text.removePrefix "notif:" name)) := by
  cases ho : Text.startsWith "own:" target with
  | true => exact .inr (.inl (by simp [SystemActionExecutors.parsePackageTarget, ho]))
  | false =>
  cases hn : Text.startsWith "notif:" target with
  | true => exact .inl rfl
  | false =>
  refine .inr ?_
  have hparse : SystemActionExecutors.parsePackageTarget target =
      "com.dipecs.collector" ∨
      SystemActionExecutors.parsePackageTarget target = Text.before '/' (Text.before ':'
        (Text.removePrefix "notif:" (Text.removePrefix "pkg:" target))) := by
    simp only [SystemActionExecutors.parsePackageTarget, ho, Bool.false_eq_true, if_false, ifBlank]
    split <;> simp
  refine hparse.imp id fun hparse => ?_
  cases hp : Text.stripPrefix "pkg:" target with
  | some name =>
    obtain rfl := Text.stripPrefix_eq_some.mp hp
    simp only [isAllowedPrewarmTarget, ho, hn, Bool.or_false, Bool.false_eq_true, if_false, hp,
      decide_eq_true_eq] at h
    exact ⟨name, h, .inr rfl, by rw [hparse, Text.removePrefix_append]⟩
  | none =>
    simp only [isAllowedPrewarmTarget, ho, hn, Bool.or_false, Bool.false_eq_true, if_false, hp,
      Bool.and_eq_true, Bool.or_eq_true, decide_eq_true_eq, hfiles, Finset.notMem_empty,
      or_false] at h
    refine ⟨target, h.2, .inl rfl, ?_⟩
    rw [hparse, Text.removePrefix_of_not_startsWith (Text.stripPrefix_eq_none.mp hp)]

theorem release_target {target : String} {known : KnownTargets} (hfiles : known.files = ∅)
    (h : isAllowedLowRiskTarget .releaseMemory target known = true) :
    target = "cache:prefetch" ∨ target = "cache:all" ∨
      ∃ name ∈ known.packages, target = name ∨ target = "pkg:" ++ name := by
  by_cases h1 : target = "cache:prefetch"
  · exact .inl h1
  by_cases h2 : target = "cache:all"
  · exact .inr (.inl h2)
  refine .inr (.inr ?_)
  simp only [isAllowedLowRiskTarget] at h
  cases hp : Text.stripPrefix "pkg:" target with
  | some name =>
    simp [h1, h2, hp] at h
    exact ⟨name, h, .inr (Text.stripPrefix_eq_some.mp hp)⟩
  | none =>
    simp [h1, h2, hp, hfiles] at h
    exact ⟨target, h, .inl rfl⟩

/-! ### Plain names are read as they stand -/

namespace PlainName
variable {name : String} (h : PlainName name)
include h

theorem pkg_char {c : Char} (hc : c ∈ ("pkg:" ++ name).toList) : isWhitespace c = false := by
  rw [String.toList_append, List.mem_append] at hc
  rcases hc with hc | hc
  · have hall : ("pkg:".toList.all fun c => !isWhitespace c) = true := by decide
    simpa using List.all_eq_true.mp hall c hc
  · exact h.2.2 c hc

theorem prewarm_eq :
    Text.before '/' (Text.before ':' (Text.removePrefix "notif:" name)) = name := by
  rw [Text.removePrefix_eq_self (c := ':') (by decide) h.1, Text.before_eq_self h.1,
    Text.before_eq_self h.2.1]

theorem trim_eq : trim name = name := Text.trim_eq_self h.2.2

theorem trim_pkg_eq : trim ("pkg:" ++ name) = "pkg:" ++ name :=
  Text.trim_eq_self fun _ hc => h.pkg_char hc

theorem not_pkg : Text.startsWith "pkg:" name = false := by
  rw [← Bool.not_eq_true, Text.startsWith_iff]
  rintro ⟨t, rfl⟩
  exact h.1 (by simp)

end PlainName

/-! ### The gate -/

/-- Where an action may reach: DiPECS itself, the packages of the window, what the
device reads in a collected name that is not plain, and, by the targets that say so,
every cache. -/
inductive Reach (p : Platform) (known : KnownTargets) (action : ActionType) :
    Option String → String → Prop
  | own {target : Option String} {pkg : String} (h : Own p pkg) : Reach p known action target pkg
  | shown {target : Option String} {pkg : String} (h : pkg ∈ known.packages) :
    Reach p known action target pkg
  | read {name target : String} (h : name ∈ known.packages) (hname : ¬ PlainName name)
    (ht : target = name ∨ target = "pkg:" ++ name) :
    Reach p known action (some target) (targetReading action target)
  | allCaches {target pkg : String} (h : action = .releaseMemory)
    (ht : trim target = "cache:all") : Reach p known action (some target) pkg
  | pageCache {name target pkg : String} (h : action = .releaseMemory)
    (hn : name ∈ known.packages) (ht : target = name ∨ target = "pkg:" ++ name)
    (hpage : trim target = "page") : Reach p known action (some target) pkg

section
variable {p : Platform} {known : KnownTargets} {pkg : String}

theorem prewarm_reach (hfiles : known.files = ∅) {target : Option String}
    (hnotif : ∀ t, target = some t → Text.startsWith "notif:" t = false)
    (h : checkTarget .preWarmProcess target known = none) :
    ∀ e ∈ (ActionExecutorBridge.dispatch p "PreWarmProcess" target).effects, e.ActsOn p pkg →
      Reach p known .preWarmProcess target pkg := by
  intro e he hpkg
  cases target with
  | none => simp [checkTarget] at h
  | some t =>
  have hallowed : isAllowedPrewarmTarget t known = true := by
    by_contra hn
    simp [checkTarget, hn] at h
  rcases SystemActionExecutors.prewarmProcess_actsOn t e he hpkg with hown | hparse
  · exact .own (.inl hown)
  rcases prewarm_reading hfiles hallowed with hn | hown | ⟨name, hmem, ht, hread⟩
  · exact absurd hn (by simp [hnotif t rfl])
  · exact .own (.inr (hparse.trans hown))
  · by_cases hplain : PlainName name
    · rw [hparse, hread, hplain.prewarm_eq]
      exact .shown hmem
    · rw [show pkg = targetReading .preWarmProcess t by rw [hparse, targetReading, if_pos rfl]]
      exact .read hmem hplain ht

theorem release_reach (hfiles : known.files = ∅) {target : Option String}
    (h : checkTarget .releaseMemory target known = none) :
    ∀ e ∈ (ActionExecutorBridge.dispatch p "ReleaseMemory" target).effects, e.ActsOn p pkg →
      Reach p known .releaseMemory target pkg := by
  intro e he hpkg
  rcases SystemActionExecutors.releaseMemory_actsOn target e he hpkg with
    hown | ⟨t, rfl, hall | hpage | ⟨hpre, hread⟩⟩
  · exact .own (.inl hown)
  · exact .allCaches rfl hall
  all_goals
    have hallowed : isAllowedLowRiskTarget .releaseMemory t known = true := by
      by_contra hn
      by_cases ht : t = "" <;> simp [checkTarget, hn, ht] at h
  · rcases release_target hfiles hallowed with rfl | rfl | ⟨name, hmem, ht⟩
    · exact absurd hpage (by decide)
    · exact absurd hpage (by decide)
    · exact .pageCache rfl hmem ht hpage
  · rcases release_target hfiles hallowed with rfl | rfl | ⟨name, hmem, ht⟩
    · exact absurd hpre (by decide)
    · exact absurd hpre (by decide)
    by_cases hplain : PlainName name
    · rcases ht with rfl | rfl
      · rw [hplain.trim_eq, hplain.not_pkg] at hpre
        exact absurd hpre (by decide)
      · rw [hread, hplain.trim_pkg_eq, Text.removePrefix_append]
        exact .shown hmem
    · have hpkg : pkg = targetReading .releaseMemory t := by
        rw [hread, targetReading, if_neg (by decide)]
      rw [hpkg]
      exact .read hmem hplain ht

end

/-- Every approved prewarm or memory release stays, on the device, within its reach.
A prewarm of a `notif:` target is not covered. -/
theorem approved_reach {F : Type} [LT F] [DecidableLT F] (cfg : PolicyConfig F)
    (batch : IntentBatch F) (capability : CapabilityLevel) (ctx : StructuredContext)
    (p : Platform) {x : ActionLifecycle.Slot F} {d : PolicyActionDecision}
    (hxd : (x, d) ∈ (ActionLifecycle.slots batch).zip
      (PolicyEngine.evaluateBatchWithContext cfg batch capability ctx))
    (hd : d.verdict = .approved)
    (haction : x.action.actionType = .preWarmProcess ∧
        (∀ t, x.action.target = some t → Text.startsWith "notif:" t = false) ∨
      x.action.actionType = .releaseMemory) :
    ∀ e ∈ (ActionExecutorBridge.dispatch p x.action.actionType.debug x.action.target).effects,
      ∀ pkg, e.ActsOn p pkg →
        Reach p (KnownTargets.fromContext ctx) x.action.actionType x.action.target pkg := by
  have hcheck := (List.forall₂_iff_zip.mp
    (ActionLifecycle.approved_checkTarget cfg batch capability ctx)).2 hxd hd
  rcases haction with ⟨ha, hnotif⟩ | ha
  · rw [ha] at hcheck ⊢
    exact fun e he pkg h => prewarm_reach rfl hnotif hcheck e he h
  · rw [ha] at hcheck ⊢
    exact fun e he pkg h => release_reach rfl hcheck e he h

section
/-! One window that shows a chat application, and targets beyond it. -/

def chatContext : StructuredContext :=
  ⟨"w", 0, 0, 0, [], ⟨["com.chat"], [], [], [], none, .publicApi⟩⟩

def oneAction (actionType : ActionType) (target : String) : IntentBatch ℚ :=
  ⟨"w", [⟨"i", .idle, 0.9, .low, [⟨actionType, some target, .immediate⟩], []⟩], 0, "rules"⟩

def phone : Platform where
  packageName := "com.dipecs.collector"
  latencyUs := 0
  launch _ := .launched
  startOwnActivity := .ok ()
  installed := .ok ["com.dipecs.collector", "com.chat", "com.bank"]
  deleteCacheFiles _ := true
  pmClear _ := .exited "Success"
  dropCaches := .error none
  prefetchFiles := 0
  cacheDirChildren := 0
  volatileBytes := 0
  volatileChunks := 0
  oomAdjustable := true
  cgroupPinnable := true
  schedules := some true

theorem approved_reach_chat :
    (Effect.launchPackage "com.chat").ActsOn phone "com.chat" ∧
      Reach phone (KnownTargets.fromContext chatContext) .preWarmProcess
        (some "pkg:com.chat") "com.chat" :=
  ⟨rfl, approved_reach PolicyConfig.default (oneAction .preWarmProcess "pkg:com.chat")
    (CapabilityLevel.forRoute .localEvaluator) chatContext phone
    (x := ⟨⟨"i", .idle, 0.9, .low, [⟨.preWarmProcess, some "pkg:com.chat", .immediate⟩], []⟩, 0,
      ⟨.preWarmProcess, some "pkg:com.chat", .immediate⟩, 0⟩)
    (d := ⟨0, 0, .approved⟩) (by decide +kernel) rfl
    (.inl ⟨rfl, fun t ht => by cases ht; decide⟩) (.launchPackage "com.chat")
    (by decide +kernel) "com.chat" rfl⟩

/-- Two approved targets by which the device acts on a bank the window never showed. -/
theorem approved_reach_bank :
    let approvedAndDoes := fun (action : ActionType) (target : String) (e : Effect) =>
      PolicyEngine.evaluateBatchWithContext PolicyConfig.default (oneAction action target)
        (CapabilityLevel.forRoute .localEvaluator) chatContext = [⟨0, 0, .approved⟩] ∧
      e ∈ (ActionExecutorBridge.dispatch phone action.debug (some target)).effects ∧
      e.ActsOn phone "com.bank"
    approvedAndDoes .releaseMemory "cache:all" (.deleteCacheFiles "com.bank") ∧
    approvedAndDoes .preWarmProcess "notif:com.bank" (.launchPackage "com.bank") ∧
    "com.bank" ∉ (KnownTargets.fromContext chatContext).packages ∧
    ¬ Own phone "com.bank" :=
  ⟨⟨by decide +kernel, by decide +kernel, rfl⟩, ⟨by decide +kernel, by decide +kernel, rfl⟩,
    by decide +kernel, by simp [Own, phone]⟩

end

end Dipecs.Device
