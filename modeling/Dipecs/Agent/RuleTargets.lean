import Dipecs.Agent.RuleBased

/-! Which app the rules name.  A file mention is a flag of the whole window, and the app it is
put down to is the first that notified. -/

namespace Dipecs.Agent.RuleBasedBackend

open Dipecs.Spec Dipecs.Core Dipecs.Library

variable {F : Type}

def MentionsFile (e : SanitizedEvent) (app : String) : Prop :=
  e.notifiedBy = some app ∧ .fileMention ∈ e.hints

def Targets (intent : Intent F) (intentType : IntentType) (target : Option String) : Prop :=
  intent.intentType = intentType ∧ ∀ action ∈ intent.suggestedActions, action.target = target

/-- Whatever signal an intent is tagged with, it names an app that shows that signal. -/
structure TargetsSignal (events : List SanitizedEvent) (intent : Intent F) : Prop where
  fileReceived : "file_received" ∈ intent.rationaleTags →
    ∃ app, Targets intent (.openApp app) (some app) ∧ ∃ e ∈ events, MentionsFile e app
  notificationEngagement : "notification_engagement" ∈ intent.rationaleTags →
    ∃ app, Targets intent (.openApp app) (some app) ∧ ∃ e ∈ events, e.notifiedBy = some app
  appForegroundObserved : "app_foreground_observed" ∈ intent.rationaleTags →
    ∃ app, Targets intent (.switchToApp app) (some app) ∧ ∃ e ∈ events, e.openedBy = some app
  memoryPressure : "memory_pressure" ∈ intent.rationaleTags →
    ∃ worst ∈ events.filterMap pressure, Targets intent .idle worst.2 ∧
      ∀ heavy ∈ events.filterMap pressure, heavy.1 ≤ worst.1

/-- If the window mentions a file at all, the first app that notified does. -/
def FirstNotifierMentionsFile (events : List SanitizedEvent) : Prop :=
  (∃ e ∈ events, .fileMention ∈ e.hints) →
    ∃ app ∈ (events.filterMap SanitizedEvent.notifiedBy).head?, ∃ e ∈ events, MentionsFile e app

instance (e : SanitizedEvent) (app : String) : Decidable (MentionsFile e app) :=
  inferInstanceAs (Decidable (_ ∧ _))

instance (events : List SanitizedEvent) : Decidable (FirstNotifierMentionsFile events) :=
  inferInstanceAs (Decidable (_ → _))

/-! ### What the rules read -/

def Heaviest (processes : List (UInt32 × Option String)) : Option (UInt32 × Option String) → Prop
  | none => processes = []
  | some worst => worst ∈ processes ∧ ∀ heavy ∈ processes, heavy.1 ≤ worst.1

theorem Heaviest.concat {processes : List (UInt32 × Option String)}
    {worst : Option (UInt32 × Option String)} (h : Heaviest processes worst)
    (heavy : UInt32 × Option String) :
    Heaviest (processes ++ [heavy]) (worse worst heavy) := by
  cases worst with
  | none =>
    obtain rfl : processes = [] := h
    simp [worse, Heaviest]
  | some worst =>
    obtain ⟨hmem, hmax⟩ := h
    simp only [worse]
    split <;> rename_i hrss
    · refine ⟨by simp, fun other hother => ?_⟩
      rcases List.mem_append.mp hother with hother | hother
      · exact UInt32.le_trans (hmax other hother) (UInt32.le_of_lt hrss)
      · rw [List.mem_singleton.mp hother]
        exact UInt32.le_refl _
    · refine ⟨List.mem_append_left _ hmem, fun other hother => ?_⟩
      rcases List.mem_append.mp hother with hother | hother
      · exact hmax other hother
      · rw [List.mem_singleton.mp hother]
        exact UInt32.not_lt.mp hrss

section
variable (events : List SanitizedEvent)

theorem foldl_scan_hasFileMention :
    (events.foldl scan noSignals).hasFileMention =
      decide (.fileMention ∈ events.flatMap SanitizedEvent.hints) := by
  rw [foldl_scan]
  rfl

theorem foldl_scan_observedForegroundApps :
    FirstOccurrences (events.filterMap SanitizedEvent.openedBy)
      (events.foldl scan noSignals).observedForegroundApps := by
  rw [List.filterMap_eq_flatMap_toList]
  exact .foldl Signals.observedForegroundApps (fun s e => by rw [scan_eq]; rfl) rfl events

theorem foldl_scan_memoryPressure :
    Heaviest (events.filterMap pressure) (events.foldl scan noSignals).memoryPressure := by
  refine foldl_history
    (fun pre (s : Signals) => Heaviest (pre.filterMap pressure) s.memoryPressure)
    (fun pre s e h => ?_) (s := noSignals) rfl events
  rw [scan_eq, List.filterMap_append]
  cases hpressure : pressure e with
  | none =>
    rw [List.filterMap_cons_none hpressure, List.filterMap_nil, List.append_nil]
    exact h
  | some heavy =>
    rw [List.filterMap_cons_some hpressure, List.filterMap_nil]
    exact h.concat heavy

end

/-! ### What the rules name -/

section
variable {events : List SanitizedEvent}

theorem TargetsSignal.of_draft {intent : Intent F} (h : TargetsSignal events intent)
    (intentId : String) : TargetsSignal events { intent with intentId := intentId } :=
  ⟨h.fileReceived, h.notificationEngagement, h.appForegroundObserved, h.memoryPressure⟩

theorem forall_drawIds_iff (draw : BackendDraw) (drafts : List (Intent F)) :
    (∀ intent ∈ drawIds draw drafts, TargetsSignal events intent) ↔
      ∀ intent ∈ drafts, TargetsSignal events intent := by
  constructor
  · intro h intent hmem
    obtain ⟨i, hi, rfl⟩ := List.mem_iff_getElem.mp hmem
    have hdrawn : { drafts[i] with intentId := draw.newId i } ∈ drawIds draw drafts :=
      List.mem_map.mpr ⟨(drafts[i], i), List.mk_mem_zipIdx_iff_getElem?.mpr (by simp), rfl⟩
    exact (h _ hdrawn).of_draft drafts[i].intentId
  · intro h intent hmem
    obtain ⟨x, hx, rfl⟩ := List.mem_map.mp hmem
    exact (h x.1 (List.fst_mem_of_mem_zipIdx hx)).of_draft _

theorem targetsSignal_draft_iff (intentType : IntentType) (confidence : F)
    (action : SuggestedAction) (tag : String) :
    TargetsSignal events (draft intentType confidence action tag) ↔
      (tag = "file_received" → ∃ app, (intentType = .openApp app ∧ action.target = some app) ∧
        ∃ e ∈ events, MentionsFile e app) ∧
      (tag = "notification_engagement" →
        ∃ app, (intentType = .openApp app ∧ action.target = some app) ∧
          ∃ e ∈ events, e.notifiedBy = some app) ∧
      (tag = "app_foreground_observed" →
        ∃ app, (intentType = .switchToApp app ∧ action.target = some app) ∧
          ∃ e ∈ events, e.openedBy = some app) ∧
      (tag = "memory_pressure" → ∃ worst ∈ events.filterMap pressure,
        (intentType = .idle ∧ action.target = worst.2) ∧
          ∀ heavy ∈ events.filterMap pressure, heavy.1 ≤ worst.1) := by
  have htag : ∀ tag', tag' ∈ (draft intentType confidence action tag).rationaleTags ↔
      tag = tag' := fun tag' => List.mem_singleton.trans eq_comm
  have htargets : ∀ t target, Targets (draft intentType confidence action tag) t target ↔
      intentType = t ∧ action.target = target := fun t target =>
    and_congr Iff.rfl List.forall_mem_singleton
  constructor
  · intro h
    simp only [← htag, ← htargets]
    exact ⟨h.fileReceived, h.notificationEngagement, h.appForegroundObserved, h.memoryPressure⟩
  · intro h
    simp only [← htag, ← htargets] at h
    exact ⟨h.1, h.2.1, h.2.2.1, h.2.2.2⟩

def signalTags : List String :=
  ["file_received", "notification_engagement", "app_foreground_observed", "memory_pressure"]

theorem targetsSignal_of_other {intentType : IntentType} {confidence : F}
    {action : SuggestedAction} {tag : String} (h : tag ∉ signalTags) :
    TargetsSignal events (draft intentType confidence action tag) := by
  simp only [signalTags, List.mem_cons, List.not_mem_nil, or_false, not_or] at h
  rw [targetsSignal_draft_iff]
  exact ⟨fun htag => absurd htag h.1, fun htag => absurd htag h.2.1,
    fun htag => absurd htag h.2.2.1, fun htag => absurd htag h.2.2.2⟩

theorem exists_notifiedBy_of_hint {e : SanitizedEvent} {hint : SemanticHint} (h : hint ∈ e.hints) :
    ∃ app, e.notifiedBy = some app := by
  unfold SanitizedEvent.hints at h
  unfold SanitizedEvent.notifiedBy
  split at h
  · exact ⟨_, rfl⟩
  · exact absurd h List.not_mem_nil

section
variable [OfScientific F] {s : Signals} {apps : List String}

theorem notificationDrafts_targets_iff
    (hfile : s.hasFileMention = decide (.fileMention ∈ events.flatMap SanitizedEvent.hints))
    (happs : apps.head? = (events.filterMap SanitizedEvent.notifiedBy).head?) :
    (∀ intent ∈ notificationDrafts (F := F) s apps, TargetsSignal events intent) ↔
      FirstNotifierMentionsFile events := by
  unfold notificationDrafts FirstNotifierMentionsFile
  rw [happs, hfile]
  by_cases hmention : .fileMention ∈ events.flatMap SanitizedEvent.hints
  · obtain ⟨e, he, hhint⟩ := List.mem_flatMap.mp hmention
    obtain ⟨app, happ⟩ := exists_notifiedBy_of_hint hhint
    have hmem : app ∈ events.filterMap SanitizedEvent.notifiedBy :=
      List.mem_filterMap.mpr ⟨e, he, happ⟩
    cases hhead : (events.filterMap SanitizedEvent.notifiedBy).head? with
    | none => exact absurd (List.head?_eq_none_iff.mp hhead) (List.ne_nil_of_mem hmem)
    | some first =>
      rw [if_pos (decide_eq_true hmention), List.forall_mem_singleton, targetsSignal_draft_iff]
      simp only [Option.getD_some, true_implies, IntentType.openApp.injEq, Option.some.injEq,
        and_self, exists_eq_left', Option.mem_def, String.reduceEq, false_implies, and_true]
      exact ⟨fun h _ => h, fun h => h ⟨e, he, hhint⟩⟩
  · rw [if_neg (by simpa using hmention)]
    refine iff_of_true ?_ fun ⟨e, he, hhint⟩ =>
      absurd (List.mem_flatMap.mpr ⟨e, he, hhint⟩) hmention
    cases hhead : (events.filterMap SanitizedEvent.notifiedBy).head? with
    | none => exact fun _ hmem => absurd hmem List.not_mem_nil
    | some first =>
      obtain ⟨e, he, happ⟩ := List.mem_filterMap.mp (List.mem_of_head? hhead)
      rw [List.forall_mem_singleton, targetsSignal_draft_iff]
      refine ⟨fun htag => absurd htag (by decide), fun _ => ⟨first, ⟨rfl, rfl⟩, e, he, happ⟩,
        fun htag => absurd htag (by decide), fun htag => absurd htag (by decide)⟩

theorem foregroundDrafts_targets
    (hopened : ∀ app ∈ s.observedForegroundApps, ∃ e ∈ events, e.openedBy = some app) :
    ∀ intent ∈ foregroundDrafts (F := F) s, TargetsSignal events intent := by
  unfold foregroundDrafts
  cases hhead : s.observedForegroundApps.head? with
  | none => exact fun _ hmem => absurd hmem List.not_mem_nil
  | some app =>
    rw [List.forall_mem_singleton, targetsSignal_draft_iff]
    exact ⟨fun htag => absurd htag (by decide), fun htag => absurd htag (by decide),
      fun _ => ⟨app, ⟨rfl, rfl⟩, hopened app (List.mem_of_head? hhead)⟩,
      fun htag => absurd htag (by decide)⟩

theorem pressureDrafts_targets (hworst : Heaviest (events.filterMap pressure) s.memoryPressure) :
    ∀ intent ∈ pressureDrafts (F := F) s, TargetsSignal events intent := by
  unfold pressureDrafts
  cases hpressure : s.memoryPressure with
  | none => exact fun _ hmem => absurd hmem List.not_mem_nil
  | some worst =>
    rw [hpressure] at hworst
    rw [List.forall_mem_singleton, targetsSignal_draft_iff]
    exact ⟨fun htag => absurd htag (by decide), fun htag => absurd htag (by decide),
      fun htag => absurd htag (by decide), fun _ => ⟨worst, hworst.1, ⟨rfl, rfl⟩, hworst.2⟩⟩

theorem screenDrafts_targets :
    ∀ intent ∈ screenDrafts (F := F) s, TargetsSignal events intent := by
  unfold screenDrafts
  split
  · exact List.forall_mem_singleton.mpr (targetsSignal_of_other (by decide))
  · exact fun _ hmem => absurd hmem List.not_mem_nil

theorem batteryDrafts_targets :
    ∀ intent ∈ batteryDrafts (F := F) s, TargetsSignal events intent := by
  unfold batteryDrafts
  split
  · exact List.forall_mem_singleton.mpr (targetsSignal_of_other (by decide))
  · exact fun _ hmem => absurd hmem List.not_mem_nil

theorem drafts_targets_iff
    (hopened : ∀ app ∈ s.observedForegroundApps, ∃ e ∈ events, e.openedBy = some app)
    (hworst : Heaviest (events.filterMap pressure) s.memoryPressure) :
    (∀ intent ∈ drafts (F := F) s apps, TargetsSignal events intent) ↔
      ∀ intent ∈ notificationDrafts (F := F) s apps, TargetsSignal events intent := by
  have hfound : (∀ intent ∈ notificationDrafts (F := F) s apps ++ foregroundDrafts s ++
        screenDrafts s ++ batteryDrafts s ++ pressureDrafts s, TargetsSignal events intent) ↔
      ∀ intent ∈ notificationDrafts (F := F) s apps, TargetsSignal events intent := by
    simp only [List.forall_mem_append]
    exact ⟨fun h => h.1.1.1.1, fun h => ⟨⟨⟨⟨h, foregroundDrafts_targets hopened⟩,
      screenDrafts_targets⟩, batteryDrafts_targets⟩, pressureDrafts_targets hworst⟩⟩
  rw [← hfound]
  unfold drafts
  dsimp only
  split
  · rename_i hempty
    rw [List.isEmpty_iff.mp hempty]
    exact iff_of_true (List.forall_mem_singleton.mpr (targetsSignal_of_other (by decide)))
      fun _ hmem => absurd hmem List.not_mem_nil
  · rfl

theorem generateIntents_targets_iff (draw : BackendDraw) {context : StructuredContext}
    (happs : FirstOccurrences (context.events.filterMap SanitizedEvent.notifiedBy)
      context.summary.notifiedApps) :
    (∀ intent ∈ generateIntents (F := F) draw context, TargetsSignal context.events intent) ↔
      FirstNotifierMentionsFile context.events := by
  rw [generateIntents, forall_drawIds_iff, drafts_targets_iff]
  · exact notificationDrafts_targets_iff (foldl_scan_hasFileMention context.events) happs.head?_eq
  · intro app happ
    exact List.mem_filterMap.mp
      (((foldl_scan_observedForegroundApps context.events).mem app).mp happ)
  · exact foldl_scan_memoryPressure context.events

/-- In every window every intent names an app that shows its signal exactly when the first app
that notified mentions a file, if any does. -/
theorem evaluate_targets_iff (draw : BackendDraw) {w : WindowAggregator} {nowMs : Int}
    {windowDraw : WindowDraw} {context : StructuredContext}
    (hclose : (w.close nowMs windowDraw).1 = some context) :
    (∀ intent ∈ (evaluate (F := F) draw context).intentBatch.intents,
      TargetsSignal context.events intent) ↔ FirstNotifierMentionsFile context.events := by
  refine generateIntents_targets_iff draw ?_
  rw [WindowAggregator.close_fst] at hclose
  split at hclose
  · cases hclose
  · cases hclose
    exact ContextBuilder.buildSummary_notifiedApps windowDraw.order w.buffer

end

end

namespace TargetsSample

def notified (app : String) (hints : List SemanticHint) : SanitizedEvent :=
  ⟨app, 1000, .notification app none none ⟨5, .latin, false⟩ ⟨5, .latin, false⟩ hints false none,
    .publicApi, none, none⟩

/-- The chat notifies, then the mail app, which mentions a file. -/
def chatFirst : WindowAggregator := ⟨[notified "chat" [], notified "mail" [.fileMention]], 60, 0⟩

def mailFirst : WindowAggregator := ⟨[notified "mail" [.fileMention], notified "chat" []], 60, 0⟩

def draw : WindowDraw := ⟨"w1", .id⟩

end TargetsSample

open TargetsSample in
theorem evaluate_targets_iff_mailFirst :
    (mailFirst.close 60000 draw).1 = some (mailFirst.context 60000 draw) ∧
      ∀ intent ∈ (evaluate (F := ℚ) ⟨fun _ => "", 0⟩
          (mailFirst.context 60000 draw)).intentBatch.intents,
        TargetsSignal mailFirst.buffer intent :=
  ⟨rfl, (evaluate_targets_iff ⟨fun _ => "", 0⟩ (w := mailFirst)
    (show (mailFirst.close 60000 draw).1 = some (mailFirst.context 60000 draw) from rfl)).mpr
    (by decide)⟩

open TargetsSample in
theorem evaluate_targets_chatFirst :
    (chatFirst.close 60000 draw).1 = some (chatFirst.context 60000 draw) ∧
      ¬ ∀ intent ∈ (evaluate (F := ℚ) ⟨fun _ => "", 0⟩
          (chatFirst.context 60000 draw)).intentBatch.intents,
        TargetsSignal chatFirst.buffer intent := by
  refine ⟨rfl, fun h => ?_⟩
  have happs := ContextBuilder.buildSummary_notifiedApps draw.order chatFirst.buffer
  have hfirst : FirstNotifierMentionsFile chatFirst.buffer :=
    (generateIntents_targets_iff ⟨fun _ => "", 0⟩ (show FirstOccurrences
      ((chatFirst.context 60000 draw).events.filterMap SanitizedEvent.notifiedBy) _ from
        happs)).mp h
  exact absurd hfirst (by decide)

end Dipecs.Agent.RuleBasedBackend
