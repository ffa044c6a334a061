import Dipecs.Core.ContextBuilder
import Dipecs.Core.PrivacyAirgap
import Dipecs.Library.Machine

/-! What the air-gap drops stays out of the contexts: two runs that differ in private content
alone build the same windows, up to drawn identifiers and the order of a hash map. -/

namespace Dipecs.Core

open Dipecs.Spec Dipecs.Library

/-! ### Two runs -/

/-- Raw events that differ only in what the air-gap has to drop. -/
inductive SameKept (toLowercase : String → String) : RawEvent → RawEvent → Prop
  | refl (raw : RawEvent) : SameKept toLowercase raw raw
  | notificationPosted (e : NotificationRawEvent) (rawTitle rawText : String)
      (titleHint textHint : Option TextHint) (semanticHints : List SemanticHint)
      (groupKey : Option String) (hasPicture : Bool)
      (htitle : titleHint.getD (TextAnalysis.analyzeText rawTitle) =
        e.titleHint.getD (TextAnalysis.analyzeText e.rawTitle))
      (htext : textHint.getD (TextAnalysis.analyzeText rawText) =
        e.textHint.getD (TextAnalysis.analyzeText e.rawText))
      (hsemantic : (if semanticHints.isEmpty then
          TextAnalysis.extractSemanticHints toLowercase rawTitle rawText else semanticHints) =
        if e.semanticHints.isEmpty then
          TextAnalysis.extractSemanticHints toLowercase e.rawTitle e.rawText
        else e.semanticHints) :
      SameKept toLowercase (.notificationPosted e) (.notificationPosted
        { e with rawTitle, rawText, titleHint, textHint, semanticHints, groupKey, hasPicture })
  | notificationInteraction (e : NotificationInteractionRawEvent) (notificationKey : String)
      (action : NotificationAction) :
      SameKept toLowercase (.notificationInteraction e)
        (.notificationInteraction { e with notificationKey, action })
  | fileSystemAccess (e : FsAccessEvent) (filePath : String) (pid : UInt32)
      (bytesTransferred : Option UInt64)
      (hcategory : TextAnalysis.classifyExtension toLowercase filePath =
        TextAnalysis.classifyExtension toLowercase e.filePath) :
      SameKept toLowercase (.fileSystemAccess e)
        (.fileSystemAccess { e with filePath, pid, bytesTransferred })
  | binderTransaction (e : BinderTxEvent) (targetMethod : String) (sourcePid payloadSize : UInt32)
      (isOneway : Bool)
      (hinteraction : PrivacyAirGap.interactionOf targetMethod =
        PrivacyAirGap.interactionOf e.targetMethod) :
      SameKept toLowercase (.binderTransaction e)
        (.binderTransaction { e with targetMethod, sourcePid, payloadSize, isOneway })

def SameButEventId (e e' : SanitizedEvent) : Prop := e' = { e with eventId := e'.eventId }

/-- Equal up to `window_id`, `event_id` and what `files` allows of the file activity. -/
structure SameContext
    (files : List (ExtensionCategory × UInt32) → List (ExtensionCategory × UInt32) → Prop)
    (c c' : StructuredContext) : Prop where
  events : List.Forall₂ SameButEventId c.events c'.events
  fileActivity : files c.summary.fileActivity c'.summary.fileActivity
  rest : c' = { c with
    windowId := c'.windowId
    events := c'.events
    summary := { c.summary with fileActivity := c'.summary.fileActivity } }

inductive WindowOp
  | push (eventId : String) (raw : RawEvent) (tier : SourceTier)
  | close (nowMs : Int) (draw : WindowDraw)
  | closeIfExpired (nowMs : Int) (draw : WindowDraw)

/-- The same, up to private content and drawn identifiers; `orders` relates the iteration
orders of the two maps. -/
inductive WindowOp.Same (toLowercase : String → String)
    (orders : Reordering (ExtensionCategory × UInt32) →
      Reordering (ExtensionCategory × UInt32) → Prop) : WindowOp → WindowOp → Prop
  | push (eventId eventId' : String) {raw raw' : RawEvent} (tier : SourceTier)
      (h : SameKept toLowercase raw raw') :
      Same toLowercase orders (.push eventId raw tier) (.push eventId' raw' tier)
  | close (nowMs : Int) {draw draw' : WindowDraw} (h : orders draw.order draw'.order) :
      Same toLowercase orders (.close nowMs draw) (.close nowMs draw')
  | closeIfExpired (nowMs : Int) {draw draw' : WindowDraw} (h : orders draw.order draw'.order) :
      Same toLowercase orders (.closeIfExpired nowMs draw) (.closeIfExpired nowMs draw')

namespace WindowOp

def sanitized (toLowercase : String → String) : WindowOp → Option SanitizedEvent
  | .push eventId raw tier => some (PrivacyAirGap.sanitizeWithTier toLowercase eventId raw tier)
  | _ => none

end WindowOp

namespace WindowAggregator

def machine (toLowercase : String → String) :
    Machine WindowAggregator WindowOp StructuredContext where
  step w
    | .push eventId raw tier =>
      (w.push (PrivacyAirGap.sanitizeWithTier toLowercase eventId raw tier), [])
    | .close nowMs draw => ((w.close nowMs draw).2, (w.close nowMs draw).1.toList)
    | .closeIfExpired nowMs draw =>
      if w.isExpired nowMs then ((w.close nowMs draw).2, (w.close nowMs draw).1.toList)
      else (w, [])

structure SameButIds (w w' : WindowAggregator) : Prop where
  buffer : List.Forall₂ SameButEventId w.buffer w'.buffer
  windowSecs : w'.windowSecs = w.windowSecs
  windowStartMs : w'.windowStartMs = w.windowStartMs

end WindowAggregator

variable {toLowercase : String → String}
  {orders : Reordering (ExtensionCategory × UInt32) →
    Reordering (ExtensionCategory × UInt32) → Prop}
  {files : List (ExtensionCategory × UInt32) → List (ExtensionCategory × UInt32) → Prop}

theorem sanitizeWithTier_sameKept {raw raw' : RawEvent} (h : SameKept toLowercase raw raw')
    (eventId eventId' : String) (tier : SourceTier) :
    SameButEventId (PrivacyAirGap.sanitizeWithTier toLowercase eventId raw tier)
      (PrivacyAirGap.sanitizeWithTier toLowercase eventId' raw' tier) := by
  cases h with
  | refl => cases raw <;> rfl
  | notificationInteraction e key action => rfl
  | notificationPosted e title text titleHint textHint hints groupKey picture htitle htext hhints =>
    simp only [SameButEventId, PrivacyAirGap.sanitizeWithTier, PrivacyAirGap.sanitize,
      PrivacyAirGap.sanitizeNotification, htitle, htext, hhints]
  | fileSystemAccess e path pid bytes hcategory =>
    simp only [SameButEventId, PrivacyAirGap.sanitizeWithTier, PrivacyAirGap.sanitize,
      PrivacyAirGap.sanitizeFs, hcategory]
  | binderTransaction e method pid size oneway hinteraction =>
    simp only [SameButEventId, PrivacyAirGap.sanitizeWithTier, PrivacyAirGap.sanitize,
      PrivacyAirGap.sanitizeBinder, hinteraction]

theorem foldl_summarize_sameButEventId {events events' : List SanitizedEvent}
    (h : List.Forall₂ SameButEventId events events') (s : ContextSummary) :
    events'.foldl ContextBuilder.summarize s = events.foldl ContextBuilder.summarize s := by
  induction h generalizing s with
  | nil => rfl
  | cons he _ ih =>
    rw [List.foldl_cons, List.foldl_cons, ih, he]
    rfl

namespace WindowAggregator.SameButIds

variable {w w' : WindowAggregator}

theorem isExpired (h : w.SameButIds w') (nowMs : Int) :
    w'.isExpired nowMs = w.isExpired nowMs := by
  rw [WindowAggregator.isExpired, WindowAggregator.isExpired, h.windowSecs, h.windowStartMs]

theorem push (h : w.SameButIds w') {e e' : SanitizedEvent} (he : SameButEventId e e') :
    (w.push e).SameButIds (w'.push e') :=
  ⟨List.rel_append h.buffer (.cons he .nil), h.windowSecs, h.windowStartMs⟩

theorem context (h : w.SameButIds w') {draw draw' : WindowDraw}
    (hfiles : ∀ l, files (draw.order.reorder l) (draw'.order.reorder l)) (nowMs : Int) :
    SameContext files (w.context nowMs draw) (w'.context nowMs draw') := by
  have hsummary := foldl_summarize_sameButEventId h.buffer ContextBuilder.emptySummary
  refine ⟨h.buffer, ?_, ?_⟩
  · simp only [WindowAggregator.context, ContextBuilder.buildSummary, hsummary]
    exact hfiles _
  · simp only [WindowAggregator.context, ContextBuilder.buildSummary, hsummary, h.windowStartMs]

theorem close (h : w.SameButIds w') {draw draw' : WindowDraw}
    (hfiles : ∀ l, files (draw.order.reorder l) (draw'.order.reorder l)) (nowMs : Int) :
    (w.close nowMs draw).2.SameButIds (w'.close nowMs draw').2 ∧
      List.Forall₂ (SameContext files) (w.close nowMs draw).1.toList
        (w'.close nowMs draw').1.toList := by
  by_cases hempty : w.buffer = []
  · have hempty' : w'.buffer = [] := by
      have hbuffer := h.buffer
      rw [hempty] at hbuffer
      exact List.forall₂_nil_left_iff.mp hbuffer
    rw [close_of_empty hempty, close_of_empty hempty']
    exact ⟨⟨h.buffer, h.windowSecs, rfl⟩, .nil⟩
  · have hempty' : w'.buffer ≠ [] := by
      intro hempty'
      have hbuffer := h.buffer
      rw [hempty'] at hbuffer
      exact hempty (List.forall₂_nil_right_iff.mp hbuffer)
    rw [close_of_nonempty hempty, close_of_nonempty hempty']
    exact ⟨⟨.nil, h.windowSecs, rfl⟩, .cons (h.context hfiles nowMs) .nil⟩

theorem step (h : w.SameButIds w') {op op' : WindowOp} (hop : op.Same toLowercase orders op')
    (hfiles : ∀ order order', orders order order' →
      ∀ l, files (order.reorder l) (order'.reorder l)) :
    ((machine toLowercase).step w op).1.SameButIds ((machine toLowercase).step w' op').1 ∧
      List.Forall₂ (SameContext files) ((machine toLowercase).step w op).2
        ((machine toLowercase).step w' op').2 := by
  cases hop with
  | push eventId eventId' tier hkept =>
    exact ⟨h.push (sanitizeWithTier_sameKept hkept _ _ _), .nil⟩
  | close nowMs hdraw => exact h.close (hfiles _ _ hdraw) nowMs
  | closeIfExpired nowMs hdraw =>
    simp only [machine, h.isExpired]
    split
    · exact h.close (hfiles _ _ hdraw) nowMs
    · exact ⟨h, .nil⟩

end WindowAggregator.SameButIds

theorem WindowOp.sanitized_same {ops ops' : List WindowOp}
    (h : List.Forall₂ (WindowOp.Same toLowercase orders) ops ops') :
    List.Forall₂ SameButEventId (ops.filterMap (·.sanitized toLowercase))
      (ops'.filterMap (·.sanitized toLowercase)) := by
  induction h with
  | nil => exact .nil
  | cons hop _ ih =>
    cases hop with
    | push eventId eventId' tier hkept =>
      exact .cons (sanitizeWithTier_sameKept hkept _ _ _) ih
    | close => exact ih
    | closeIfExpired => exact ih

/-- Of private content nothing reaches the sanitized events or the contexts.  The file
activity may come in another order, but only if the maps hand it out in another. -/
theorem airgap_noninterference (toLowercase : String → String) {w w' : WindowAggregator}
    (hw : w.SameButIds w') {ops ops' : List WindowOp} :
    (List.Forall₂ (WindowOp.Same toLowercase fun _ _ => True) ops ops' →
      List.Forall₂ SameButEventId (ops.filterMap (·.sanitized toLowercase))
        (ops'.filterMap (·.sanitized toLowercase)) ∧
      List.Forall₂ (SameContext List.Perm) ((WindowAggregator.machine toLowercase).run w ops).2
        ((WindowAggregator.machine toLowercase).run w' ops').2) ∧
    (List.Forall₂ (WindowOp.Same toLowercase Eq) ops ops' →
      List.Forall₂ (SameContext Eq) ((WindowAggregator.machine toLowercase).run w ops).2
        ((WindowAggregator.machine toLowercase).run w' ops').2) := by
  refine ⟨fun h => ⟨WindowOp.sanitized_same h, ?_⟩, fun h => ?_⟩
  · refine (Machine.run_related (fun s t x y hst hxy => hst.step hxy ?_) hw h).2
    intro order order' _ l
    exact (order.perm l).trans (order'.perm l).symm
  · refine (Machine.run_related (fun s t x y hst hxy => hst.step hxy ?_) hw h).2
    rintro order _ rfl l
    rfl

namespace AirgapSample

def paid (rawTitle rawText notificationKey : String) : List WindowOp :=
  [.push notificationKey (.notificationPosted
      ⟨1, "com.bank", none, none, rawTitle, rawText, none, none, [], false, none, false⟩)
      .publicApi,
    .push notificationKey (.notificationInteraction ⟨2, "com.bank", notificationKey, .tapped⟩)
      .publicApi,
    .closeIfExpired 10000 ⟨notificationKey, .id⟩]

theorem paid_same {orders : Reordering (ExtensionCategory × UInt32) →
    Reordering (ExtensionCategory × UInt32) → Prop} (h : orders .id .id) :
    List.Forall₂ (WindowOp.Same id orders) (paid "pay Ann" "otp 1234" "0|ann")
      (paid "pay Bob" "otp 5678" "0|bob") := by
  refine .cons (.push _ _ _ (.notificationPosted _ _ _ none none [] none false ?_ ?_ ?_))
    (.cons (.push _ _ _ (.notificationInteraction _ _ _)) (.cons (.closeIfExpired _ h) .nil))
  all_goals decide +kernel

def accesses (order : Reordering (ExtensionCategory × UInt32)) : List WindowOp :=
  [.push "e1" (.fileSystemAccess ⟨1, 7, 1000, "photo.jpg", .openRead, none⟩) .daemon,
    .push "e2" (.fileSystemAccess ⟨2, 7, 1000, "notes.txt", .openRead, none⟩) .daemon,
    .close 10000 ⟨"w", order⟩]

theorem accesses_same (order order' : Reordering (ExtensionCategory × UInt32)) :
    List.Forall₂ (WindowOp.Same id fun _ _ => True) (accesses order) (accesses order') :=
  .cons (.push _ _ _ (.refl _)) (.cons (.push _ _ _ (.refl _)) (.cons (.close _ trivial) .nil))

end AirgapSample

open AirgapSample in
theorem airgap_noninterference_paid :
    let ops := paid "pay Ann" "otp 1234" "0|ann"
    let ops' := paid "pay Bob" "otp 5678" "0|bob"
    List.Forall₂ SameButEventId (ops.filterMap (·.sanitized id))
      (ops'.filterMap (·.sanitized id)) ∧
    List.Forall₂ (SameContext Eq) ((WindowAggregator.machine id).run (.new 10 0) ops).2
      ((WindowAggregator.machine id).run (.new 10 0) ops').2 :=
  have hlaw := airgap_noninterference id
    (show (WindowAggregator.new 10 0).SameButIds (.new 10 0) from ⟨.nil, rfl, rfl⟩)
  ⟨(hlaw.1 (paid_same trivial)).1, hlaw.2 (paid_same rfl)⟩

open AirgapSample in
/-- Two windows over the same file accesses, with the map handed out in either order. -/
theorem airgap_interference_order :
    List.Forall₂ (WindowOp.Same id fun _ _ => True) (accesses .id) (accesses .reverse) ∧
    ¬List.Forall₂ (SameContext Eq)
      ((WindowAggregator.machine id).run (.new 10 0) (accesses .id)).2
      ((WindowAggregator.machine id).run (.new 10 0) (accesses .reverse)).2 := by
  refine ⟨accesses_same _ _, fun h => ?_⟩
  have hactivity : ((WindowAggregator.machine id).run (.new 10 0) (accesses .id)).2.map
        (·.summary.fileActivity) ≠
      ((WindowAggregator.machine id).run (.new 10 0) (accesses .reverse)).2.map
        (·.summary.fileActivity) := by decide +kernel
  refine hactivity ?_
  generalize ((WindowAggregator.machine id).run (.new 10 0) (accesses .id)).2 = cs at h
  generalize ((WindowAggregator.machine id).run (.new 10 0) (accesses .reverse)).2 = cs' at h
  induction h with
  | nil => rfl
  | cons hc _ ih => exact congrArg₂ List.cons hc.fileActivity ih

end Dipecs.Core
