import Dipecs.Collector.CollectionStats
import Dipecs.Core.ContextBuilder
import Dipecs.Core.PrivacyAirgap
import Dipecs.Library.Machine

/-! The daemon's processing loop: raw events are received, sanitized and collected in
the current window, until a deadline or the closing of the channel hands the window on. -/

namespace Dipecs.Daemon

open Dipecs.Spec Dipecs.Core Dipecs.Collector Dipecs.Library

inductive LoopTermination
  | channelClosed
  deriving DecidableEq

structure ProcessingLoopSummary where
  windowsClosed : UInt32
  eventsProcessed : UInt64
  terminatedBy : LoopTermination
  deriving DecidableEq

/-- What `select!` returns; a sanitized event draws its identifier. -/
inductive ProcessingEvent
  | raw (ingested : IngestedRawEvent) (eventId : String)
  | rawChannelClosed
  | windowExpired

/-- One turn of the loop: what happened, and the clocks and draws read while handling it. -/
structure Turn where
  event : ProcessingEvent
  instant : Nat
  timestampMs : Int
  draw : WindowDraw
  rearmedAt : Nat

structure HandedWindow where
  windowOrdinal : UInt32
  context : StructuredContext
  rawStats : RawEventStats

structure LoopState where
  window : WindowAggregator
  rawStats : RawEventStats
  windowOrdinal : UInt32
  eventsProcessed : UInt64
  windowDeadline : Nat
  summary : Option ProcessingLoopSummary

structure LoopParams where
  toLowercase : String → String
  windowDuration : Nat

namespace ProcessingLoop

def start (p : LoopParams) (window : WindowAggregator) (instant : Nat) : LoopState :=
  ⟨window, .default, 0, 0, instant + p.windowDuration, none⟩

def receive (p : LoopParams) (s : LoopState) (ingested : IngestedRawEvent) (eventId : String) :
    LoopState :=
  { s with
    rawStats := s.rawStats.record ingested.rawEvent
    window := s.window.push
      (PrivacyAirGap.sanitizeWithTier p.toLowercase eventId ingested.rawEvent
        ingested.sourceTier)
    eventsProcessed := s.eventsProcessed + 1 }

/-- The statistics are taken whether or not there is a window to hand on. -/
def closeWindow (s : LoopState) (t : Turn) : LoopState × List HandedWindow :=
  match s.window.close t.timestampMs t.draw with
  | (some ctx, w) =>
    ({ s with window := w, rawStats := .default, windowOrdinal := s.windowOrdinal + 1 },
      [⟨s.windowOrdinal, ctx, s.rawStats⟩])
  | (none, w) => ({ s with window := w, rawStats := .default }, [])

def closeAndRearm (p : LoopParams) (s : LoopState) (t : Turn) : LoopState × List HandedWindow :=
  ({ (closeWindow s t).1 with windowDeadline := t.rearmedAt + p.windowDuration },
    (closeWindow s t).2)

def flush (s : LoopState) (t : Turn) : LoopState × List HandedWindow :=
  let closed := (closeWindow s t).1
  ({ closed with
    summary := some ⟨closed.windowOrdinal, closed.eventsProcessed, .channelClosed⟩ },
    (closeWindow s t).2)

/-- Once the loop has returned its summary, nothing happens any more. -/
def turn (p : LoopParams) (s : LoopState) (t : Turn) : LoopState × List HandedWindow :=
  if s.summary.isSome then (s, [])
  else match t.event with
    | .rawChannelClosed => flush s t
    | .raw ingested eventId =>
      let s := receive p s ingested eventId
      if t.instant ≥ s.windowDeadline then closeAndRearm p s t else (s, [])
    | .windowExpired => closeAndRearm p s t

def machine (p : LoopParams) : Machine LoopState Turn HandedWindow := ⟨turn p⟩

/-! ### What was heard -/

def isClosing (t : Turn) : Bool :=
  match t.event with
  | .rawChannelClosed => true
  | _ => false

def heard (turns : List Turn) : List Turn := turns.takeWhile fun t => !isClosing t

def sanitizedOf (p : LoopParams) (t : Turn) : List SanitizedEvent :=
  match t.event with
  | .raw ingested eventId =>
    [PrivacyAirGap.sanitizeWithTier p.toLowercase eventId ingested.rawEvent ingested.sourceTier]
  | _ => []

def received (p : LoopParams) (turns : List Turn) : List SanitizedEvent :=
  (heard turns).flatMap (sanitizedOf p)

theorem received_append_closed (p : LoopParams) {pre : List Turn} (h : pre.any isClosing = true)
    (t : Turn) : received p (pre ++ [t]) = received p pre := by
  obtain ⟨x, hx, hclosing⟩ := List.any_eq_true.mp h
  have : heard (pre ++ [t]) = heard pre := by
    unfold heard
    rw [List.takeWhile_append, if_neg]
    intro hlen
    have heq := (List.takeWhile_prefix (p := fun t => !isClosing t) (l := pre)).eq_of_length hlen
    have := List.takeWhile_eq_self_iff.mp heq x hx
    simp [hclosing] at this
  rw [received, this, received]

theorem received_append_open (p : LoopParams) {pre : List Turn} (h : pre.any isClosing = false)
    (t : Turn) : received p (pre ++ [t]) = received p pre ++ sanitizedOf p t := by
  have hpre : ∀ x ∈ pre, (!isClosing x) = true := by
    intro x hx
    simpa using List.any_eq_false.mp h x hx
  have h1 : heard pre = pre := List.takeWhile_eq_self_iff.mpr hpre
  have h2 : heard (pre ++ [t]) = pre ++ heard [t] := List.takeWhile_append_of_pos hpre
  rw [received, received, h1, h2, List.flatMap_append]
  congr 1
  obtain ⟨event, instant, timestampMs, draw, rearmedAt⟩ := t
  cases event <;> simp [heard, isClosing, sanitizedOf]

/-! ### The invariant of the loop -/

/-- Where the received events are: in the windows handed on, or in the open window. -/
structure Accounted (events : List SanitizedEvent) (out : List HandedWindow) (s : LoopState) :
    Prop where
  conserved : out.flatMap (fun h => h.context.events) ++ s.window.buffer = events
  nonempty : ∀ h ∈ out, h.context.events ≠ []
  stats : ∀ h ∈ out, h.rawStats.total = UInt64.ofNat h.context.events.length
  pending : s.rawStats.total = UInt64.ofNat s.window.buffer.length
  ordinals : out.map HandedWindow.windowOrdinal = (List.range out.length).map UInt32.ofNat
  next : s.windowOrdinal = UInt32.ofNat out.length
  processed : s.eventsProcessed = UInt64.ofNat events.length

section
variable {p : LoopParams} {s : LoopState} {events : List SanitizedEvent}
  {out : List HandedWindow}

theorem closeWindow_of_empty (h : s.window.buffer = []) (t : Turn) :
    closeWindow s t =
      ({ s with
          window := { s.window with windowStartMs := t.timestampMs }
          rawStats := .default }, []) := by
  simp [closeWindow, WindowAggregator.close, h]

theorem closeWindow_of_nonempty (h : s.window.buffer ≠ []) (t : Turn) :
    closeWindow s t =
      ({ s with
          window := ⟨[], s.window.windowSecs, t.timestampMs⟩
          rawStats := .default
          windowOrdinal := s.windowOrdinal + 1 },
        [⟨s.windowOrdinal, s.window.context t.timestampMs t.draw, s.rawStats⟩]) := by
  simp [closeWindow, WindowAggregator.close, h]

theorem closeWindow_buffer (s : LoopState) (t : Turn) :
    (closeWindow s t).1.window.buffer = [] := by
  by_cases h : s.window.buffer = []
  · rw [closeWindow_of_empty h]
    exact h
  · rw [closeWindow_of_nonempty h]

theorem closeWindow_summary (s : LoopState) (t : Turn) :
    (closeWindow s t).1.summary = s.summary := by
  by_cases h : s.window.buffer = []
  · rw [closeWindow_of_empty h]
  · rw [closeWindow_of_nonempty h]

namespace Accounted

theorem start (p : LoopParams) (windowSecs : UInt64) (nowMs : Int) (instant : Nat) :
    Accounted [] [] (start p (.new windowSecs nowMs) instant) := by
  constructor <;> simp [ProcessingLoop.start]

theorem receive (h : Accounted events out s) (ingested : IngestedRawEvent) (eventId : String) :
    Accounted (events ++ [PrivacyAirGap.sanitizeWithTier p.toLowercase eventId
      ingested.rawEvent ingested.sourceTier]) out (receive p s ingested eventId) where
  conserved := by simp [ProcessingLoop.receive, ← h.conserved]
  nonempty := h.nonempty
  stats := h.stats
  pending := by
    simp [ProcessingLoop.receive, RawEventStats.record_total, h.pending, UInt64.ofNat_add]
  ordinals := h.ordinals
  next := h.next
  processed := by simp [ProcessingLoop.receive, h.processed, UInt64.ofNat_add]

theorem closeWindow (h : Accounted events out s) (t : Turn) :
    Accounted events (out ++ (closeWindow s t).2) (closeWindow s t).1 := by
  by_cases hb : s.window.buffer = []
  · rw [closeWindow_of_empty hb]
    constructor
    case conserved => simpa using h.conserved
    case nonempty => simpa using h.nonempty
    case stats => simpa using h.stats
    case pending => simp [hb]
    case ordinals => simpa using h.ordinals
    case next => simpa using h.next
    case processed => exact h.processed
  · rw [closeWindow_of_nonempty hb]
    constructor
    case conserved => simp [← h.conserved]
    case nonempty =>
      intro w hw
      rcases List.mem_append.mp hw with hw | hw
      · exact h.nonempty w hw
      · obtain rfl := List.mem_singleton.mp hw
        exact hb
    case stats =>
      intro w hw
      rcases List.mem_append.mp hw with hw | hw
      · exact h.stats w hw
      · obtain rfl := List.mem_singleton.mp hw
        exact h.pending
    case pending => simp
    case ordinals => simp [h.ordinals, h.next, List.range_succ]
    case next => simp [h.next, UInt32.ofNat_add]
    case processed => exact h.processed

theorem closeAndRearm (h : Accounted events out s) (t : Turn) :
    Accounted events (out ++ (closeAndRearm p s t).2) (closeAndRearm p s t).1 :=
  have hc := h.closeWindow t
  ⟨hc.conserved, hc.nonempty, hc.stats, hc.pending, hc.ordinals, hc.next, hc.processed⟩

theorem flush (h : Accounted events out s) (t : Turn) :
    Accounted events (out ++ (flush s t).2) (flush s t).1 :=
  have hc := h.closeWindow t
  ⟨hc.conserved, hc.nonempty, hc.stats, hc.pending, hc.ordinals, hc.next, hc.processed⟩

end Accounted

/-- The invariant over the turns so far: everything is accounted for, and the loop has
returned its summary exactly when the channel was found closed. -/
structure Inv (p : LoopParams) (pre : List Turn) (out : List HandedWindow) (s : LoopState) :
    Prop where
  accounted : Accounted (received p pre) out s
  running : pre.any isClosing = false → s.summary = none
  returned : pre.any isClosing = true → s.window.buffer = [] ∧
    s.summary = some ⟨UInt32.ofNat out.length, UInt64.ofNat (received p pre).length,
      .channelClosed⟩

namespace Inv
variable {pre : List Turn} {t : Turn}

theorem of_open (h : (pre ++ [t]).any isClosing = false)
    (haccounted : Accounted (received p (pre ++ [t])) out s) (hsummary : s.summary = none) :
    Inv p (pre ++ [t]) out s :=
  ⟨haccounted, fun _ => hsummary, fun hclosed => by simp [h] at hclosed⟩

theorem step_returned (h : Inv p pre out s) (hclosed : pre.any isClosing = true) :
    Inv p (pre ++ [t]) (out ++ (turn p s t).2) (turn p s t).1 := by
  obtain ⟨hbuffer, hsummary⟩ := h.returned hclosed
  have hturn : turn p s t = (s, []) := by simp [turn, hsummary]
  have hreceived := received_append_closed p hclosed t
  rw [hturn, List.append_nil]
  refine ⟨hreceived ▸ h.accounted, fun hopen => ?_, fun _ => ⟨hbuffer, hreceived ▸ hsummary⟩⟩
  simp [hclosed] at hopen

theorem step_closing (h : Inv p pre out s) (hopen : pre.any isClosing = false)
    (ht : t.event = .rawChannelClosed) :
    Inv p (pre ++ [t]) (out ++ (turn p s t).2) (turn p s t).1 := by
  have hreceived : received p (pre ++ [t]) = received p pre := by
    simp [received_append_open p hopen t, sanitizedOf, ht]
  have hturn : turn p s t = flush s t := by simp [turn, h.running hopen, ht]
  have hflush := h.accounted.flush t
  rw [hturn]
  refine ⟨hreceived ▸ hflush, fun hopen => ?_, fun _ => ⟨closeWindow_buffer s t, ?_⟩⟩
  · simp [isClosing, ht] at hopen
  · rw [hreceived, ← hflush.next, ← hflush.processed]
    rfl

theorem step_expired (h : Inv p pre out s) (hopen : pre.any isClosing = false)
    (ht : t.event = .windowExpired) :
    Inv p (pre ++ [t]) (out ++ (turn p s t).2) (turn p s t).1 := by
  have hsummary := h.running hopen
  have hreceived : received p (pre ++ [t]) = received p pre := by
    simp [received_append_open p hopen t, sanitizedOf, ht]
  have hturn : turn p s t = closeAndRearm p s t := by simp [turn, hsummary, ht]
  rw [hturn]
  refine of_open (by simp [hopen, isClosing, ht]) (hreceived ▸ h.accounted.closeAndRearm t) ?_
  exact (closeWindow_summary s t).trans hsummary

theorem step_raw (h : Inv p pre out s) (hopen : pre.any isClosing = false)
    {ingested : IngestedRawEvent} {eventId : String} (ht : t.event = .raw ingested eventId) :
    Inv p (pre ++ [t]) (out ++ (turn p s t).2) (turn p s t).1 := by
  have hsummary := h.running hopen
  have haccounted := h.accounted.receive (p := p) ingested eventId
  have hreceived : received p (pre ++ [t]) = received p pre ++
      [PrivacyAirGap.sanitizeWithTier p.toLowercase eventId ingested.rawEvent
        ingested.sourceTier] := by
    simp [received_append_open p hopen t, sanitizedOf, ht]
  rw [← hreceived] at haccounted
  have hnot : (pre ++ [t]).any isClosing = false := by simp [hopen, isClosing, ht]
  by_cases hdeadline : t.instant ≥ (receive p s ingested eventId).windowDeadline
  · have hturn : turn p s t = closeAndRearm p (receive p s ingested eventId) t := by
      simp [turn, hsummary, ht, hdeadline]
    rw [hturn]
    exact of_open hnot (haccounted.closeAndRearm t) ((closeWindow_summary _ t).trans hsummary)
  · have hturn : turn p s t = (receive p s ingested eventId, []) := by
      simp [turn, hsummary, ht, hdeadline]
    rw [hturn, List.append_nil]
    exact of_open hnot haccounted hsummary

theorem step (h : Inv p pre out s) (t : Turn) :
    Inv p (pre ++ [t]) (out ++ (turn p s t).2) (turn p s t).1 := by
  cases hopen : pre.any isClosing with
  | true => exact h.step_returned hopen
  | false =>
    cases ht : t.event with
    | rawChannelClosed => exact h.step_closing hopen ht
    | raw ingested eventId => exact h.step_raw hopen ht
    | windowExpired => exact h.step_expired hopen ht

end Inv

end

/-- At every moment of every run, the windows handed on and the open window hold the
received events in order; the windows are non-empty and numbered from zero, and once the
channel is found closed the open window is empty and the summary right. The ordinals and the
counts are those of the code, modulo 2^32 and 2^64. -/
theorem run_exact (p : LoopParams) (windowSecs : UInt64) (nowMs : Int) (instant : Nat)
    (turns : List Turn) :
    let (s, out) := (machine p).run (start p (.new windowSecs nowMs) instant) turns
    let events := received p turns
    out.flatMap (fun h => h.context.events) ++ s.window.buffer = events ∧
    (∀ h ∈ out, h.context.events ≠ [] ∧
      h.rawStats.total = UInt64.ofNat h.context.events.length) ∧
    out.map HandedWindow.windowOrdinal = (List.range out.length).map UInt32.ofNat ∧
    s.eventsProcessed = UInt64.ofNat events.length ∧
    (turns.any isClosing = true → s.window.buffer = [] ∧
      s.summary = some ⟨UInt32.ofNat out.length, UInt64.ofNat events.length, .channelClosed⟩) := by
  have hinit : Inv p [] [] (start p (.new windowSecs nowMs) instant) :=
    ⟨Accounted.start p windowSecs nowMs instant, fun _ => rfl, fun h => by simp at h⟩
  have h := Machine.run_history (Inv p) (fun _ _ _ t h _ => h.step t) hinit
    ((machine p).along_true _ turns)
  exact ⟨h.accounted.conserved, fun w hw => ⟨h.accounted.nonempty w hw, h.accounted.stats w hw⟩,
    h.accounted.ordinals, h.accounted.processed, h.returned⟩

end ProcessingLoop

end Dipecs.Daemon
