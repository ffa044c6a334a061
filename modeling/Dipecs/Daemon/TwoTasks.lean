import Dipecs.Daemon.ProcessingLoop
import Dipecs.Library.Channel
import Dipecs.Library.Progress

/-! The two tasks of the daemon and the channel between them: the collection loop polls its
source and sends, the processing loop receives, and a shutdown ends first the one, then the
other. -/

namespace Dipecs.Daemon

open Dipecs.Spec Dipecs.Core Dipecs.Library

/-- Where the collection loop stands between two of its effects. -/
inductive CollectionTask
  | polling
  | sending (rest : List IngestedRawEvent)
  | sleeping
  | returned

def CollectionTask.unsent : CollectionTask → List IngestedRawEvent
  | .sending rest => rest
  | _ => []

structure DaemonState where
  collection : CollectionTask
  rawChannel : Channel IngestedRawEvent
  shutdown : Bool
  processing : LoopState

structure TurnReads where
  eventId : String
  instant : Nat
  timestampMs : Int
  draw : WindowDraw
  rearmedAt : Nat

def TurnReads.turn (r : TurnReads) (event : ProcessingEvent) : Turn :=
  ⟨event, r.instant, r.timestampMs, r.draw, r.rearmedAt⟩

/-- What the scheduler, the source, the timer and the signal handlers may do next. -/
inductive Move
  | signal
  | poll (events : List IngestedRawEvent)
  | send
  | checkShutdown
  | wake
  | receive (reads : TurnReads)
  | expire (reads : TurnReads)

def Move.polled : Move → List IngestedRawEvent
  | .poll events => events
  | _ => []

namespace TwoTasks

def start (p : LoopParams) (capacity : Nat) (window : WindowAggregator) (instant : Nat) :
    DaemonState :=
  ⟨.polling, .new capacity, false, ProcessingLoop.start p window instant⟩

def returnCollection (s : DaemonState) : DaemonState :=
  { s with collection := .returned, rawChannel := s.rawChannel.dropSender }

def runCollectionLoop (s : DaemonState) : Move → Option DaemonState
  | .poll events =>
    match s.collection with
    | .polling => some { s with collection := .sending events }
    | _ => none
  | .send =>
    match s.collection with
    | .sending (event :: rest) =>
      match s.rawChannel.send event with
      | .ready (some c) => some { s with collection := .sending rest, rawChannel := c }
      | .ready none => some (returnCollection s)
      | .pending => none
    | _ => none
  | .checkShutdown =>
    match s.collection with
    | .sending [] =>
      if s.shutdown then some (returnCollection s) else some { s with collection := .sleeping }
    | _ => none
  | .wake =>
    match s.collection with
    | .sleeping => some { s with collection := .polling }
    | _ => none
  | _ => none

def takeTurn (p : LoopParams) (s : DaemonState) (c : Channel IngestedRawEvent) (t : Turn) :
    DaemonState × List HandedWindow :=
  let (processing, windows) := ProcessingLoop.turn p s.processing t
  ({ s with
      rawChannel := if processing.summary.isSome then c.dropReceiver else c
      processing := processing }, windows)

def runProcessingLoop (p : LoopParams) (s : DaemonState) :
    Move → Option (DaemonState × List HandedWindow)
  | .receive reads =>
    if s.processing.summary.isSome then none
    else match s.rawChannel.recv with
      | .ready (some (ingested, c)) =>
        some (takeTurn p s c (reads.turn (.raw ingested reads.eventId)))
      | .ready none => some (takeTurn p s s.rawChannel (reads.turn .rawChannelClosed))
      | .pending => none
  | .expire reads =>
    if s.processing.summary.isSome then none
    else some (takeTurn p s s.rawChannel (reads.turn .windowExpired))
  | _ => none

/-- `none` where the move has to wait. -/
def advance (p : LoopParams) (s : DaemonState) (x : Move) :
    Option (DaemonState × List HandedWindow) :=
  match x with
  | .signal => some ({ s with shutdown := true }, [])
  | .receive _ | .expire _ => runProcessingLoop p s x
  | _ => (runCollectionLoop s x).map (·, [])

def Enabled (p : LoopParams) (s : DaemonState) (x : Move) : Prop := (advance p s x).isSome

def machine (p : LoopParams) : Machine DaemonState Move HandedWindow := .guarded (advance p)

/-! ### One move -/

inductive Advances (p : LoopParams) (s : DaemonState) :
    Move → DaemonState → List HandedWindow → Prop
  | signal : Advances p s .signal { s with shutdown := true } []
  | poll (events : List IngestedRawEvent) (h : s.collection = .polling) :
    Advances p s (.poll events) { s with collection := .sending events } []
  | send (event : IngestedRawEvent) (rest : List IngestedRawEvent)
    (h : s.collection = .sending (event :: rest))
    (hroom : s.rawChannel.queue.length < s.rawChannel.capacity) :
    Advances p s .send
      { s with
        collection := .sending rest
        rawChannel := { s.rawChannel with queue := s.rawChannel.queue ++ [event] } } []
  | sendFails (event : IngestedRawEvent) (rest : List IngestedRawEvent)
    (h : s.collection = .sending (event :: rest)) (hgone : s.rawChannel.receiverDropped = true) :
    Advances p s .send (returnCollection s) []
  | shutdown (h : s.collection = .sending []) (hshutdown : s.shutdown = true) :
    Advances p s .checkShutdown (returnCollection s) []
  | sleep (h : s.collection = .sending []) (hshutdown : s.shutdown = false) :
    Advances p s .checkShutdown { s with collection := .sleeping } []
  | wake (h : s.collection = .sleeping) : Advances p s .wake { s with collection := .polling } []
  | receive (reads : TurnReads) (ingested : IngestedRawEvent) (rest : List IngestedRawEvent)
    (hopen : s.processing.summary = none) (hqueue : s.rawChannel.queue = ingested :: rest) :
    Advances p s (.receive reads)
      (takeTurn p s { s.rawChannel with queue := rest }
        (reads.turn (.raw ingested reads.eventId))).1
      (takeTurn p s { s.rawChannel with queue := rest }
        (reads.turn (.raw ingested reads.eventId))).2
  | closed (reads : TurnReads) (hopen : s.processing.summary = none)
    (hqueue : s.rawChannel.queue = []) (hgone : s.rawChannel.senderDropped = true) :
    Advances p s (.receive reads)
      (takeTurn p s s.rawChannel (reads.turn .rawChannelClosed)).1
      (takeTurn p s s.rawChannel (reads.turn .rawChannelClosed)).2
  | expire (reads : TurnReads) (hopen : s.processing.summary = none) :
    Advances p s (.expire reads) (takeTurn p s s.rawChannel (reads.turn .windowExpired)).1
      (takeTurn p s s.rawChannel (reads.turn .windowExpired)).2

section
variable {p : LoopParams} {s s' : DaemonState} {x : Move} {out : List HandedWindow}

theorem advances_of_collection (h : runCollectionLoop s x = some s') : Advances p s x s' [] := by
  cases x with
  | signal => cases h
  | receive reads => cases h
  | expire reads => cases h
  | poll events =>
    simp only [runCollectionLoop] at h
    split at h
    · cases h
      exact .poll events ‹_›
    · cases h
  | send =>
    simp only [runCollectionLoop] at h
    split at h
    · rename_i event rest hcollection
      split at h
      · rename_i c hsend
        obtain ⟨hreceiver, hroom, rfl⟩ := Channel.send_eq_some hsend
        cases h
        exact .send event rest hcollection hroom
      · rename_i hsend
        cases h
        exact .sendFails event rest hcollection (Channel.send_eq_none_iff.mp hsend)
      · cases h
    · cases h
  | checkShutdown =>
    simp only [runCollectionLoop] at h
    split at h
    · split at h
      · cases h
        exact .shutdown ‹_› ‹_›
      · cases h
        exact .sleep ‹_› (by simpa using ‹¬s.shutdown = true›)
    · cases h
  | wake =>
    simp only [runCollectionLoop] at h
    split at h
    · cases h
      exact .wake ‹_›
    · cases h

theorem advances_of_processing (h : runProcessingLoop p s x = some (s', out)) :
    Advances p s x s' out := by
  cases x with
  | receive reads =>
    simp only [runProcessingLoop] at h
    split at h
    · cases h
    · have hopen : s.processing.summary = none := by
        simpa using ‹¬s.processing.summary.isSome = true›
      split at h
      · rename_i ingested c hrecv
        obtain ⟨hqueue, hc⟩ := Channel.recv_eq_some hrecv
        rw [hc] at h
        obtain ⟨rfl, rfl⟩ := Prod.mk.inj (Option.some.inj h)
        exact .receive reads ingested c.queue hopen hqueue
      · rename_i hrecv
        obtain ⟨hqueue, hgone⟩ := Channel.recv_eq_none_iff.mp hrecv
        obtain ⟨rfl, rfl⟩ := Prod.mk.inj (Option.some.inj h)
        exact .closed reads hopen hqueue hgone
      · cases h
  | expire reads =>
    simp only [runProcessingLoop] at h
    split at h
    · cases h
    · obtain ⟨rfl, rfl⟩ := Prod.mk.inj (Option.some.inj h)
      exact .expire reads (by simpa using ‹¬s.processing.summary.isSome = true›)
  | _ => cases h

theorem advances_of_advance (h : advance p s x = some (s', out)) : Advances p s x s' out := by
  have hcollection : ∀ y, (runCollectionLoop s y).map (·, []) = some (s', out) →
      Advances p s y s' out := by
    intro y hy
    obtain ⟨t, ht, heq⟩ := Option.map_eq_some_iff.mp hy
    obtain ⟨rfl, rfl⟩ := Prod.mk.inj heq
    exact advances_of_collection ht
  cases x with
  | signal =>
    obtain ⟨rfl, rfl⟩ := Prod.mk.inj (Option.some.inj h)
    exact .signal
  | receive reads => exact advances_of_processing h
  | expire reads => exact advances_of_processing h
  | poll events => exact hcollection _ h
  | send => exact hcollection _ h
  | checkShutdown => exact hcollection _ h
  | wake => exact hcollection _ h

theorem Enabled.advances (h : Enabled p s x) :
    Advances p s x ((machine p).step s x).1 ((machine p).step s x).2 := by
  obtain ⟨⟨s', out⟩, hadvance⟩ := Option.isSome_iff_exists.mp h
  rw [machine, Machine.guarded_step hadvance]
  exact advances_of_advance hadvance

end

end TwoTasks

end Dipecs.Daemon
