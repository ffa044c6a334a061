import Dipecs.Daemon.TwoTasks

/-! What holds in every interleaving of the daemon's two tasks: no polled event is lost,
repeated or overtaken between the source and the windows, and after a shutdown both tasks
return, with every polled event in a window that was handed on. -/

namespace Dipecs.Daemon

open Dipecs.Spec Dipecs.Core Dipecs.Library

namespace ProcessingLoop

theorem turn_summary {p : LoopParams} {s : LoopState} (h : s.summary = none) (t : Turn) :
    (turn p s t).1.summary.isSome = isClosing t := by
  have hrun : s.summary.isSome = false := by rw [h]; rfl
  have hclose : ∀ s' : LoopState, s'.summary = none →
      (closeAndRearm p s' t).1.summary.isSome = false := by
    intro s' hs'
    have : (closeAndRearm p s' t).1.summary = s'.summary := closeWindow_summary s' t
    rw [this, hs']
    rfl
  unfold turn isClosing
  rw [hrun]
  cases t.event with
  | rawChannelClosed => rfl
  | windowExpired => exact hclose s h
  | raw ingested eventId =>
    simp only [Bool.false_eq_true, if_false]
    split
    · exact hclose _ h
    · exact hrun

end ProcessingLoop

namespace TwoTasks

def SanitizedFrom (p : LoopParams) (raw : IngestedRawEvent) (e : SanitizedEvent) : Prop :=
  ∃ eventId, e =
    PrivacyAirGap.sanitizeWithTier p.toLowercase eventId raw.rawEvent raw.sourceTier

def polledBy (moves : List Move) : List IngestedRawEvent := moves.flatMap Move.polled

/-! ### The ends of the channel -/

/-- Which ends of the channel are still held, and by whom. -/
structure Ends (capacity : Nat) (s : DaemonState) : Prop where
  sized : s.rawChannel.capacity = capacity
  bounded : s.rawChannel.queue.length ≤ capacity
  sender : s.rawChannel.senderDropped = true ↔ s.collection = .returned
  receiver : s.rawChannel.receiverDropped = s.processing.summary.isSome
  drained : s.processing.summary.isSome → s.rawChannel.queue = [] ∧ s.collection = .returned
  signalled : s.collection = .returned → s.shutdown = true

section
variable {p : LoopParams} {capacity : Nat} {s s' : DaemonState} {x : Move}
  {out : List HandedWindow}

theorem Ends.start (p : LoopParams) (capacity : Nat) (window : WindowAggregator) (instant : Nat) :
    Ends capacity (start p capacity window instant) := by
  constructor <;> simp [TwoTasks.start, Channel.new, ProcessingLoop.start]

theorem Ends.receiver_held (h : Ends capacity s) (hrun : s.collection ≠ .returned) :
    s.rawChannel.receiverDropped = false := by
  rw [h.receiver]
  cases hsummary : s.processing.summary.isSome with
  | false => rfl
  | true => exact absurd (h.drained hsummary).2 hrun

theorem Ends.takeTurn_open (h : Ends capacity s) (hopen : s.processing.summary = none)
    {rest : List IngestedRawEvent} (hrest : rest.length ≤ s.rawChannel.queue.length) {t : Turn}
    (ht : ProcessingLoop.isClosing t = false) :
    Ends capacity (takeTurn p s { s.rawChannel with queue := rest } t).1 := by
  have hsummary := (ProcessingLoop.turn_summary (p := p) hopen t).trans ht
  have hreceiver : s.rawChannel.receiverDropped = false := by rw [h.receiver, hopen]; rfl
  constructor
  case sized => simpa [takeTurn, hsummary] using h.sized
  case bounded => simpa [takeTurn, hsummary] using hrest.trans h.bounded
  case sender => simpa [takeTurn, hsummary] using h.sender
  case receiver => simpa [takeTurn, hsummary] using hreceiver
  case drained => simp [takeTurn, hsummary]
  case signalled => exact h.signalled

theorem Ends.takeTurn_closed (h : Ends capacity s) (hopen : s.processing.summary = none)
    (hqueue : s.rawChannel.queue = []) (hgone : s.rawChannel.senderDropped = true) {t : Turn}
    (ht : ProcessingLoop.isClosing t = true) : Ends capacity (takeTurn p s s.rawChannel t).1 := by
  have hsummary := (ProcessingLoop.turn_summary (p := p) hopen t).trans ht
  constructor
  case sized => simpa [takeTurn, hsummary, Channel.dropReceiver] using h.sized
  case bounded => simpa [takeTurn, hsummary, Channel.dropReceiver] using h.bounded
  case sender => simpa [takeTurn, hsummary, Channel.dropReceiver] using h.sender
  case receiver => simp [takeTurn, hsummary, Channel.dropReceiver]
  case drained =>
    intro _
    simpa [takeTurn, hsummary, Channel.dropReceiver, hqueue] using h.sender.mp hgone
  case signalled => exact h.signalled

theorem Ends.returnCollection (h : Ends capacity s) (hrun : s.collection ≠ .returned)
    (hshutdown : s.shutdown = true) : Ends capacity (returnCollection s) where
  sized := h.sized
  bounded := h.bounded
  sender := by simp [TwoTasks.returnCollection, Channel.dropSender]
  receiver := h.receiver
  drained hsummary := absurd (h.drained hsummary).2 hrun
  signalled _ := hshutdown

theorem Ends.collect (h : Ends capacity s) (hrun : s.collection ≠ .returned)
    {task : CollectionTask} (htask : task ≠ .returned) {queue : List IngestedRawEvent}
    (hqueue : queue.length ≤ capacity) :
    Ends capacity
      { s with collection := task, rawChannel := { s.rawChannel with queue := queue } } where
  sized := h.sized
  bounded := hqueue
  sender := iff_of_false (fun hgone => hrun (h.sender.mp hgone)) htask
  receiver := h.receiver
  drained hsummary := absurd (h.drained hsummary).2 hrun
  signalled hreturned := absurd hreturned htask

theorem Ends.advance (h : Ends capacity s) (hx : Advances p s x s' out) : Ends capacity s' := by
  cases hx with
  | signal =>
    exact ⟨h.sized, h.bounded, h.sender, h.receiver, h.drained, fun _ => rfl⟩
  | poll events hcollection =>
    exact h.collect (by simp [hcollection]) (by simp) h.bounded
  | send event rest hcollection hroom =>
    refine h.collect (by simp [hcollection]) (by simp) ?_
    rw [List.length_append]
    exact h.sized ▸ hroom
  | sendFails event rest hcollection hgone =>
    have hheld := h.receiver_held (by simp [hcollection])
    exact absurd hgone (by simp [hheld])
  | shutdown hcollection hshutdown =>
    exact h.returnCollection (by simp [hcollection]) hshutdown
  | sleep hcollection hshutdown =>
    exact h.collect (by simp [hcollection]) (by simp) h.bounded
  | wake hcollection => exact h.collect (by simp [hcollection]) (by simp) h.bounded
  | receive reads ingested rest hopen hqueue =>
    exact h.takeTurn_open hopen (by simp [hqueue]) rfl
  | closed reads hopen hqueue hgone => exact h.takeTurn_closed hopen hqueue hgone rfl
  | expire reads hopen => exact h.takeTurn_open hopen (Nat.le_refl _) rfl

/-! ### Nothing is lost between the source and the windows -/

/-- Every polled event has been received, or is in the channel, or is still to be sent. -/
structure Carried (p : LoopParams) (pre : List Move) (out : List HandedWindow)
    (s : DaemonState) : Prop where
  carried : ∃ turns taken, ProcessingLoop.Inv p turns out s.processing ∧
    List.Forall₂ (SanitizedFrom p) taken (ProcessingLoop.received p turns) ∧
    taken ++ s.rawChannel.queue ++ s.collection.unsent = polledBy pre

theorem polledBy_concat (pre : List Move) (x : Move) :
    polledBy (pre ++ [x]) = polledBy pre ++ x.polled := by
  simp [polledBy]

variable {pre : List Move}

theorem Carried.start (p : LoopParams) (capacity : Nat) (windowSecs : UInt64) (nowMs : Int)
    (instant : Nat) : Carried p [] [] (start p capacity (.new windowSecs nowMs) instant) :=
  ⟨[], [], ⟨ProcessingLoop.Accounted.start p windowSecs nowMs instant, fun _ => rfl,
    fun h => by simp at h⟩, .nil, rfl⟩

theorem Carried.collect (h : Carried p pre out s) (hprocessing : s'.processing = s.processing)
    (hevents : s'.rawChannel.queue ++ s'.collection.unsent =
      s.rawChannel.queue ++ s.collection.unsent ++ x.polled) :
    Carried p (pre ++ [x]) (out ++ []) s' := by
  obtain ⟨turns, taken, hinv, hfrom, heq⟩ := h.carried
  refine ⟨turns, taken, ?_, hfrom, ?_⟩
  · rw [hprocessing, List.append_nil]
    exact hinv
  · rw [polledBy_concat, ← heq, List.append_assoc, hevents]
    simp

theorem Carried.takeTurn (h : Carried p pre out s) (hopen : s.processing.summary = none)
    (more : List IngestedRawEvent) {rest : List IngestedRawEvent} {t : Turn} (hx : x.polled = [])
    (hqueue : s.rawChannel.queue = more ++ rest)
    (hmore : List.Forall₂ (SanitizedFrom p) more (ProcessingLoop.sanitizedOf p t)) :
    Carried p (pre ++ [x]) (out ++ (TwoTasks.takeTurn p s { s.rawChannel with queue := rest } t).2)
      (TwoTasks.takeTurn p s { s.rawChannel with queue := rest } t).1 := by
  obtain ⟨turns, taken, hinv, hfrom, heq⟩ := h.carried
  have hrunning : turns.any ProcessingLoop.isClosing = false := by
    cases hany : turns.any ProcessingLoop.isClosing with
    | false => rfl
    | true => rw [(hinv.returned hany).2] at hopen; cases hopen
  have hrest : (TwoTasks.takeTurn p s { s.rawChannel with queue := rest } t).1.rawChannel.queue
      = rest := by
    simp only [TwoTasks.takeTurn]
    split <;> rfl
  have hunsent : (TwoTasks.takeTurn p s { s.rawChannel with queue := rest } t).1.collection.unsent
      = s.collection.unsent := rfl
  refine ⟨turns ++ [t], taken ++ more, hinv.step t, ?_, ?_⟩
  · rw [ProcessingLoop.received_append_open p hrunning t]
    exact List.rel_append hfrom hmore
  · rw [polledBy_concat, hx, List.append_nil, ← heq, hrest, hunsent, hqueue,
      List.append_assoc taken]

theorem Carried.advance (h : Carried p pre out s) {windows : List HandedWindow}
    (hends : Ends capacity s) (hx : Advances p s x s' windows) :
    Carried p (pre ++ [x]) (out ++ windows) s' := by
  cases hx with
  | signal => exact h.collect rfl (by simp [Move.polled])
  | poll events hcollection =>
    exact h.collect rfl (by simp [Move.polled, hcollection, CollectionTask.unsent])
  | send event rest hcollection hroom =>
    exact h.collect rfl (by simp [Move.polled, hcollection, CollectionTask.unsent])
  | sendFails event rest hcollection hgone =>
    have hheld := hends.receiver_held (by simp [hcollection])
    exact absurd hgone (by simp [hheld])
  | shutdown hcollection hshutdown =>
    exact h.collect rfl (by
      simp [Move.polled, hcollection, CollectionTask.unsent, returnCollection,
        Channel.dropSender])
  | sleep hcollection hshutdown =>
    exact h.collect rfl (by simp [Move.polled, hcollection, CollectionTask.unsent])
  | wake hcollection =>
    exact h.collect rfl (by simp [Move.polled, hcollection, CollectionTask.unsent])
  | receive reads ingested rest hopen hqueue =>
    exact h.takeTurn hopen [ingested] rfl hqueue (.cons ⟨reads.eventId, rfl⟩ .nil)
  | closed reads hopen hqueue hgone => exact h.takeTurn hopen [] rfl rfl .nil
  | expire reads hopen => exact h.takeTurn hopen [] rfl rfl .nil

structure Reached (p : LoopParams) (capacity : Nat) (pre : List Move) (out : List HandedWindow)
    (s : DaemonState) : Prop where
  ends : Ends capacity s
  carried : Carried p pre out s

theorem run_reached (p : LoopParams) (capacity : Nat) (windowSecs : UInt64) (nowMs : Int)
    (instant : Nat) {moves : List Move}
    (h : (machine p).Along (Enabled p) (TwoTasks.start p capacity (.new windowSecs nowMs) instant)
      moves) :
    Reached p capacity moves
      ((machine p).run (TwoTasks.start p capacity (.new windowSecs nowMs) instant) moves).2
      ((machine p).run (TwoTasks.start p capacity (.new windowSecs nowMs) instant) moves).1 := by
  refine Machine.run_history (Reached p capacity) ?_
    ⟨.start p capacity _ instant, .start p capacity windowSecs nowMs instant⟩ h
  intro pre out s x hreached henabled
  have hadvances := henabled.advances
  exact ⟨hreached.ends.advance hadvances, hreached.carried.advance hreached.ends hadvances⟩

theorem Reached.complete (h : Reached p capacity pre out s)
    (hreturned : s.processing.summary.isSome) :
    List.Forall₂ (SanitizedFrom p) (polledBy pre) (out.flatMap fun w => w.context.events) ∧
      s.processing.summary = some ⟨UInt32.ofNat out.length, UInt64.ofNat (polledBy pre).length,
        .channelClosed⟩ := by
  obtain ⟨turns, taken, hinv, hfrom, heq⟩ := h.carried.carried
  obtain ⟨hqueue, hcollection⟩ := h.ends.drained hreturned
  have hclosed : turns.any ProcessingLoop.isClosing = true := by
    cases hany : turns.any ProcessingLoop.isClosing with
    | true => rfl
    | false => rw [hinv.running hany] at hreturned; cases hreturned
  obtain ⟨hbuffer, hsummary⟩ := hinv.returned hclosed
  have htaken : taken = polledBy pre := by
    simpa [hqueue, hcollection, CollectionTask.unsent] using heq
  have hevents := hinv.accounted.conserved
  rw [hbuffer, List.append_nil] at hevents
  rw [← htaken, hevents, hfrom.length_eq]
  exact ⟨hfrom, hsummary⟩

/-- In every interleaving of the two tasks, the polled events are, in order: those in the
windows and the open window, those in the channel, and those still to be sent.  The channel
never holds more than its capacity, no send finds the receiver gone, and the collection task
returns after a shutdown only.  When the processing task has returned, its windows hold every
polled event and its summary counts them. -/
theorem run_conserves (p : LoopParams) (capacity : Nat) (windowSecs : UInt64) (nowMs : Int)
    (instant : Nat) (moves : List Move)
    (h : (machine p).Along (Enabled p) (TwoTasks.start p capacity (.new windowSecs nowMs) instant)
      moves) :
    let start := TwoTasks.start p capacity (.new windowSecs nowMs) instant
    let (s, out) := (machine p).run start moves
    (∃ taken, taken ++ s.rawChannel.queue ++ s.collection.unsent = polledBy moves ∧
      List.Forall₂ (SanitizedFrom p) taken
        (out.flatMap (fun w => w.context.events) ++ s.processing.window.buffer)) ∧
    s.rawChannel.queue.length ≤ capacity ∧
    (∀ event ∈ s.collection.unsent, s.rawChannel.send event ≠ .ready none) ∧
    (s.collection = .returned → s.shutdown = true) ∧
    (s.processing.summary.isSome → s.collection = .returned ∧
      List.Forall₂ (SanitizedFrom p) (polledBy moves) (out.flatMap fun w => w.context.events) ∧
      s.processing.summary = some ⟨UInt32.ofNat out.length,
        UInt64.ofNat (polledBy moves).length, .channelClosed⟩) := by
  have hreached := run_reached p capacity windowSecs nowMs instant h
  revert hreached
  dsimp only
  generalize (machine p).run _ moves = result
  obtain ⟨s, out⟩ := result
  intro hreached
  refine ⟨?_, hreached.ends.bounded, ?_, hreached.ends.signalled, ?_⟩
  · obtain ⟨turns, taken, hinv, hfrom, heq⟩ := hreached.carried.carried
    exact ⟨taken, heq, hinv.accounted.conserved ▸ hfrom⟩
  · intro event hevent hsend
    have hrun : s.collection ≠ .returned := by
      intro hreturned
      rw [hreturned] at hevent
      cases hevent
    have hheld := hreached.ends.receiver_held hrun
    rw [Channel.send_eq_none_iff.mp hsend] at hheld
    cases hheld
  · intro hreturned
    exact ⟨(hreached.ends.drained hreturned).2, hreached.complete hreturned⟩

def sampleParams : LoopParams := ⟨id, 10⟩

def sampleStart : DaemonState := TwoTasks.start sampleParams 4096 (.new 10 0) 0

def sampleEvent : IngestedRawEvent := ⟨.screenState ⟨0, .interactive⟩, .daemon⟩

def sampleReads : TurnReads := ⟨"e1", 0, 0, ⟨"w1", .id⟩, 0⟩

/-- An event is sent, and a shutdown is signalled before it is received. -/
def sampleMoves : List Move :=
  [.poll [sampleEvent], .send, .signal, .checkShutdown, .receive sampleReads,
    .receive sampleReads]

theorem run_conserves_sample :
    let (s, out) := (machine sampleParams).run sampleStart sampleMoves
    s.collection = .returned ∧
      List.Forall₂ (SanitizedFrom sampleParams) [sampleEvent]
        (out.flatMap fun w => w.context.events) := by
  have h := run_conserves sampleParams 4096 10 0 0 sampleMoves
    ⟨rfl, rfl, rfl, rfl, rfl, rfl, trivial⟩
  exact ⟨(h.2.2.2.2 rfl).1, (h.2.2.2.2 rfl).2.1⟩

/-! ### A shutdown comes to an end -/

/-- A move of one of the tasks, less the expiry of a window. -/
def isTaskMove : Move → Bool
  | .signal | .expire _ => false
  | _ => true

def isPoll : Move → Bool
  | .poll _ => true
  | _ => false

def stepsLeft : CollectionTask → Nat
  | .sleeping => 3
  | .polling => 2
  | .sending _ => 1
  | .returned => 0

def work (s : DaemonState) : Nat :=
  2 * s.collection.unsent.length + s.rawChannel.queue.length + stepsLeft s.collection +
    (!s.processing.summary.isSome).toNat

def pollsLeft (s : DaemonState) : Nat :=
  match s.collection with
  | .sleeping | .polling => 1
  | _ => 0

theorem work_takeTurn_open (hopen : s.processing.summary = none)
    (c : Channel IngestedRawEvent) {t : Turn} (ht : ProcessingLoop.isClosing t = false) :
    work (takeTurn p s c t).1 + s.rawChannel.queue.length = work s + c.queue.length := by
  have hsummary := (ProcessingLoop.turn_summary (p := p) hopen t).trans ht
  simp only [work, takeTurn, hsummary, hopen, Bool.false_eq_true, if_false, Option.isSome_none]
  omega

theorem work_takeTurn_closed (hopen : s.processing.summary = none) {t : Turn}
    (ht : ProcessingLoop.isClosing t = true) :
    work (takeTurn p s s.rawChannel t).1 + 1 = work s := by
  have hsummary := (ProcessingLoop.turn_summary (p := p) hopen t).trans ht
  simp [work, takeTurn, hsummary, hopen, Channel.dropReceiver]

/-- Every move of a task uses up work, which a poll only brings. -/
theorem Ends.work_advance (h : Ends capacity s) (hshutdown : s.shutdown = true)
    (hx : Advances p s x s' out) :
    work s' + (isTaskMove x).toNat ≤ work s + 2 * x.polled.length := by
  cases hx with
  | signal => exact Nat.le_refl _
  | poll events hcollection =>
    simp [work, hcollection, stepsLeft, CollectionTask.unsent, isTaskMove, Move.polled]
    omega
  | send event rest hcollection hroom =>
    simp [work, hcollection, stepsLeft, CollectionTask.unsent, isTaskMove, Move.polled]
    omega
  | sendFails event rest hcollection hgone =>
    have hheld := h.receiver_held (by simp [hcollection])
    exact absurd hgone (by simp [hheld])
  | shutdown hcollection _ =>
    simp only [work, hcollection, stepsLeft, CollectionTask.unsent, isTaskMove, Move.polled,
      TwoTasks.returnCollection, Channel.dropSender, Bool.toNat_true]
    omega
  | sleep hcollection hnot => exact absurd hshutdown (by simp [hnot])
  | wake hcollection =>
    simp only [work, hcollection, stepsLeft, CollectionTask.unsent, isTaskMove, Move.polled,
      Bool.toNat_true]
    omega
  | receive reads ingested rest hopen hqueue =>
    have hwork := work_takeTurn_open (p := p) hopen { s.rawChannel with queue := rest }
      (t := reads.turn (.raw ingested reads.eventId)) rfl
    rw [hqueue, List.length_cons] at hwork
    simp only [isTaskMove, Bool.toNat_true]
    dsimp only at hwork ⊢
    omega
  | closed reads hopen hqueue hgone =>
    have hwork := work_takeTurn_closed (p := p) hopen (t := reads.turn .rawChannelClosed) rfl
    simp only [isTaskMove, Bool.toNat_true]
    omega
  | expire reads hopen =>
    have hwork := work_takeTurn_open (p := p) hopen s.rawChannel
      (t := reads.turn .windowExpired) rfl
    simp only [isTaskMove, Bool.toNat_false]
    omega

theorem pollsLeft_advance (hshutdown : s.shutdown = true) (hx : Advances p s x s' out) :
    pollsLeft s' + (isPoll x).toNat ≤ pollsLeft s := by
  cases hx with
  | signal => exact Nat.le_refl _
  | poll events hcollection => simp [pollsLeft, hcollection, isPoll]
  | send event rest hcollection hroom => simp [pollsLeft, isPoll]
  | sendFails event rest hcollection hgone => simp [pollsLeft, returnCollection, isPoll]
  | shutdown hcollection _ => simp [pollsLeft, returnCollection, isPoll]
  | sleep hcollection hnot => exact absurd hshutdown (by simp [hnot])
  | wake hcollection => simp [pollsLeft, hcollection, isPoll]
  | receive reads ingested rest hopen hqueue => exact Nat.le_refl _
  | closed reads hopen hqueue hgone => exact Nat.le_refl _
  | expire reads hopen => exact Nat.le_refl _

theorem Advances.shutdown_kept (hx : Advances p s x s' out) (h : s.shutdown = true) :
    s'.shutdown = true := by
  cases hx with
  | signal => rfl
  | _ => exact h

theorem live_of_recv (hopen : s.processing.summary.isSome = false)
    (hready : s.rawChannel.recv ≠ .pending) : ∃ x, isTaskMove x = true ∧ Enabled p s x := by
  refine ⟨.receive ⟨"", 0, 0, ⟨"", .id⟩, 0⟩, rfl, ?_⟩
  simp only [Enabled, TwoTasks.advance, runProcessingLoop, hopen, Bool.false_eq_true, if_false]
  cases hrecv : s.rawChannel.recv with
  | pending => exact absurd hrecv hready
  | ready result => cases result <;> rfl

theorem Ends.live (h : Ends capacity s) (hcapacity : 0 < capacity)
    (hrun : ¬(s.collection = .returned ∧ s.processing.summary.isSome = true)) :
    ∃ x, isTaskMove x = true ∧ Enabled p s x := by
  cases hcollection : s.collection with
  | polling =>
    refine ⟨.poll [], rfl, ?_⟩
    simp only [Enabled, TwoTasks.advance, runCollectionLoop, hcollection]
    rfl
  | sleeping =>
    refine ⟨.wake, rfl, ?_⟩
    simp only [Enabled, TwoTasks.advance, runCollectionLoop, hcollection]
    rfl
  | sending rest =>
    cases rest with
    | nil =>
      refine ⟨.checkShutdown, rfl, ?_⟩
      simp only [Enabled, TwoTasks.advance, runCollectionLoop, hcollection]
      split <;> rfl
    | cons event rest =>
      cases hsend : s.rawChannel.send event with
      | ready result =>
        refine ⟨.send, rfl, ?_⟩
        simp only [Enabled, TwoTasks.advance, runCollectionLoop, hcollection, hsend]
        cases result <;> rfl
      | pending =>
        -- the channel is full, so there is something to receive
        obtain ⟨hheld, hfull⟩ := Channel.send_eq_pending_iff.mp hsend
        refine live_of_recv (h.receiver.symm.trans hheld) fun hpending => ?_
        obtain ⟨hempty, -⟩ := Channel.recv_eq_pending_iff.mp hpending
        rw [hempty, h.sized] at hfull
        exact absurd hfull (Nat.not_le.mpr hcapacity)
  | returned =>
    have hopen : s.processing.summary.isSome = false := by simpa [hcollection] using hrun
    refine live_of_recv hopen fun hpending => ?_
    obtain ⟨-, hsender⟩ := Channel.recv_eq_pending_iff.mp hpending
    rw [h.sender.mpr hcollection] at hsender
    cases hsender

theorem sum_polled (moves : List Move) :
    (moves.map fun x => 2 * x.polled.length).sum = 2 * (polledBy moves).length := by
  induction moves with
  | nil => rfl
  | cons x xs ih =>
    simp only [List.map_cons, List.sum_cons, ih, polledBy, List.flatMap_cons, List.length_append]
    omega

theorem run_signalled {moves : List Move} (h : (machine p).Along (Enabled p) s moves)
    (hsignal : Move.signal ∈ moves) : ((machine p).run s moves).1.shutdown = true := by
  have hstep : ∀ pre (out : List HandedWindow) s x,
      (Move.signal ∈ pre → s.shutdown = true) → Enabled p s x →
      (Move.signal ∈ pre ++ [x] → ((machine p).step s x).1.shutdown = true) := by
    intro pre out s x hpre henabled hmem
    have hadvances := henabled.advances
    rcases List.mem_append.mp hmem with hold | hnew
    · exact hadvances.shutdown_kept (hpre hold)
    · obtain rfl := (List.mem_singleton.mp hnew).symm
      rfl
  exact Machine.run_history (fun pre (_ : List HandedWindow) s => Move.signal ∈ pre →
    s.shutdown = true) hstep (by simp) h hsignal

/-- What the tasks still do once a shutdown was signalled. -/
theorem Ends.wind_down (h : Ends capacity s) (hshutdown : s.shutdown = true) {after : List Move}
    (hafter : (machine p).Along (Enabled p) s after) :
    after.countP isPoll ≤ 1 ∧
      after.countP isTaskMove ≤ work s + 2 * (polledBy after).length := by
  have hkept : ∀ s x, Ends capacity s ∧ s.shutdown = true → Enabled p s x →
      Ends capacity ((machine p).step s x).1 ∧ ((machine p).step s x).1.shutdown = true :=
    fun s x hs henabled => ⟨hs.1.advance henabled.advances, henabled.advances.shutdown_kept hs.2⟩
  have hpolls := Machine.countP_le_work isPoll pollsLeft
    (fun s x hs henabled => ⟨hkept s x hs henabled,
      pollsLeft_advance hs.2 henabled.advances⟩) ⟨h, hshutdown⟩ hafter
  have hwork := Machine.countP_add_work_le isTaskMove work
    (fun x => 2 * x.polled.length) (fun s x hs henabled => ⟨hkept s x hs henabled,
      hs.1.work_advance hs.2 henabled.advances⟩) ⟨h, hshutdown⟩ hafter
  have hone : pollsLeft s ≤ 1 := by
    unfold pollsLeft
    split <;> simp
  rw [sum_polled] at hwork
  exact ⟨by omega, by omega⟩

end

/-- Once a shutdown was signalled, the source is polled at most once more and the tasks make
only so many moves, window expiries apart, whatever the scheduler does; they are never stuck
before both have returned, and by then every polled event is in a window that was handed on. -/
theorem shutdown_completes (p : LoopParams) (capacity : Nat) (hcapacity : 0 < capacity)
    (windowSecs : UInt64) (nowMs : Int) (instant : Nat) (before after : List Move)
    (hsignal : Move.signal ∈ before)
    (h : (machine p).Along (Enabled p) (TwoTasks.start p capacity (.new windowSecs nowMs) instant)
      (before ++ after)) :
    let start := TwoTasks.start p capacity (.new windowSecs nowMs) instant
    let s := ((machine p).run start before).1
    let (s', out) := (machine p).run start (before ++ after)
    after.countP isPoll ≤ 1 ∧
    after.countP isTaskMove ≤
      2 * (s.collection.unsent ++ polledBy after).length + s.rawChannel.queue.length + 4 ∧
    ((∀ x, isTaskMove x = true → ¬Enabled p s' x) →
      s'.collection = .returned ∧
      List.Forall₂ (SanitizedFrom p) (polledBy (before ++ after))
        (out.flatMap fun w => w.context.events) ∧
      s'.processing.summary = some ⟨UInt32.ofNat out.length,
        UInt64.ofNat (polledBy (before ++ after)).length, .channelClosed⟩) := by
  obtain ⟨hbefore, hafter⟩ := Machine.along_append.mp h
  have hreached := run_reached p capacity windowSecs nowMs instant hbefore
  have hfinal := run_reached p capacity windowSecs nowMs instant h
  obtain ⟨hpolls, hmoves⟩ := hreached.ends.wind_down (run_signalled hbefore hsignal) hafter
  refine ⟨hpolls, hmoves.trans ?_, fun hstuck => ?_⟩
  · rw [List.length_append]
    have hsteps : ∀ task, stepsLeft task ≤ 3 := by
      intro task
      cases task <;> simp [stepsLeft]
    have hopen : ∀ b : Bool, b.toNat ≤ 1 := Bool.toNat_le
    have := hsteps ((machine p).run (TwoTasks.start p capacity (.new windowSecs nowMs) instant)
      before).1.collection
    have := hopen (!((machine p).run (TwoTasks.start p capacity (.new windowSecs nowMs) instant)
      before).1.processing.summary.isSome)
    simp only [work]
    omega
  · have hboth := Classical.byContradiction fun hrun => by
      obtain ⟨x, hx, henabled⟩ := hfinal.ends.live (p := p) hcapacity hrun
      exact hstuck x hx henabled
    exact ⟨hboth.1, hfinal.complete hboth.2⟩

theorem stuck_of_returned {p : LoopParams} {s : DaemonState}
    (hcollection : s.collection = .returned) (hprocessing : s.processing.summary.isSome = true)
    (x : Move) (hx : isTaskMove x = true) : ¬Enabled p s x := by
  intro henabled
  obtain ⟨s', out, hadvances⟩ : ∃ s' out, Advances p s x s' out := ⟨_, _, henabled.advances⟩
  cases hadvances with
  | signal | expire => cases hx
  | poll _ h | send _ _ h | sendFails _ _ h | shutdown h | sleep h | wake h =>
    rw [hcollection] at h
    cases h
  | receive _ _ _ hopen | closed _ hopen =>
    rw [hopen] at hprocessing
    cases hprocessing

theorem shutdown_completes_sample :
    (sampleMoves.drop 3).countP isTaskMove ≤
      2 * (polledBy (sampleMoves.drop 3)).length + 1 + 4 ∧
    let (s', _) := (machine sampleParams).run sampleStart sampleMoves
    s'.collection = .returned ∧ s'.processing.summary = some ⟨1, 1, .channelClosed⟩ :=
  have h := shutdown_completes sampleParams 4096 (by decide) 10 0 0 (sampleMoves.take 3)
    (sampleMoves.drop 3) (by simp [sampleMoves]) ⟨rfl, rfl, rfl, rfl, rfl, rfl, trivial⟩
  have hended := h.2.2 (stuck_of_returned rfl rfl)
  ⟨h.2.1, hended.1, hended.2.2⟩

end TwoTasks

end Dipecs.Daemon
