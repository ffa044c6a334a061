import Dipecs.Device.SocketClients
import Dipecs.Library.Backoff

/-! The back-off of the action socket.  The limiter remembers what the back-off policy asks
for until its counter or its deadline wraps. -/

namespace Dipecs.Device.AuthorizedActionSocketServer

open Dipecs.Library JSONObject BridgeExecuteProtocol

def policy : Backoff.Policy := ⟨5, authBackoffMs⟩

/-- What a note means to the policy: failures are recorded, verifications succeed. -/
def Note.event : Note → Option Backoff.Event
  | .authFailed atMs => some (.failure atMs.val)
  | .verified (some true) => some .success
  | _ => none

def Note.isAttempt : Note → Bool
  | .verified _ | .dispatched _ _ => true
  | _ => false

def Service.events (service : Service) : List Backoff.Event := service.notes.filterMap Note.event

def history (services : List Service) : Backoff.Record :=
  Backoff.recordOf (services.flatMap Service.events)

structure Tracks (s : AuthLimiter) (r : Backoff.Record) : Prop where
  count : s.failedAuthCount.toInt = r.failures
  deadline : s.rejectUntilMs.val = policy.deadline r

/-- The back-off after a list of services. -/
structure BacksOff (s : AuthLimiter) (services : List Service) : Prop where
  tracks : Tracks s (history services)
  shut : EachAfter (fun before service =>
    policy.Shut (history before) service.client.checkedAt.val →
      service.notes.any Note.isAttempt = false) services

/-! ### Which clients fail and which succeed -/

def isRejectedEnvelope : Option Verification → Bool
  | some (.rejected _) => true
  | _ => false

def isRejectedPayload : Option AuthVerdict → Bool
  | some .authTokenMissingOrInvalid | some .actionWindowMissingOrExpired
  | some .actionSignatureInvalid => true
  | _ => false

def isRefusedJson (rt : Runtime) (authToken : KString) (client : Client) (json : JSONObject) :
    Bool :=
  if isExecuteEnvelope rt json then
    isRejectedEnvelope (verifyExecuteEnvelope rt client.verifiedAt json authToken)
  else isRejectedPayload (validatePayload rt client.verifiedAt json authToken)

def isRefused (rt : Runtime) (authToken : KString) (s : AuthLimiter) (client : Client) : Bool :=
  match readPayload rt [] client.reads with
  | .text payload =>
    !isNotBlank (trimUnits payload) ||
      match rt.json.parse (trimUnits payload) with
      | none => true
      | some json =>
        !isRateLimited s client.checkedAt && isRefusedJson rt authToken client json
  | _ => true

/-- Another failure fits the counter and the deadline. -/
def Fits (rt : Runtime) (authToken : KString) (s : AuthLimiter) (client : Client) : Prop :=
  isRefused rt authToken s client = true →
    s.failedAuthCount.toInt < 2 ^ 31 - 1 ∧
      (4 ≤ s.failedAuthCount.toInt → client.failedAt.val + authBackoffMs < 2 ^ 63)

instance (rt : Runtime) (authToken : KString) (s : AuthLimiter) (client : Client) :
    Decidable (Fits rt authToken s client) :=
  inferInstanceAs (Decidable (_ → _ ∧ (_ → _)))

/-! ### Serving one client -/

section
variable {rt : Runtime} {authToken : KString} {s : AuthLimiter} {client : Client}

inductive Outcome (s : AuthLimiter) (client : Client) : Bool → Served → Prop
  | failed {notes : List Note} (h : notes.filterMap Note.event = [.failure client.failedAt.val]) :
    Outcome s client true (recordAuthFailure s client.failedAt, notes)
  | accepted {notes : List Note} (h : notes.filterMap Note.event = [.success]) :
    Outcome s client false (AuthLimiter.new, notes)
  | ignored {notes : List Note} (h : notes.filterMap Note.event = []) :
    Outcome s client false (s, notes)

theorem filterMap_event_effects (effects : List Effect) :
    (effects.map Note.effect).filterMap Note.event = [] := by
  rw [List.filterMap_map, List.filterMap_eq_nil_iff]
  intro e _
  rfl

theorem dispatch_events (actionType : KString) (target : Option KString) :
    (dispatch client actionType target).2.filterMap Note.event = [] :=
  filterMap_event_effects _

theorem executeAccepted_events (authorizedAction : JSONObject) :
    (executeAccepted rt client authorizedAction).filterMap Note.event = [] := by
  simp only [executeAccepted]
  split <;> rw [List.filterMap_append, dispatch_events] <;> rfl

theorem dispatchAuthorizedActionJson_events (payload : JSONObject) :
    (dispatchAuthorizedActionJson rt client payload).2.filterMap Note.event = [] := by
  rw [dispatchAuthorizedActionJson]
  split
  · rfl
  · exact dispatch_events _ _

theorem handleExecuteEnvelope_outcome (json : JSONObject) :
    Outcome s client
      (!isRateLimited s client.checkedAt &&
        isRejectedEnvelope (verifyExecuteEnvelope rt client.verifiedAt json authToken))
      (handleExecuteEnvelope rt authToken s client json) := by
  rw [handleExecuteEnvelope]
  cases isRateLimited s client.checkedAt with
  | true => exact .ignored rfl
  | false =>
    match verifyExecuteEnvelope rt client.verifiedAt json authToken with
    | none => exact .ignored rfl
    | some (.accepted authorizedAction) =>
      exact .accepted (congrArg (_ :: ·) (executeAccepted_events authorizedAction))
    | some (.rejected reason) => exact .failed rfl

theorem handleAuthorizedAction_outcome (json : JSONObject) :
    Outcome s client
      (!isRateLimited s client.checkedAt &&
        isRejectedPayload (validatePayload rt client.verifiedAt json authToken))
      (handleAuthorizedAction rt authToken s client json) := by
  rw [handleAuthorizedAction]
  cases isRateLimited s client.checkedAt with
  | true => exact .ignored rfl
  | false =>
    match validatePayload rt client.verifiedAt json authToken with
    | none => exact .ignored rfl
    | some .authTokenMissingOrInvalid => exact .failed rfl
    | some .ping => exact .accepted rfl
    | some .actionWindowMissingOrExpired => exact .failed rfl
    | some .actionSignatureInvalid => exact .failed rfl
    | some .actionAuthorized =>
      generalize hd : dispatchAuthorizedActionJson rt client json = d
      have hnotes : d.2.filterMap Note.event = [] := hd ▸ dispatchAuthorizedActionJson_events json
      refine .accepted ?_
      rw [List.cons_append, List.filterMap_cons, List.filterMap_append, hnotes]
      cases d.1 <;> rfl

theorem handleClient_outcome :
    Outcome s client (isRefused rt authToken s client) (handleClient rt authToken s client) := by
  rw [isRefused, handleClient]
  cases readPayload rt [] client.reads with
  | payloadTooLarge => exact .failed rfl
  | timeout => exact .failed rfl
  | failed => exact .failed rfl
  | text payload =>
    simp only [handlePayload]
    cases isNotBlank (trimUnits payload) with
    | false => exact .failed rfl
    | true =>
      cases rt.json.parse (trimUnits payload) with
      | none => exact .failed rfl
      | some json =>
        simp only [isRefusedJson]
        cases isExecuteEnvelope rt json with
        | true => exact handleExecuteEnvelope_outcome json
        | false => exact handleAuthorizedAction_outcome json

theorem handleClient_limited (h : isRateLimited s client.checkedAt = true) :
    (handleClient rt authToken s client).2.any Note.isAttempt = false := by
  rw [handleClient]
  cases readPayload rt [] client.reads with
  | payloadTooLarge => rfl
  | timeout => rfl
  | failed => rfl
  | text payload =>
    simp only [handlePayload]
    cases isNotBlank (trimUnits payload) with
    | false => rfl
    | true =>
      cases rt.json.parse (trimUnits payload) with
      | none => rfl
      | some json =>
        simp only [handleExecuteEnvelope, handleAuthorizedAction, h, Bool.not_true,
          Bool.false_eq_true, if_false, if_true]
        cases isExecuteEnvelope rt json <;> rfl

end

/-! ### The limiter and the history -/

section
variable {s : AuthLimiter} {r : Backoff.Record}

theorem tracks_new : Tracks AuthLimiter.new ⟨0, 0⟩ := ⟨rfl, rfl⟩

theorem tracks_success : Tracks AuthLimiter.new (r.observe .success) :=
  ⟨rfl, (Backoff.Policy.deadline_success (by decide) r).symm⟩

theorem toInt_succ {n : Int32} (h : n.toInt < 2 ^ 31 - 1) : (n + 1).toInt = n.toInt + 1 := by
  have hle := n.minValue_le_toInt
  rw [Int32.toInt_add]
  exact Int.bmod_eq_of_le (by simp at hle ⊢; omega) (by simp; omega)

theorem recordAuthFailure_rejectUntilMs {now : I64} (h : s.failedAuthCount.toInt < 2 ^ 31 - 1) :
    (recordAuthFailure s now).rejectUntilMs =
      if 4 ≤ s.failedAuthCount.toInt then I64.wrap (now.val + authBackoffMs)
      else s.rejectUntilMs := by
  have hfive : maxAuthFailuresBeforeBackoff ≤ s.failedAuthCount + 1 ↔
      4 ≤ s.failedAuthCount.toInt := by
    rw [Int32.le_iff_toInt_le, toInt_succ h]
    change 5 ≤ _ ↔ _
    omega
  simp only [recordAuthFailure, hfive]

theorem tracks_failure {now : I64} (h : Tracks s r) (hcount : s.failedAuthCount.toInt < 2 ^ 31 - 1)
    (hclock : 4 ≤ s.failedAuthCount.toInt → now.val + authBackoffMs < 2 ^ 63) :
    Tracks (recordAuthFailure s now) (r.observe (.failure now.val)) where
  count := by
    change (s.failedAuthCount + 1).toInt = ((r.failures + 1 : Nat) : Int)
    rw [toInt_succ hcount, h.count]
    rfl
  deadline := by
    rw [recordAuthFailure_rejectUntilMs hcount, Backoff.Policy.deadline_failure, h.count]
    by_cases hfour : 4 ≤ r.failures
    · have hnow := now.2
      have hfits := hclock (h.count ▸ Int.ofNat_le.mpr hfour)
      rw [if_pos (by omega), if_pos (show policy.threshold ≤ _ from Nat.succ_le_succ hfour)]
      exact i64_of_range (by simp only [authBackoffMs] at *; omega) hfits
    · rw [if_neg (by omega), if_neg (by simp only [policy]; omega), h.deadline]
      exact Backoff.Policy.deadline_of_lt (by simp only [policy]; omega)

theorem isRateLimited_of_shut {now : I64} (h : Tracks s r) (hshut : policy.Shut r now.val) :
    isRateLimited s now = true := by
  rw [isRateLimited, h.deadline]
  exact decide_eq_true hshut.lt_deadline

end

/-! ### Runs -/

section
variable {rt : Runtime} {authToken : KString}

theorem history_concat (services : List Service) (service : Service) :
    history (services ++ [service]) =
      service.events.foldl Backoff.Record.observe (history services) := by
  rw [history, List.flatMap_append, Backoff.recordOf_append, history, List.flatMap_singleton]

theorem backsOff_new : BacksOff AuthLimiter.new [] := ⟨tracks_new, EachAfter.nil _⟩

theorem tracks_step {s : AuthLimiter} {services : List Service} {client : Client}
    (h : Tracks s (history services)) (hfits : Fits rt authToken s client) :
    Tracks (handleClient rt authToken s client).1
      (history (services ++ [⟨client, (handleClient rt authToken s client).2⟩])) := by
  rw [history_concat, Service.events]
  have hout : Outcome s client (isRefused rt authToken s client)
      (handleClient rt authToken s client) := handleClient_outcome
  rw [Fits] at hfits
  revert hfits
  generalize isRefused rt authToken s client = refused at hout
  generalize handleClient rt authToken s client = served at hout
  intro hfits
  cases hout with
  | failed hevents =>
    rw [hevents]
    exact tracks_failure h (hfits rfl).1 (hfits rfl).2
  | accepted hevents =>
    rw [hevents]
    exact tracks_success
  | ignored hevents =>
    rw [hevents]
    exact h

theorem backsOff_step {s : AuthLimiter} {services : List Service} {client : Client}
    (h : BacksOff s services) (hfits : Fits rt authToken s client) :
    BacksOff (handleClient rt authToken s client).1
      (services ++ [⟨client, (handleClient rt authToken s client).2⟩]) where
  tracks := tracks_step h.tracks hfits
  shut := h.shut.concat fun hshut => handleClient_limited (isRateLimited_of_shut h.tracks hshut)

/-- While its counter and its deadline fit, the limiter backs off as the policy says,
whatever the clients send. -/
theorem server_backsOff (clients : List Client)
    (h : (server rt authToken).Along (Fits rt authToken) AuthLimiter.new clients) (k : Nat) :
    BacksOff ((server rt authToken).run AuthLimiter.new (clients.take k)).1
      ((server rt authToken).run AuthLimiter.new (clients.take k)).2 :=
  Machine.run_history (fun _ services s => BacksOff s services)
    (fun _ _ _ _ hs hfits => backsOff_step hs hfits) backsOff_new
    ((server rt authToken).along_take h k)

end

/-! ### The counter wraps

Empty payloads are counted without asking the limiter, so nothing stops a client from
sending them until the counter is negative and the back-off is no longer armed. -/

/-- The clock does not go back, within a client or from one to the next. -/
def Chronological (clients : List Client) : Prop :=
  (∀ client ∈ clients, client.checkedAt.val ≤ client.verifiedAt.val ∧
    client.verifiedAt.val ≤ client.failedAt.val) ∧
  clients.Pairwise fun client later => client.failedAt.val ≤ later.checkedAt.val

def idlePhone : Platform where
  packageName := "com.dipecs.collector"
  latencyUs := 0
  launch _ := .noLauncher
  startOwnActivity := .ok ()
  installed := .ok []
  deleteCacheFiles _ := true
  pmClear _ := .timedOut
  dropCaches := .ok ()
  prefetchFiles := 0
  cacheDirChildren := 0
  volatileBytes := 0
  volatileChunks := 0
  oomAdjustable := false
  cgroupPinnable := false
  schedules := none

def clientAt (now : I64) (reads : List SocketRead) : Client := ⟨reads, now, now, now, idlePhone⟩

def emptyClient (now : I64) : Client := clientAt now [.endOfStream]

def emptyService (now : I64) : Service :=
  ⟨emptyClient now, [.authFailed now, .bridgeResponse "rejected" none (some "empty payload"),
    recorded "authorized_action_socket_empty"]⟩

section
variable (rt : Runtime) (authToken : KString)

theorem run_emptyClients (now : I64) (n : Nat) (s : AuthLimiter) (clients : List Client) :
    (server rt authToken).run s (List.replicate n (emptyClient now) ++ clients) =
      (((server rt authToken).run ((recordAuthFailure · now)^[n] s) clients).1,
        List.replicate n (emptyService now) ++
          ((server rt authToken).run ((recordAuthFailure · now)^[n] s) clients).2) := by
  induction n generalizing s with
  | zero => rfl
  | succ n ih =>
    rw [List.replicate_succ, List.cons_append, Machine.run_cons]
    change (((server rt authToken).run (recordAuthFailure s now) _).1,
      emptyService now :: ((server rt authToken).run (recordAuthFailure s now) _).2) = _
    rw [ih]
    rfl

theorem tracks_emptyClients {now : I64} (hnow : now.val + authBackoffMs < 2 ^ 63) {n : Nat}
    (hn : n + 1 < 2 ^ 31) :
    Tracks ((recordAuthFailure · now)^[n + 1] AuthLimiter.new) ⟨n + 1, now.val⟩ := by
  induction n with
  | zero => exact tracks_failure tracks_new (by decide) fun _ => hnow
  | succ n ih =>
    have hbefore := ih (by omega)
    rw [Function.iterate_succ_apply']
    refine tracks_failure hbefore ?_ fun _ => hnow
    rw [hbefore.count]
    change ((n + 1 : Nat) : Int) < 2 ^ 31 - 1
    omega

theorem recordAuthFailure_wraps {s : AuthLimiter} (h : s.failedAuthCount = Int32.maxValue)
    (now : I64) : recordAuthFailure s now = ⟨Int32.minValue, s.rejectUntilMs⟩ := by
  have hwraps : Int32.maxValue + 1 = Int32.minValue := by decide
  have hneg : ¬maxAuthFailuresBeforeBackoff ≤ Int32.minValue := by decide
  simp only [recordAuthFailure, h, hwraps, hneg, if_false]

theorem run_wrapped {n : Nat} (hn : n + 2 = 2 ^ 31) {now : I64}
    (hnow : now.val + authBackoffMs < 2 ^ 63) (later : I64) (clients : List Client) :
    ∃ rejectUntilMs : I64, rejectUntilMs.val = now.val + authBackoffMs ∧
      (server rt authToken).run AuthLimiter.new
          (List.replicate (n + 1) (emptyClient now) ++ emptyClient later :: clients) =
        (((server rt authToken).run ⟨Int32.minValue, rejectUntilMs⟩ clients).1,
          List.replicate (n + 1) (emptyService now) ++ emptyService later ::
            ((server rt authToken).run ⟨Int32.minValue, rejectUntilMs⟩ clients).2) := by
  have htracks := tracks_emptyClients hnow (n := n) (by omega)
  refine ⟨((recordAuthFailure · now)^[n + 1] AuthLimiter.new).rejectUntilMs, ?_, ?_⟩
  · rw [htracks.deadline]
    exact if_pos (show 5 ≤ n + 1 by omega)
  · have hmax : ((recordAuthFailure · now)^[n + 1] AuthLimiter.new).failedAuthCount =
        Int32.maxValue := by
      rw [← Int32.toInt_inj, htracks.count, Int32.toInt_maxValue]
      change ((n + 1 : Nat) : Int) = 2 ^ 31 - 1
      omega
    rw [run_emptyClients, Machine.run_cons]
    change (((server rt authToken).run (recordAuthFailure _ later) clients).1,
      List.replicate (n + 1) (emptyService now) ++ emptyService later ::
        ((server rt authToken).run (recordAuthFailure _ later) clients).2) = _
    rw [recordAuthFailure_wraps hmax]

theorem history_emptyClients (now later : I64) (n : Nat) :
    history (List.replicate (n + 1) (emptyService now) ++ [emptyService later]) =
      ⟨n + 2, later.val⟩ := by
  have hflat : (List.replicate (n + 1) (emptyService now)).flatMap Service.events =
      List.replicate (n + 1) (.failure now.val) := by
    rw [List.flatMap_replicate]
    exact List.flatten_replicate_singleton
  rw [history_concat, history, hflat, Backoff.recordOf_replicate_failure]
  rfl

end

def emptyRuntime : Runtime where
  json :=
    { parse := fun s => if s = kstr "\x7b\x7d" then some [] else none
      render := fun _ => []
      parseDouble := fun _ => none
      doubleToLong := fun _ => zero }
  lowercase := id
  hmacSha256 _ message := message

def jsonClient (now : I64) : Client := clientAt now [.chars (kstr "\x7b\x7d"), .endOfStream]

def wrappingClients : List Client :=
  List.replicate (2 ^ 31 - 1) (emptyClient ⟨1000000, by decide⟩) ++
    [emptyClient ⟨2000000, by decide⟩, jsonClient ⟨2000001, by decide⟩]

theorem wrappingClients_chronological : Chronological wrappingClients := by
  constructor
  · intro client h
    rw [wrappingClients, List.mem_append, List.mem_replicate] at h
    rcases h with ⟨-, rfl⟩ | h
    · exact ⟨Int.le_refl _, Int.le_refl _⟩
    · revert client
      decide
  · rw [wrappingClients, List.pairwise_append, List.pairwise_replicate]
    refine ⟨.inr (Int.le_refl _), by decide, ?_⟩
    intro client h later hlater
    rw [List.eq_of_mem_replicate h]
    revert later
    decide

/-- One millisecond after the last of 2^31 failures a request is verified. -/
theorem wrapped_server_verifies :
    Chronological wrappingClients ∧
      ¬BacksOff ((server emptyRuntime []).run AuthLimiter.new wrappingClients).1
        ((server emptyRuntime []).run AuthLimiter.new wrappingClients).2 := by
  refine ⟨wrappingClients_chronological, fun h => ?_⟩
  have hnow : (⟨1000000, by decide⟩ : I64).val + authBackoffMs < 2 ^ 63 := by decide
  obtain ⟨rejectUntilMs, hreject, hrun⟩ := run_wrapped emptyRuntime [] (n := 2 ^ 31 - 2)
    (by decide) hnow ⟨2000000, by decide⟩ [jsonClient ⟨2000001, by decide⟩]
  obtain rfl : rejectUntilMs = ⟨1030000, by decide⟩ := Subtype.ext hreject
  rw [wrappingClients, show 2 ^ 31 - 1 = 2 ^ 31 - 2 + 1 from rfl, hrun] at h
  have hquiet := h.shut (List.replicate (2 ^ 31 - 2 + 1) (emptyService ⟨1000000, by decide⟩) ++
    [emptyService ⟨2000000, by decide⟩])
    ⟨jsonClient ⟨2000001, by decide⟩, [.verified (some false), .authFailed ⟨2000001, by decide⟩,
      recorded "authorized_action_socket_rejected"]⟩ [] ?_ ?_
  · exact absurd hquiet (by decide)
  · rw [List.append_assoc]
    have hserved : handleClient emptyRuntime [] ⟨Int32.minValue, ⟨1030000, by decide⟩⟩
        (jsonClient ⟨2000001, by decide⟩) = (⟨Int32.minValue + 1, ⟨1030000, by decide⟩⟩,
          [.verified (some false), .authFailed ⟨2000001, by decide⟩,
            recorded "authorized_action_socket_rejected"]) := by
      decide
    simp only [Machine.run_cons, Machine.run_nil, server, hserved]
    rfl
  · rw [history_emptyClients]
    exact ⟨by decide, by decide⟩

/-- Five empty payloads, a request that is shut out, one after the deadline. -/
def backedOffClients : List Client :=
  List.replicate 5 (emptyClient (.wrap 1000)) ++
    [jsonClient ⟨2000, by decide⟩, jsonClient ⟨31000, by decide⟩]

theorem server_backsOff_sample :
    BacksOff ((server emptyRuntime []).run AuthLimiter.new (backedOffClients.take 7)).1
      ((server emptyRuntime []).run AuthLimiter.new (backedOffClients.take 7)).2 :=
  server_backsOff backedOffClients (by decide) 7

end Dipecs.Device.AuthorizedActionSocketServer
