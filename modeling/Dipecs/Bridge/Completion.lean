import Dipecs.Bridge.RemoteCalls

/-! Calls of which nothing is lost: each is carried out once, and its result is reported. -/

namespace Dipecs.Bridge

open Dipecs.Spec Dipecs.Core Dipecs.Library Dipecs.Action Dipecs.Device
open AuthorizedActionSocketServer BridgeExecuteProtocol

def Call.reported (call : Call) (client : Client) : Except AdapterError ActionOutcome :=
  let executed := call.executed client
  if executed.success then
    .ok ⟨call.authorized.action.actionType.debug, call.authorized.action.target,
      executed.summary, UInt64.ofNat call.latencyUs.val.toNat⟩
  else
    .error (.androidBridgeError ("android bridge execution error: " ++
      executed.error.getD "no detail given"))

def Wire.executedBytes (w : Wire) (call : Call) (client : Client) : List UInt8 :=
  w.responseBytes (statusOf (call.executed client)).name (some (call.executed client).summary)
    (errorOf (call.executed client)) call.latencyUs

/-- The request gets through whole and in time, and so does the response. -/
structure GetsThrough (w : Wire) (call : Call) (client : Client) (request : BridgeExecuteRequest) :
    Prop where
  arrival : call.arrival = some client
  made : w.request call = .ok request
  readsRequest : w.ReadsRequest request
  chunks : ∃ (chunks : List KString) (ending : List SocketRead),
    client.reads = chunks.map .chars ++ ending ∧ chunks.flatten = w.requestUnits request
  size : (w.requestUnits request).length ≤ maxPayloadChars
  issued : 0 < request.issuedAtMs.val ∧ request.issuedAtMs.val ≤ 2 ^ 63 - 1 - 120000
  inWindow : InWindow request.issuedAtMs request.expiresAtMs client.verifiedAt
  requested : call.requested = .ok ()
  readsResponse : w.ReadsResponse call.latencyUs (statusOf (call.executed client)).name
    (some (call.executed client).summary) (errorOf (call.executed client))
  oneValue : ∀ p, p <+: w.executedBytes call client → w.serde.isValue p = true →
    p = w.executedBytes call client
  nonempty : w.executedBytes call client ≠ []
  fits : (w.executedBytes call client).length ≤ AndroidAdapter.maxResponseBytes
  reads : ∃ chunks, AndroidAdapter.Splits (w.executedBytes call client) chunks ∧
    call.reads = chunks.map .data

/-! ### One call -/

section through
variable {w : Wire} {call : Call} {client : Client} {request : BridgeExecuteRequest}
  {s : AuthLimiter} {authKey : String}

theorem GetsThrough.readPayload (h : GetsThrough w call client request) :
    readPayload w.rt [] client.reads = .text (w.requestUnits request) := by
  obtain ⟨chunks, ending, hpieces, hflatten⟩ := h.chunks
  have hpayload : IsPayload w.rt (w.requestUnits request) := by
    rw [IsPayload, h.readsRequest.trimmed, h.readsRequest.parse]
    refine ⟨fun hnil => ?_, rfl⟩
    have hblank := h.readsRequest.notBlank
    rw [hnil] at hblank
    cases hblank
  have hwhole : Whole w.rt (w.requestUnits request) := fun part hpart hp => by
    rw [h.readsRequest.whole part hpart hp]
  rw [hpieces, readPayload_segments [] chunks ending (by simpa [hflatten] using h.size)
    (by simpa [hflatten] using hwhole) fun hempty => hempty.1 rfl, List.nil_append, hflatten,
    if_pos hpayload, h.readsRequest.trimmed]

theorem GetsThrough.accepted (h : GetsThrough w call client request) (htags : TagModel w.rt)
    (hunder : Understands w.rt w.host w.wide) (hkey : w.host.authKey = some authKey)
    (hshown : isNotBlank (kstr authKey) = true) :
    verifyExecuteEnvelope w.rt client.verifiedAt (received w.wide request.toJson) (kstr authKey) =
      some (.accepted (ofFields w.wide call.authorized.fields)) := by
  obtain ⟨authKey', text, issuedAtMs, hkey', htext, hrequest⟩ := request_eq_ok h.made
  obtain rfl : authKey = authKey' := Option.some.inj (hkey.symm.trans hkey')
  have hissued := h.issued
  have hwindow := h.inWindow
  rw [hrequest] at hissued hwindow ⊢
  exact (received_accepted htags hunder htext hshown).mpr
    ((fresh_throughout_iff issuedAtMs).mpr (.inl hissued) _ hwindow)

theorem GetsThrough.handleClient (h : GetsThrough w call client request) (htags : TagModel w.rt)
    (hunder : Understands w.rt w.host w.wide) (hkey : w.host.authKey = some authKey)
    (htoken : w.authToken = kstr authKey) (hshown : isNotBlank (kstr authKey) = true)
    (hlimited : isRateLimited s client.checkedAt = false) :
    w.serve s call = (AuthLimiter.new, .verified (some true) ::
      executeAccepted w.rt client (ofFields w.wide call.authorized.fields)) := by
  simp only [Wire.serve, h.arrival, AuthorizedActionSocketServer.handleClient, h.readPayload,
    h.readsRequest.trimmed, handlePayload, h.readsRequest.notBlank, h.readsRequest.parse,
    isExecuteEnvelope_received h.made, handleExecuteEnvelope, hlimited, htoken,
    h.accepted htags hunder hkey hshown]
  rfl

theorem GetsThrough.exchanged (h : GetsThrough w call client request) :
    w.exchanged call = .ok ⟨statusOf (call.executed client),
      some (call.executed client).summary, some (UInt64.ofNat call.latencyUs.val.toNat),
      errorOf (call.executed client)⟩ := by
  obtain ⟨chunks, hsplits, hreads⟩ := h.reads
  have hwhole : AndroidAdapter.ReadsWhole w.serde (w.executedBytes call client) :=
    fun p hp _ _ hvalue => by rw [h.oneValue p hp hvalue]; exact ⟨h.fits, rfl⟩
  have hresponse := h.readsResponse.parse _
    (fromJson_responseJson _ _ _ h.readsResponse.latency)
  have hexchange := AndroidAdapter.exchange_whole hwhole hsplits w.peer call.requested
  rw [AndroidAdapter.streamOf, ← hreads] at hexchange
  rw [Wire.exchanged, hexchange, h.requested, AndroidAdapter.wholeResponse, if_neg h.nonempty,
    if_neg (not_lt.mpr h.fits), AndroidAdapter.parseResponse, Wire.executedBytes, hresponse]

theorem GetsThrough.forward (h : GetsThrough w call client request) :
    w.forward call = call.reported client := by
  have hmade : AndroidAdapter.request (AndroidAdapter.overStream (w.hostOf call) w.serde
      ⟨w.peer, call.requested, call.reads⟩) call.authorized = .ok request := h.made
  have hbound := (congrArg (fun made => made.bind (AndroidAdapter.overStream (w.hostOf call)
    w.serde ⟨w.peer, call.requested, call.reads⟩).exchange) hmade).trans h.exchanged
  rw [Wire.forward, AndroidAdapter.forward, hbound, Call.reported]
  simp only [AndroidAdapter.ofResponse, statusOf, errorOf]
  cases (call.executed client).success with
  | true => rfl
  | false => rfl

structure CarriedOut (w : Wire) (call : Call) (e : Exchange) : Prop where
  same : e.call = call
  once : dispatchedOf e.notes = [call.deed]
  result : ∃ client, call.arrival = some client ∧ e.result = call.reported client

theorem GetsThrough.carriedOut (h : GetsThrough w call client request) {s' : AuthLimiter}
    (hserve : w.serve s call = (s', .verified (some true) ::
      executeAccepted w.rt client (ofFields w.wide call.authorized.fields))) :
    CarriedOut w call ⟨call, w.forward call, (w.serve s call).2⟩ := by
  refine ⟨rfl, ?_, client, h.arrival, h.forward⟩
  rw [hserve]
  exact dispatchedOf_executeAccepted w.rt w.wide call client

end through

end Dipecs.Bridge
