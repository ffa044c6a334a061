import Dipecs.Action.BridgeReading
import Dipecs.Bridge.ExecuteResponse
import Dipecs.Device.EnvelopeBinding
import Dipecs.Device.PayloadSegments
import Dipecs.Device.ServerAuthenticity
import Dipecs.Library.Checks

/-! Calls from the adapter to the device over connections that may end anywhere: what the
adapter reports of an action, and what became of it. -/

namespace Dipecs.Bridge

open Dipecs.Spec Dipecs.Core Dipecs.Library Dipecs.Action Dipecs.Device
open AuthorizedActionSocketServer BridgeExecuteProtocol

/-! ### The two ends -/

/-- The adapter and the server, and the texts that they write. -/
structure Wire where
  rt : Runtime
  wide : UInt64 → UInt64
  authToken : KString
  host : AndroidAdapter.Host
  serde : ResponseSerde
  peer : String
  requestText : Json → String
  responseText : Json → String

/-- One call: the action, and what the clocks, the connection and the device say to it. -/
structure Call where
  authorized : AuthorizedAction
  issuedAtMs : Except String I64
  requested : Except String Unit
  arrival : Option Client
  latencyUs : I64
  reads : List ReadResult

structure Exchange where
  call : Call
  result : Except AdapterError ActionOutcome
  notes : List Note

namespace Wire
variable (w : Wire)

def hostOf (call : Call) : AndroidAdapter.Host := { w.host with issuedAtMs := call.issuedAtMs }

def request (call : Call) : Except String BridgeExecuteRequest :=
  AndroidAdapter.request (w.hostOf call) call.authorized

def exchanged (call : Call) : Except String BridgeExecuteResponse :=
  (AndroidAdapter.sendRequest w.serde ⟨w.peer, call.requested, call.reads⟩).bind
    (AndroidAdapter.parseResponse w.serde)

def forward (call : Call) : Except AdapterError ActionOutcome :=
  AndroidAdapter.forward (AndroidAdapter.overStream (w.hostOf call) w.serde
    ⟨w.peer, call.requested, call.reads⟩) call.authorized

def requestUnits (request : BridgeExecuteRequest) : KString :=
  kstr (w.requestText request.toJson)

def responseBytes (status : String) (summary error : Option String) (latencyUs : I64) :
    List UInt8 :=
  Utf8.encode (w.responseText (responseJson status summary error (some latencyUs))).toList

def transmitted (latencyUs : I64) : Note → List UInt8
  | .bridgeResponse status summary error => w.responseBytes status summary error latencyUs
  | .pong => Utf8.encode "\x7b\"status\":\"ok\",\"message\":\"pong\"\x7d".toList
  | _ => []

def sent (latencyUs : I64) (notes : List Note) : List UInt8 :=
  notes.flatMap (w.transmitted latencyUs)

def serve (s : AuthLimiter) (call : Call) : Served :=
  match call.arrival with
  | none => (s, [])
  | some client => handleClient w.rt w.authToken s client

def bridge : Machine AuthLimiter Call Exchange where
  step s call := ((w.serve s call).1, [⟨call, w.forward call, (w.serve s call).2⟩])

/-! ### The connection -/

/-- The device can read the request, and no part of it for another. -/
structure ReadsRequest (request : BridgeExecuteRequest) : Prop where
  parse : w.rt.json.parse (w.requestUnits request) = some (received w.wide request.toJson)
  trimmed : trimUnits (w.requestUnits request) = w.requestUnits request
  notBlank : isNotBlank (w.requestUnits request) = true
  whole : ∀ part, part <+: w.requestUnits request → IsPayload w.rt part →
    part = w.requestUnits request

/-- The adapter can read the response, and no part of it for a response. -/
structure ReadsResponse (latencyUs : I64) (status : String) (summary error : Option String) :
    Prop where
  latency : 0 ≤ latencyUs.val
  parse : ∀ response, BridgeExecuteResponse.fromJson
      (responseJson status summary error (some latencyUs)) = some response →
    w.serde.response (w.responseBytes status summary error latencyUs) = .ok response
  part : ∀ p, p <+: w.responseBytes status summary error latencyUs →
    p ≠ w.responseBytes status summary error latencyUs →
    ∀ response, w.serde.response p ≠ .ok response

end Wire

/-! ### What the server does about a call -/

def dispatchedOf (notes : List Note) : List (KString × Option KString) :=
  notes.filterMap fun
    | .dispatched actionType target => some (actionType, target)
    | _ => none

def Call.deed (call : Call) : KString × Option KString :=
  (kstr call.authorized.action.actionType.debug, call.authorized.action.target.map kstr)

def Call.executed (call : Call) (client : Client) : ActionResult :=
  (ActionExecutorBridge.dispatch client.platform call.authorized.action.actionType.debug
    call.authorized.action.target).result

def statusOf (result : ActionResult) : BridgeStatus := if result.success then .ok else .error

def errorOf (result : ActionResult) : Option String := if result.success then none else result.error

section handled
variable {w : Wire} {call : Call} {client : Client} {s : AuthLimiter}
  {request : BridgeExecuteRequest}

theorem isNotBlank_debug (actionType : ActionType) : isNotBlank (kstr actionType.debug) = true := by
  cases actionType <;> decide

theorem namedAction_ofFields (rt : Runtime) (wide : UInt64 → UInt64) (call : Call) :
    namedAction rt (ofFields wide call.authorized.fields) = call.deed := by
  have hobject : JSONObject.optJSONObject (ofFields wide call.authorized.fields) "action" =
      some (received wide call.authorized.action.toJson) := by
    simp [JSONObject.optJSONObject, AuthorizedAction.fields, ofFields, SuggestedAction.toJson,
      ofJson, received]
  have htype : JSONObject.optString rt.json (received wide call.authorized.action.toJson)
      "action_type" = kstr call.authorized.action.actionType.debug := by
    simp [JSONObject.optString, SuggestedAction.toJson, received, ofFields, ofJson]
  have htarget : JSONObject.opt (received wide call.authorized.action.toJson) "target" =
      some (ofJson wide (optionJson .str call.authorized.action.target)) := by
    simp [SuggestedAction.toJson, received, ofFields]
  rw [namedAction, hobject, Call.deed]
  simp only [Option.bind_some, htype, takeIfNotBlank, isNotBlank_debug, if_true, Option.getD_some]
  cases htargeted : call.authorized.action.target with
  | none =>
    rw [htargeted] at htarget
    simp [JSONObject.has, JSONObject.isNull, htarget, optionJson, ofJson]
  | some target =>
    rw [htargeted] at htarget
    simp [JSONObject.has, JSONObject.isNull, JSONObject.optString, htarget, optionJson, ofJson]

theorem executeAccepted_eq (rt : Runtime) (client : Client) (authorizedAction : JSONObject) :
    executeAccepted rt client authorizedAction =
      let r := dispatch client (namedAction rt authorizedAction).1
        (namedAction rt authorizedAction).2
      if r.1.success then r.2 ++ [.bridgeResponse "ok" (some r.1.summary) none,
          recorded "authorized_action_socket_execute_ok"]
        else r.2 ++ [.bridgeResponse "error" (some r.1.summary) r.1.error,
          recorded "authorized_action_socket_dispatch_failed"] :=
  rfl

theorem executeAccepted_spec (rt : Runtime) (wide : UInt64 → UInt64) (call : Call)
    (client : Client) : ∃ (effects : List Effect) (label : String),
    executeAccepted rt client (ofFields wide call.authorized.fields) =
      .dispatched call.deed.1 call.deed.2 :: effects.map .effect ++
        [.bridgeResponse (statusOf (call.executed client)).name
          (some (call.executed client).summary) (errorOf (call.executed client)),
        recorded label] := by
  have hresult : (dispatch client call.deed.1 call.deed.2).1 = call.executed client := by
    simp only [dispatch, Call.deed, Call.executed, replaced_kstr, Option.map_map]
    congr 3
    cases call.authorized.action.target with
    | none => rfl
    | some target => exact congrArg some (replaced_kstr target)
  rw [executeAccepted_eq, namedAction_ofFields]
  dsimp only
  rw [hresult, statusOf, errorOf]
  cases (call.executed client).success with
  | true => exact ⟨_, _, rfl⟩
  | false => exact ⟨_, _, rfl⟩

@[simp] theorem dispatchedOf_effects (effects : List Effect) :
    dispatchedOf (effects.map .effect) = [] := by
  simp [dispatchedOf]

theorem dispatchedOf_executeAccepted (rt : Runtime) (wide : UInt64 → UInt64) (call : Call)
    (client : Client) : dispatchedOf (.verified (some true) ::
      executeAccepted rt client (ofFields wide call.authorized.fields)) = [call.deed] := by
  obtain ⟨effects, label, h⟩ := executeAccepted_spec rt wide call client
  have heffects := dispatchedOf_effects effects
  simp only [dispatchedOf] at heffects
  simp [h, dispatchedOf, heffects, recorded]

theorem isExecuteEnvelope_received (hrequest : w.request call = .ok request) :
    isExecuteEnvelope w.rt (received w.wide request.toJson) = true := by
  obtain ⟨authKey, text, issuedAtMs, -, -, rfl⟩ := request_eq_ok hrequest
  simp [isExecuteEnvelope, JSONObject.optString, AndroidAdapter.buildRequest,
    BridgeExecuteRequest.toJson, received, ofFields, ofJson]

end handled

/-! ### What the adapter reports -/

section reports
variable {w : Wire} {call : Call}

def Answered (e : Exchange) (response : BridgeExecuteResponse) : Prop :=
  match response.status with
  | .rejected => dispatchedOf e.notes = []
  | .ok => ∃ client, e.call.arrival = some client ∧ dispatchedOf e.notes = [e.call.deed] ∧
    (e.call.executed client).success = true ∧
    response.summary = some (e.call.executed client).summary
  | .error => ∃ client, e.call.arrival = some client ∧ dispatchedOf e.notes = [e.call.deed] ∧
    (e.call.executed client).success = false ∧
    response.error = (e.call.executed client).error

/-- What the adapter reports of a call is true of what the device did. -/
structure Honest (w : Wire) (e : Exchange) : Prop where
  once : dispatchedOf e.notes = [] ∨ dispatchedOf e.notes = [e.call.deed]
  answered : ∀ response, w.exchanged e.call = .ok response → Answered e response
  confirmed : ∀ outcome, e.result = .ok outcome → ∃ client,
    e.call.arrival = some client ∧ dispatchedOf e.notes = [e.call.deed] ∧
    (e.call.executed client).success = true ∧
    outcome.actionType = e.call.authorized.action.actionType.debug ∧
    outcome.target = e.call.authorized.action.target ∧
    outcome.summary = (e.call.executed client).summary

end reports

end Dipecs.Bridge
