import Dipecs.Device.ActionExecutors
import Dipecs.Device.ActionSocketServer
import Dipecs.Library.Machine

/-! The clients of the action socket, served one at a time: what is read from each, how it
is authenticated under the limiter of failures, and what is answered and recorded. -/

namespace Dipecs.Device

open Dipecs.Library

namespace BridgeExecuteProtocol
open JSONObject

def isExecuteEnvelope (rt : Runtime) (payload : JSONObject) : Bool :=
  optString rt.json payload "message_type" == kstr "execute"

end BridgeExecuteProtocol

namespace ActionExecutorBridge
open JSONObject

structure ParsedAction where
  actionType : KString
  target : Option KString

def parseAuthorizedAction (rt : Runtime) (payload : JSONObject) : Option ParsedAction :=
  (optJSONObject payload "action").bind fun action =>
    (takeIfNotBlank (optString rt.json action "action_type")).map fun actionType =>
      { actionType := actionType
        target := if has action "target" && !isNull action "target"
          then some (optString rt.json action "target") else none }

end ActionExecutorBridge

namespace AuthorizedActionSocketServer
open JSONObject BridgeExecuteProtocol

def maxPayloadChars : Nat := 64 * 1024

def maxAuthFailuresBeforeBackoff : Int32 := 5

def authBackoffMs : Int := 30000

/-! ### Reading -/

inductive SocketRead
  | chars (chunk : KString)
  | endOfStream
  | timeout
  | failed
  deriving DecidableEq

inductive Received
  | text (payload : KString)
  | payloadTooLarge
  | timeout
  | failed
  deriving DecidableEq

/-- A client from which nothing more comes times out. -/
def readPayload (rt : Runtime) (payload : KString) : List SocketRead → Received
  | [] | .timeout :: _ => .timeout
  | .failed :: _ => .failed
  | .endOfStream :: _ => .text payload
  | .chars chunk :: reads =>
    if (payload ++ chunk).length > maxPayloadChars then .payloadTooLarge
    else
      let text := trimUnits (payload ++ chunk)
      if text ≠ [] ∧ (rt.json.parse text).isSome then .text text
      else readPayload rt (payload ++ chunk) reads

/-! ### The limiter -/

structure AuthLimiter where
  failedAuthCount : Int32
  rejectUntilMs : I64
  deriving DecidableEq

def AuthLimiter.new : AuthLimiter := ⟨0, zero⟩

def recordAuthFailure (s : AuthLimiter) (now : I64) : AuthLimiter :=
  let failures := s.failedAuthCount + 1
  { failedAuthCount := failures
    rejectUntilMs := if maxAuthFailuresBeforeBackoff ≤ failures
      then I64.wrap (now.val + authBackoffMs) else s.rejectUntilMs }

def isRateLimited (s : AuthLimiter) (now : I64) : Bool := decide (now.val < s.rejectUntilMs.val)

/-! ### Serving -/

/-- One client: what it sends, and what the clock and the platform say meanwhile. -/
structure Client where
  reads : List SocketRead
  checkedAt : I64
  verifiedAt : I64
  failedAt : I64
  platform : Platform

/-- What serving a client does, in order.  A verification that throws has no result. -/
inductive Note
  | authFailed (atMs : I64)
  | verified (accepted : Option Bool)
  | dispatched (actionType : KString) (target : Option KString)
  | effect (e : Effect)
  | pong
  | bridgeResponse (status : String) (summary error : Option String)
  | uncaught
  deriving DecidableEq

abbrev Served := AuthLimiter × List Note

def recorded (eventType : String) : Note := .effect (.recordInternal eventType)

def fail (s : AuthLimiter) (client : Client) (notes : List Note) : Served :=
  (recordAuthFailure s client.failedAt, .authFailed client.failedAt :: notes)

def dispatch (client : Client) (actionType : KString) (target : Option KString) :
    ActionResult × List Note :=
  let execution := ActionExecutorBridge.dispatch client.platform (replaced actionType)
    (target.map replaced)
  (execution.result, .dispatched actionType target :: execution.effects.map .effect)

def dispatchAuthorizedActionJson (rt : Runtime) (client : Client) (payload : JSONObject) :
    Bool × List Note :=
  match ActionExecutorBridge.parseAuthorizedAction rt payload with
  | none => (false, [recorded "action_dispatch_rejected"])
  | some parsed =>
    let (result, notes) := dispatch client parsed.actionType parsed.target
    (result.success, notes)

def executeAccepted (rt : Runtime) (client : Client) (authorizedAction : JSONObject) : List Note :=
  let actionObj := optJSONObject authorizedAction "action"
  let actionType := (actionObj.bind fun obj =>
    takeIfNotBlank (optString rt.json obj "action_type")).getD (kstr "NoOp")
  let target := actionObj.bind fun obj =>
    if has obj "target" && !isNull obj "target" then some (optString rt.json obj "target") else none
  let (result, notes) := dispatch client actionType target
  if result.success then
    notes ++ [.bridgeResponse "ok" (some result.summary) none,
      recorded "authorized_action_socket_execute_ok"]
  else
    notes ++ [.bridgeResponse "error" (some result.summary) result.error,
      recorded "authorized_action_socket_dispatch_failed"]

def handleExecuteEnvelope (rt : Runtime) (authToken : KString) (s : AuthLimiter) (client : Client)
    (json : JSONObject) : Served :=
  if isRateLimited s client.checkedAt then
    (s, [.bridgeResponse "rejected" none (some "auth temporarily rate limited"),
      recorded "authorized_action_socket_rate_limited"])
  else
    match verifyExecuteEnvelope rt client.verifiedAt json authToken with
    | none => (s, [.verified none, .uncaught])
    | some (.accepted authorizedAction) =>
      (AuthLimiter.new, .verified (some true) :: executeAccepted rt client authorizedAction)
    | some (.rejected reason) =>
      let (s, notes) := fail s client [.bridgeResponse "rejected" none (some reason),
        recorded "authorized_action_socket_execute_rejected"]
      (s, .verified (some false) :: notes)

def handleAuthorizedAction (rt : Runtime) (authToken : KString) (s : AuthLimiter)
    (client : Client) (json : JSONObject) : Served :=
  if isRateLimited s client.checkedAt then
    (s, [recorded "authorized_action_socket_rate_limited"])
  else
    let rejected (eventType : String) : Served :=
      let (s, notes) := fail s client [recorded eventType]
      (s, .verified (some false) :: notes)
    match validatePayload rt client.verifiedAt json authToken with
    | none => (s, [.verified none, .uncaught])
    | some .authTokenMissingOrInvalid => rejected "authorized_action_socket_rejected"
    | some .ping =>
      (AuthLimiter.new,
        [.verified (some true), .pong, recorded "authorized_action_socket_ping"])
    | some .actionWindowMissingOrExpired => rejected "authorized_action_socket_stale"
    | some .actionSignatureInvalid => rejected "authorized_action_socket_bad_signature"
    | some .actionAuthorized =>
      let (dispatched, notes) := dispatchAuthorizedActionJson rt client json
      (AuthLimiter.new, .verified (some true) :: notes ++
        if dispatched then [] else [recorded "authorized_action_socket_dispatch_failed"])

def handlePayload (rt : Runtime) (authToken : KString) (s : AuthLimiter) (client : Client)
    (payload : KString) : Served :=
  if !isNotBlank payload then
    fail s client [.bridgeResponse "rejected" none (some "empty payload"),
      recorded "authorized_action_socket_empty"]
  else
    match rt.json.parse payload with
    | none =>
      fail s client [.bridgeResponse "rejected" none (some "invalid json"),
        recorded "authorized_action_socket_invalid_json"]
    | some json =>
      if isExecuteEnvelope rt json then handleExecuteEnvelope rt authToken s client json
      else handleAuthorizedAction rt authToken s client json

def handleClient (rt : Runtime) (authToken : KString) (s : AuthLimiter) (client : Client) :
    Served :=
  match readPayload rt [] client.reads with
  | .payloadTooLarge => fail s client [recorded "authorized_action_socket_payload_too_large"]
  | .timeout => fail s client [recorded "authorized_action_socket_timeout"]
  | .failed => fail s client [recorded "authorized_action_socket_read_failed"]
  | .text payload => handlePayload rt authToken s client (trimUnits payload)

structure Service where
  client : Client
  notes : List Note

def server (rt : Runtime) (authToken : KString) : Machine AuthLimiter Client Service where
  step s client :=
    let (s, notes) := handleClient rt authToken s client
    (s, [⟨client, notes⟩])

end AuthorizedActionSocketServer

end Dipecs.Device
