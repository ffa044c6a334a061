import Dipecs.Core.ActionLifecycle
import Dipecs.Library.Framing
import Dipecs.Library.MachineInt
import Dipecs.Library.Utf8
import Dipecs.Spec.Serialize

/-! The adapter that forwards authorized actions to the device, and the stub it falls back
on.  Serializer, clock, HMAC and socket are parameters. -/

namespace Dipecs.Action

open Dipecs.Spec Dipecs.Core Dipecs.Library

namespace DefaultActionExecutor

def outcome (action : SuggestedAction) (summary : String) : ActionOutcome :=
  ⟨action.actionType.debug, action.target, summary, 0⟩

def execute (authorized : AuthorizedAction) : Except AdapterError ActionOutcome :=
  let action := authorized.action
  match action.actionType with
  | .preWarmProcess =>
    match action.target with
    | some _ => .ok (outcome action "stub_prewarm")
    | none => .error (.executionError "PreWarmProcess requires a target app")
  | .prefetchFile => .ok (outcome action "stub_prefetch")
  | .keepAlive =>
    match action.target with
    | some target => .ok (outcome action ("stub_keepalive:" ++ target))
    | none => .ok (outcome action "stub_keepalive:system")
  | .releaseMemory => .ok (outcome action "stub_release_memory")
  | .noOp => .ok (outcome action "noop")

end DefaultActionExecutor

inductive BridgeStatus
  | ok | rejected | error
  deriving DecidableEq

structure BridgeExecuteResponse where
  status : BridgeStatus
  summary : Option String
  latencyUs : Option UInt64
  error : Option String
  deriving DecidableEq

structure BridgeExecuteRequest where
  messageType : String
  issuedAtMs : I64
  expiresAtMs : I64
  hmacSha256 : String
  action : String
  deriving DecidableEq

def BridgeExecuteRequest.toJson (r : BridgeExecuteRequest) : Json :=
  .obj [("message_type", .str r.messageType), ("issued_at_ms", intJson r.issuedAtMs.val),
    ("expires_at_ms", intJson r.expiresAtMs.val),
    ("auth", .obj [("hmac_sha256", .str r.hmacSha256)]), ("action", .str r.action)]

namespace AndroidAdapter

def payloadTtlMs : Int := 60000

/-- What the adapter finds around it when it forwards an action.  The exchange takes a
request to the device and back, and fails on anything but a response. -/
structure Host where
  authKey : Option String
  toJson : AuthorizedAction → Except String String
  issuedAtMs : Except String I64
  hmac : List UInt8 → List UInt8 → List UInt8
  exchange : BridgeExecuteRequest → Except String BridgeExecuteResponse

inductive Route
  | forward (target : String)
  | localStub

def classify (action : SuggestedAction) : Route :=
  match action.actionType with
  | .prefetchFile =>
    match action.target with
    | some target =>
      if Text.startsWith "url:" target || Text.startsWith "uri:" target then .forward target
      else .localStub
    | none => .localStub
  | .preWarmProcess | .keepAlive | .releaseMemory => .forward (action.target.getD "")
  | .noOp => .localStub

def canonicalExecuteEnvelopeInput (issuedAtMs expiresAtMs : I64) (actionJson : String) : String :=
  "dipecs.android.bridge.execute.v1\nissued_at_ms:" ++ toString issuedAtMs.val ++
    "\nexpires_at_ms:" ++ toString expiresAtMs.val ++
    "\naction:" ++ toString (Utf8.encode actionJson.toList).length ++ ":" ++ actionJson

def computeHmac (hmac : List UInt8 → List UInt8 → List UInt8) (key : String)
    (message : List UInt8) : String :=
  String.ofList (Framing.hex (hmac (Utf8.encode key.toList) message))

def buildRequest (hmac : List UInt8 → List UInt8 → List UInt8) (authKey : String)
    (issuedAtMs : I64) (actionJson : String) : BridgeExecuteRequest :=
  let expiresAtMs := I64.wrap (issuedAtMs.val + payloadTtlMs)
  let canonical := canonicalExecuteEnvelopeInput issuedAtMs expiresAtMs actionJson
  { messageType := "execute"
    issuedAtMs := issuedAtMs
    expiresAtMs := expiresAtMs
    hmacSha256 := computeHmac hmac authKey (Utf8.encode canonical.toList)
    action := actionJson }

def ofResponse (action : SuggestedAction) (response : BridgeExecuteResponse) :
    Except AdapterError ActionOutcome :=
  match response.status with
  | .ok =>
    .ok ⟨action.actionType.debug, action.target,
      response.summary.getD "android_executed", response.latencyUs.getD 0⟩
  | .rejected =>
    .error (.androidBridgeError
      ("android bridge rejected action: " ++ response.error.getD "no reason given"))
  | .error =>
    .error (.androidBridgeError
      ("android bridge execution error: " ++ response.error.getD "no detail given"))

def request (host : Host) (authorized : AuthorizedAction) : Except String BridgeExecuteRequest :=
  match host.authKey with
  | none =>
    .error "DIPECS_ANDROID_ACTION_BRIDGE_TOKEN is required when forwarding to Android bridge"
  | some authKey =>
    match host.toJson authorized with
    | .error error => .error ("serialize AuthorizedAction: " ++ error)
    | .ok actionJson =>
      match host.issuedAtMs with
      | .error error => .error ("calculate Android bridge payload issue time: " ++ error)
      | .ok issuedAtMs => .ok (buildRequest host.hmac authKey issuedAtMs actionJson)

def forward (host : Host) (authorized : AuthorizedAction) : Except AdapterError ActionOutcome :=
  match (request host authorized).bind host.exchange with
  | .error error => .error (.androidBridgeError error)
  | .ok response => ofResponse authorized.action response

def execute (host : Host) (authorized : AuthorizedAction) : Except AdapterError ActionOutcome :=
  match classify authorized.action with
  | .forward _ => forward host authorized
  | .localStub => DefaultActionExecutor.execute authorized

def adapter (world : List AuthorizedAction → AuthorizedAction → Host) : ActionAdapter where
  execute calls authorized := execute (world calls authorized) authorized

theorem ofResponse_isError {action : SuggestedAction} {response : BridgeExecuteResponse}
    (h : response.status ≠ .ok) : ∃ err, ofResponse action response = .error err := by
  unfold ofResponse
  cases hs : response.status with
  | ok => exact absurd hs h
  | rejected => exact ⟨_, rfl⟩
  | error => exact ⟨_, rfl⟩

end AndroidAdapter

end Dipecs.Action
