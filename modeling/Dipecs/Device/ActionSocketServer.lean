import Dipecs.Device.OrgJson
import Dipecs.Library.Framing
import Dipecs.Library.MachineInt

/-! The device side of the action socket: what it authenticates and how.  The HMAC, the
lowercasing and the clock reading are parameters; `none` is an exception. -/

namespace Dipecs.Device

open Dipecs.Library

/-- The Java runtime under the server. -/
structure Runtime where
  json : OrgJson
  lowercase : KString → KString
  hmacSha256 : List UInt8 → List UInt8 → List UInt8

/-- `SecretKeySpec` refuses an empty key. -/
def hmacSha256Hex (rt : Runtime) (key message : KString) : Option KString :=
  if toByteArray key = [] then none
  else some (Utf16.encode (Framing.hex (rt.hmacSha256 (toByteArray key) (toByteArray message))))

def constantTimeEquals (left right : KString) : Bool := toByteArray left == toByteArray right

def takeIfNotBlank (s : KString) : Option KString := if isNotBlank s then some s else none

def zero : I64 := ⟨0, by decide⟩

def maxTtlMs : Int := 300000

def clockSkewMs : Int := 30000

namespace BridgeExecuteProtocol
open JSONObject

inductive Verification
  | accepted (authorizedAction : JSONObject)
  | rejected (reason : String)

def canonicalExecuteEnvelopeInput (issuedAtMs expiresAtMs : I64) (actionJson : KString) :
    KString :=
  kstr ("dipecs.android.bridge.execute.v1\nissued_at_ms:" ++ toString issuedAtMs.val ++
    "\nexpires_at_ms:" ++ toString expiresAtMs.val ++
    "\naction:" ++ toString (toByteArray actionJson).length ++ ":") ++ actionJson

def validateFreshnessWindow (issuedAtMs expiresAtMs now : I64) : Option String :=
  if issuedAtMs.val ≤ 0 ∨ expiresAtMs.val ≤ 0 ∨ expiresAtMs.val ≤ issuedAtMs.val then
    some "missing or invalid freshness window"
  else if i64 (expiresAtMs.val - issuedAtMs.val) > maxTtlMs then some "freshness window too long"
  else if i64 (now.val + clockSkewMs) < issuedAtMs.val ∨
      i64 (now.val - clockSkewMs) > expiresAtMs.val then
    some "expired freshness window"
  else none

def actionString (payload : JSONObject) : Option KString :=
  match opt payload "action" with
  | some (.string s) => takeIfNotBlank s
  | _ => none

def issuedAt (rt : Runtime) (payload : JSONObject) : I64 :=
  optLong rt.json payload "issued_at_ms" zero

def expiresAt (rt : Runtime) (payload : JSONObject) : I64 :=
  optLong rt.json payload "expires_at_ms" zero

def suppliedHmac (rt : Runtime) (payload : JSONObject) : Option KString :=
  (optJSONObject payload "auth").bind fun auth =>
    takeIfNotBlank (optString rt.json auth "hmac_sha256")

def openAction (rt : Runtime) (actionJson : KString) : Verification :=
  match rt.json.parse actionJson with
  | none => .rejected "invalid action json"
  | some authorizedAction =>
    match optJSONObject authorizedAction "action" with
    | none => .rejected "authorized action missing action object"
    | some _ => .accepted authorizedAction

def verifyExecuteEnvelope (rt : Runtime) (now : I64) (payload : JSONObject) (authToken : KString) :
    Option Verification :=
  match actionString payload with
  | none => some (.rejected "missing action")
  | some actionJson =>
    match validateFreshnessWindow (issuedAt rt payload) (expiresAt rt payload) now with
    | some reason => some (.rejected reason)
    | none =>
      match suppliedHmac rt payload with
      | none => some (.rejected "missing hmac")
      | some supplied =>
        (hmacSha256Hex rt authToken (canonicalExecuteEnvelopeInput (issuedAt rt payload)
          (expiresAt rt payload) actionJson)).map fun expected =>
            if constantTimeEquals (rt.lowercase supplied) expected then openAction rt actionJson
            else .rejected "bad hmac"

end BridgeExecuteProtocol

namespace AuthorizedActionSocketServer
open JSONObject

inductive AuthVerdict
  | authTokenMissingOrInvalid
  | ping
  | actionWindowMissingOrExpired
  | actionSignatureInvalid
  | actionAuthorized
  deriving DecidableEq

/-- The lengths are those of Kotlin strings, in code units. -/
def canonicalActionSignatureInput (issuedAtMs expiresAtMs : I64)
    (actionType target urgency : KString) : KString :=
  kstr ("dipecs.android.action.v1\nissued_at_ms:" ++ toString issuedAtMs.val ++
      "\nexpires_at_ms:" ++ toString expiresAtMs.val ++
      "\naction_type:" ++ toString actionType.length ++ ":") ++ actionType ++
    kstr ("\ntarget:" ++ toString target.length ++ ":") ++ target ++
    kstr ("\nurgency:" ++ toString urgency.length ++ ":") ++ urgency

def isAuthorized (rt : Runtime) (payload : JSONObject) (authToken : KString) : Bool :=
  match takeIfNotBlank (optString rt.json payload "auth_token") with
  | none => false
  | some supplied => constantTimeEquals supplied authToken

def hasFreshActionWindow (rt : Runtime) (now : I64) (payload : JSONObject) : Bool :=
  if !has payload "action" || isNull payload "action" then false
  else
    let issuedAtMs := optLong rt.json payload "issued_at_ms" zero
    let expiresAtMs := optLong rt.json payload "expires_at_ms" zero
    if issuedAtMs.val ≤ 0 ∨ expiresAtMs.val ≤ 0 ∨ expiresAtMs.val ≤ issuedAtMs.val then false
    else if i64 (expiresAtMs.val - issuedAtMs.val) > maxTtlMs then false
    else decide (i64 (now.val + clockSkewMs) ≥ issuedAtMs.val ∧
      i64 (now.val - clockSkewMs) ≤ expiresAtMs.val)

/-- The target of an action, where a missing one and an empty one are the same. -/
def signedTarget (rt : Runtime) (action : JSONObject) : KString :=
  if has action "target" && !isNull action "target" then optString rt.json action "target" else []

def hasValidActionSignature (rt : Runtime) (payload : JSONObject) (authToken : KString) :
    Option Bool :=
  match takeIfNotBlank (optString rt.json payload "action_signature") with
  | none => some false
  | some supplied =>
    match optJSONObject payload "action" with
    | none => some false
    | some action =>
      match takeIfNotBlank (optString rt.json action "action_type") with
      | none => some false
      | some actionType =>
        match takeIfNotBlank (optString rt.json action "urgency") with
        | none => some false
        | some urgency =>
          (hmacSha256Hex rt authToken (canonicalActionSignatureInput
            (optLong rt.json payload "issued_at_ms" zero)
            (optLong rt.json payload "expires_at_ms" zero)
            actionType (signedTarget rt action) urgency)).map
              (constantTimeEquals (rt.lowercase supplied))

def validatePayload (rt : Runtime) (now : I64) (payload : JSONObject) (authToken : KString) :
    Option AuthVerdict :=
  if !isAuthorized rt payload authToken then some .authTokenMissingOrInvalid
  else if optString rt.json payload "message_type" = kstr "ping" then some .ping
  else if !hasFreshActionWindow rt now payload then some .actionWindowMissingOrExpired
  else (hasValidActionSignature rt payload authToken).map fun valid =>
    if valid then .actionAuthorized else .actionSignatureInvalid

end AuthorizedActionSocketServer

end Dipecs.Device
