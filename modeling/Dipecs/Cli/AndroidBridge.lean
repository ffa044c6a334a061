import Dipecs.Library.Framing
import Dipecs.Library.MachineInt
import Dipecs.Library.Utf8
import Dipecs.Spec.Serialize

/-! The command line's side of the action socket: a hand-made action and its signature. -/

namespace Dipecs.Cli.AndroidBridge

open Dipecs.Spec Dipecs.Library

def actionPayloadTtlMs : Int := 60000

/-- `str::len` counts bytes. -/
def len (s : String) : Nat := (Utf8.encode s.toList).length

def canonicalActionInput (issuedAtMs expiresAtMs : I64) (actionType target urgency : String) :
    String :=
  "dipecs.android.action.v1\nissued_at_ms:" ++ toString issuedAtMs.val ++
    "\nexpires_at_ms:" ++ toString expiresAtMs.val ++
    "\naction_type:" ++ toString (len actionType) ++ ":" ++ actionType ++
    "\ntarget:" ++ toString (len target) ++ ":" ++ target ++
    "\nurgency:" ++ toString (len urgency) ++ ":" ++ urgency

def actionSignature (hmac : List UInt8 → List UInt8 → List UInt8) (authToken : String)
    (issuedAtMs expiresAtMs : I64) (actionType target urgency : String) : String :=
  String.ofList (Framing.hex (hmac (Utf8.encode authToken.toList)
    (Utf8.encode (canonicalActionInput issuedAtMs expiresAtMs actionType target urgency).toList)))

/-- The payload that `send_action` writes at this time; an empty target is sent as null. -/
def payload (hmac : List UInt8 → List UInt8 → List UInt8) (issuedAtMs : I64)
    (authToken actionType target urgency : String) : Json :=
  let expiresAtMs := I64.wrap (issuedAtMs.val + actionPayloadTtlMs)
  .obj [("intent_id", .str "cli-manual-action"),
    ("coord", .obj [("window_ordinal", natJson 0), ("intent_ordinal", natJson 0),
      ("action_ordinal", natJson 0)]),
    ("action", .obj [("action_type", .str actionType),
      ("target", if target = "" then .null else .str target), ("urgency", .str urgency)]),
    ("effect", .str "PureRead"),
    ("authorized_at_ms", intJson issuedAtMs.val),
    ("auth_token", .str authToken),
    ("issued_at_ms", intJson issuedAtMs.val),
    ("expires_at_ms", intJson expiresAtMs.val),
    ("action_signature",
      .str (actionSignature hmac authToken issuedAtMs expiresAtMs actionType target urgency))]

end Dipecs.Cli.AndroidBridge
