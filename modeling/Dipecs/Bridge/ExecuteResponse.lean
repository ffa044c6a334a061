import Dipecs.Action.AndroidAdapter

/-! The response of the device to an execute request: the object it writes, and what the adapter
makes of it. -/

namespace Dipecs.Action

open Dipecs.Spec Dipecs.Library

def BridgeStatus.name : BridgeStatus → String
  | .ok => "ok"
  | .rejected => "rejected"
  | .error => "error"

def BridgeStatus.fromName : String → Option BridgeStatus
  | "ok" => some .ok
  | "rejected" => some .rejected
  | "error" => some .error
  | _ => none

@[simp] theorem BridgeStatus.fromName_name (status : BridgeStatus) :
    fromName status.name = some status := by
  cases status <;> rfl

def optionalField {α : Type} (read : Json → Option α) (name : String) (json : Json) :
    Option (Option α) :=
  match json.get name with
  | none | some .null => some none
  | some value => (read value).map some

def asU64 : Json → Option UInt64
  | .posInt n => some n
  | _ => none

def BridgeExecuteResponse.fromJson (json : Json) : Option BridgeExecuteResponse := do
  let status ← (json.get "status").bind Json.asStr
  let status ← BridgeStatus.fromName status
  let summary ← optionalField Json.asStr "summary" json
  let latencyUs ← optionalField asU64 "latency_us" json
  let error ← optionalField Json.asStr "error" json
  some ⟨status, summary, latencyUs, error⟩

end Dipecs.Action

namespace Dipecs.Device.BridgeExecuteProtocol

open Dipecs.Action Dipecs.Library Dipecs.Spec

def responseJson (status : String) (summary error : Option String) (latencyUs : Option I64) :
    Json :=
  .obj ([("status", .str status)] ++
    (summary.map fun s => ("summary", Json.str s)).toList ++
    (latencyUs.map fun n => ("latency_us", intJson n.val)).toList ++
    (error.map fun e => ("error", Json.str e)).toList)

theorem fromJson_responseJson (status : BridgeStatus) (summary error : Option String)
    {latencyUs : I64} (h : 0 ≤ latencyUs.val) :
    BridgeExecuteResponse.fromJson (responseJson status.name summary error (some latencyUs)) =
      some ⟨status, summary, some (UInt64.ofNat latencyUs.val.toNat), error⟩ := by
  have hlatency : intJson latencyUs.val = .posInt (UInt64.ofNat latencyUs.val.toNat) :=
    if_neg (not_lt.mpr h)
  simp only [responseJson, BridgeExecuteResponse.fromJson, optionalField, Json.get]
  cases summary <;> cases error <;> simp [Json.asStr, asU64, hlatency]

end Dipecs.Device.BridgeExecuteProtocol
