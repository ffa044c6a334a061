import Dipecs.Cli.AndroidBridge
import Dipecs.Device.EnvelopeBinding

/-! A hand-made action as the device checks it: its fields are measured in bytes where they
are signed, and in code units where the signature is checked. -/

namespace Dipecs.Device.AuthorizedActionSocketServer

open Dipecs.Spec Dipecs.Library Dipecs.Cli JSONObject

def rebuiltInput (rt : Runtime) (payload : JSONObject) : Option KString :=
  (optJSONObject payload "action").bind fun action =>
    (takeIfNotBlank (optString rt.json action "action_type")).bind fun actionType =>
      (takeIfNotBlank (optString rt.json action "urgency")).map fun urgency =>
        canonicalActionSignatureInput (optLong rt.json payload "issued_at_ms" zero)
          (optLong rt.json payload "expires_at_ms" zero) actionType (signedTarget rt action) urgency

theorem hasValidActionSignature_eq (rt : Runtime) (payload : JSONObject) (authToken : KString) :
    hasValidActionSignature rt payload authToken =
      match takeIfNotBlank (optString rt.json payload "action_signature"),
        rebuiltInput rt payload with
      | some supplied, some input =>
        (hmacSha256Hex rt authToken input).map (constantTimeEquals (rt.lowercase supplied))
      | _, _ => some false := by
  unfold hasValidActionSignature rebuiltInput
  cases takeIfNotBlank (optString rt.json payload "action_signature") with
  | none => rfl
  | some supplied =>
    cases optJSONObject payload "action" with
    | none => rfl
    | some action =>
      simp only [Option.bind_some]
      cases takeIfNotBlank (optString rt.json action "action_type") with
      | none => rfl
      | some actionType =>
        simp only [Option.bind_some]
        cases takeIfNotBlank (optString rt.json action "urgency") with
        | none => rfl
        | some urgency => rfl

/-! ### Lengths -/

/-- The input in which a field is measured by `len`. -/
def measuredInput (len : String → Nat) (issuedAtMs expiresAtMs : I64)
    (actionType target urgency : String) : String :=
  "dipecs.android.action.v1\nissued_at_ms:" ++ toString issuedAtMs.val ++
    "\nexpires_at_ms:" ++ toString expiresAtMs.val ++
    "\naction_type:" ++ toString (len actionType) ++ ":" ++ actionType ++
    "\ntarget:" ++ toString (len target) ++ ":" ++ target ++
    "\nurgency:" ++ toString (len urgency) ++ ":" ++ urgency

def units (s : String) : Nat := (kstr s).length

variable {issuedAtMs expiresAtMs : I64} {actionType target urgency : String}

theorem canonicalActionInput_eq : AndroidBridge.canonicalActionInput issuedAtMs expiresAtMs
    actionType target urgency =
      measuredInput AndroidBridge.len issuedAtMs expiresAtMs actionType target urgency := rfl

theorem kstr_pieces (a b c d e f g h i j k l m n o p : String) :
    kstr (a ++ b ++ c ++ d ++ e ++ f ++ g) ++ kstr h ++ kstr (i ++ j ++ k) ++ kstr l ++
        kstr (m ++ n ++ o) ++ kstr p =
      kstr (a ++ b ++ c ++ d ++ e ++ f ++ g ++ h ++ i ++ j ++ k ++ l ++ m ++ n ++ o ++ p) := by
  simp only [kstr_append, List.append_assoc]

theorem canonicalActionSignatureInput_kstr :
    canonicalActionSignatureInput issuedAtMs expiresAtMs (kstr actionType) (kstr target)
        (kstr urgency) =
      kstr (measuredInput units issuedAtMs expiresAtMs actionType target urgency) :=
  kstr_pieces _ _ _ _ _ _ _ _ _ _ _ _ _ _ _ _

theorem toList_pieces (a b c d e f g h i j k l m n o p : String) :
    (a ++ b ++ c ++ d ++ e ++ f ++ g ++ h ++ i ++ j ++ k ++ l ++ m ++ n ++ o ++ p).toList =
      a.toList ++ (b.toList ++ (c.toList ++ (d.toList ++ (e.toList ++ (f.toList ++ (g.toList ++
        (h.toList ++ (i.toList ++ (j.toList ++ (k.toList ++ (l.toList ++ (m.toList ++ (n.toList ++
          (o.toList ++ p.toList)))))))))))))) := by
  simp only [String.toList_append, List.append_assoc]

theorem measuredInput_toList (len : String → Nat) :
    (measuredInput len issuedAtMs expiresAtMs actionType target urgency).toList =
      "dipecs.android.action.v1\nissued_at_ms:".toList ++ (Framing.decimal issuedAtMs.val ++
        ("\nexpires_at_ms:".toList ++ (Framing.decimal expiresAtMs.val ++
          ("\naction_type:".toList ++ (Framing.decimal (len actionType) ++ (":".toList ++
            (actionType.toList ++ ("\ntarget:".toList ++ (Framing.decimal (len target) ++
              (":".toList ++ (target.toList ++ ("\nurgency:".toList ++
                (Framing.decimal (len urgency) ++ (":".toList ++ urgency.toList)))))))))))))) :=
  toList_pieces _ _ _ _ _ _ _ _ _ _ _ _ _ _ _ _

theorem decimal_field {m n : Nat} {rest rest' : List Char} :
    Framing.decimal m ++ (":".toList ++ rest) = Framing.decimal n ++ (":".toList ++ rest') ↔
      m = n ∧ rest = rest' := by
  rw [Framing.separated_inj (by decide) (Framing.colon_notMem_decimal _)
    (Framing.colon_notMem_decimal _), Framing.decimal_injective.eq_iff, Int.natCast_inj]

theorem measuredInput_eq_iff {len len' : String → Nat} :
    measuredInput len issuedAtMs expiresAtMs actionType target urgency =
        measuredInput len' issuedAtMs expiresAtMs actionType target urgency ↔
      len actionType = len' actionType ∧ len target = len' target ∧
        len urgency = len' urgency := by
  rw [← String.toList_inj, measuredInput_toList, measuredInput_toList]
  simp only [List.append_cancel_left_eq, decimal_field, and_true]

def IsAscii (s : String) : Prop := ∀ c ∈ s.toList, c.toNat < 128

instance (s : String) : Decidable (IsAscii s) :=
  List.decidableBAll (fun c : Char => c.toNat < 128) s.toList

theorem units_eq_len_iff {s : String} : units s = AndroidBridge.len s ↔ IsAscii s :=
  Utf16.length_encode_eq_iff

theorem canonical_agree_iff (issuedAtMs expiresAtMs : I64) :
    toByteArray (canonicalActionSignatureInput issuedAtMs expiresAtMs (kstr actionType)
        (kstr target) (kstr urgency)) =
      Utf8.encode (AndroidBridge.canonicalActionInput issuedAtMs expiresAtMs actionType target
        urgency).toList ↔
    IsAscii actionType ∧ IsAscii target ∧ IsAscii urgency := by
  rw [canonicalActionSignatureInput_kstr, toByteArray_kstr, canonicalActionInput_eq,
    Utf8.encode_injective.eq_iff, String.toList_inj, measuredInput_eq_iff, units_eq_len_iff,
    units_eq_len_iff, units_eq_len_iff]

/-! ### The payload -/

def sent (rt : Runtime) (wide : UInt64 → UInt64) (issuedAtMs : I64)
    (authToken actionType target urgency : String) : JSONObject :=
  received wide
    (AndroidBridge.payload rt.hmacSha256 issuedAtMs authToken actionType target urgency)

variable {rt : Runtime} {wide : UInt64 → UInt64} {authToken : String} {now : I64}

theorem sent_issued : optLong rt.json
    (sent rt wide issuedAtMs authToken actionType target urgency) "issued_at_ms" zero =
      issuedAtMs := by
  simp [sent, AndroidBridge.payload, received, ofFields, optLong, ofJson_intJson, toLong]

theorem sent_expires : optLong rt.json
    (sent rt wide issuedAtMs authToken actionType target urgency) "expires_at_ms" zero =
      I64.wrap (issuedAtMs.val + 60000) := by
  simp [sent, AndroidBridge.payload, received, ofFields, optLong, ofJson_intJson, toLong,
    AndroidBridge.actionPayloadTtlMs]

def sentAction (wide : UInt64 → UInt64) (actionType target urgency : String) : JSONObject :=
  [(kstr "action_type", .string (kstr actionType)),
    (kstr "target", ofJson wide (if target = "" then .null else .str target)),
    (kstr "urgency", .string (kstr urgency))]

theorem sent_action : opt (sent rt wide issuedAtMs authToken actionType target urgency) "action" =
    some (.object (sentAction wide actionType target urgency)) := by
  simp [sent, AndroidBridge.payload, received, ofFields, ofJson, sentAction]

theorem signedTarget_sentAction :
    signedTarget rt (sentAction wide actionType target urgency) = kstr target := by
  by_cases htarget : target = ""
  · have hempty : kstr "" = [] := rfl
    simp [signedTarget, sentAction, ofJson, has, isNull, htarget, hempty]
  · simp [signedTarget, sentAction, ofJson, has, isNull, optString, htarget]

theorem rebuiltInput_sent (htype : isNotBlank (kstr actionType) = true)
    (hurgency : isNotBlank (kstr urgency) = true) :
    rebuiltInput rt (sent rt wide issuedAtMs authToken actionType target urgency) =
      some (canonicalActionSignatureInput issuedAtMs (I64.wrap (issuedAtMs.val + 60000))
        (kstr actionType) (kstr target) (kstr urgency)) := by
  have htypeString : optString rt.json (sentAction wide actionType target urgency) "action_type" =
      kstr actionType := by simp [optString, sentAction]
  have hurgencyString : optString rt.json (sentAction wide actionType target urgency) "urgency" =
      kstr urgency := by simp [optString, sentAction]
  rw [rebuiltInput, optJSONObject, sent_action, sent_issued, sent_expires]
  simp only [Option.bind_some, htypeString, hurgencyString, signedTarget_sentAction,
    takeIfNotBlank, htype, hurgency, if_true, Option.map_some]

theorem sent_signature : optString rt.json
    (sent rt wide issuedAtMs authToken actionType target urgency) "action_signature" =
      Utf16.encode (Framing.hex (rt.hmacSha256 (toByteArray (kstr authToken))
        (Utf8.encode (AndroidBridge.canonicalActionInput issuedAtMs
          (I64.wrap (issuedAtMs.val + 60000)) actionType target urgency).toList))) := by
  have hsignature (hmac : List UInt8 → List UInt8 → List UInt8) (expiresAtMs : I64) :
      kstr (AndroidBridge.actionSignature hmac authToken issuedAtMs expiresAtMs actionType target
        urgency) = Utf16.encode (Framing.hex (hmac (toByteArray (kstr authToken))
          (Utf8.encode (AndroidBridge.canonicalActionInput issuedAtMs expiresAtMs actionType target
            urgency).toList))) := by
    rw [kstr, AndroidBridge.actionSignature, String.toList_ofList, toByteArray_kstr]
  rw [← hsignature]
  simp [sent, AndroidBridge.payload, received, ofFields, ofJson, optString,
    AndroidBridge.actionPayloadTtlMs]

theorem validatePayload_sent (hhmac : ∀ key message, rt.hmacSha256 key message ≠ [])
    (hlower : ∀ bytes, rt.lowercase (Utf16.encode (Framing.hex bytes)) =
      Utf16.encode (Framing.hex bytes))
    (htoken : isNotBlank (kstr authToken) = true) (htype : isNotBlank (kstr actionType) = true)
    (hurgency : isNotBlank (kstr urgency) = true) :
    validatePayload rt now (sent rt wide issuedAtMs authToken actionType target urgency)
        (kstr authToken) = some .actionAuthorized ↔
      BridgeExecuteProtocol.validateFreshnessWindow issuedAtMs
        (I64.wrap (issuedAtMs.val + 60000)) now = none ∧
      tag rt (kstr authToken) (Utf8.encode (AndroidBridge.canonicalActionInput issuedAtMs
          (I64.wrap (issuedAtMs.val + 60000)) actionType target urgency).toList) =
        tag rt (kstr authToken) (toByteArray (canonicalActionSignatureInput issuedAtMs
          (I64.wrap (issuedAtMs.val + 60000)) (kstr actionType) (kstr target)
            (kstr urgency))) := by
  have hauthToken : optString rt.json
      (sent rt wide issuedAtMs authToken actionType target urgency) "auth_token" =
        kstr authToken := by
    simp [sent, AndroidBridge.payload, received, ofFields, ofJson, optString]
  have hmessageType : optString rt.json
      (sent rt wide issuedAtMs authToken actionType target urgency) "message_type" ≠
        kstr "ping" := by
    have hping : kstr "ping" ≠ [] := by decide
    simpa [sent, AndroidBridge.payload, received, ofFields, optString] using hping.symm
  have hauthorized : isAuthorized rt
      (sent rt wide issuedAtMs authToken actionType target urgency) (kstr authToken) = true := by
    rw [isAuthorized, hauthToken, takeIfNotBlank, if_pos htoken]
    exact beq_self_eq_true _
  have hfresh := hasFreshActionWindow_iff rt now
    (sent rt wide issuedAtMs authToken actionType target urgency)
    (by simp [has, isNull, sent_action])
  rw [BridgeExecuteProtocol.issuedAt, BridgeExecuteProtocol.expiresAt, sent_issued,
    sent_expires] at hfresh
  rw [validatePayload, hauthorized, if_neg (by decide), if_neg hmessageType, ← hfresh,
    hasValidActionSignature_eq, sent_signature, takeIfNotBlank, if_pos (isNotBlank_hex (hhmac _ _)),
    rebuiltInput_sent htype hurgency]
  cases hasFreshActionWindow rt now
      (sent rt wide issuedAtMs authToken actionType target urgency) with
  | false => simp
  | true =>
    simp only [hmacSha256Hex, toByteArray_ne_nil htoken, if_false, Option.map_some, hlower,
      Bool.not_true, Bool.false_eq_true, true_and, Option.some.injEq]
    rw [← toByteArray_hex (Utf8.encode _), ← constantTimeEquals_hex]
    split
    · exact iff_of_true rfl ‹_›
    · exact iff_of_false (by simp) ‹_›

/-- What is promised of a payload that `send_action` writes. -/
structure Agrees (rt : Runtime) (wide : UInt64 → UInt64) (issuedAtMs : I64)
    (authToken actionType target urgency : String) : Prop where
  rebuilt : (rebuiltInput rt (sent rt wide issuedAtMs authToken actionType target urgency)).map
    toByteArray = some (Utf8.encode (AndroidBridge.canonicalActionInput issuedAtMs
      (I64.wrap (issuedAtMs.val + AndroidBridge.actionPayloadTtlMs)) actionType target
        urgency).toList)
  authorized : ∀ now,
    InWindow issuedAtMs (I64.wrap (issuedAtMs.val + AndroidBridge.actionPayloadTtlMs)) now →
    validatePayload rt now (sent rt wide issuedAtMs authToken actionType target urgency)
      (kstr authToken) = some .actionAuthorized


/-- The two sides agree on ASCII text, as far as the clock goes. -/
theorem actionSignature_agrees_iff {rt : Runtime} {wide : UInt64 → UInt64}
    (hhmac : ∀ key message, rt.hmacSha256 key message ≠ [])
    (hlower : ∀ bytes, rt.lowercase (Utf16.encode (Framing.hex bytes)) =
      Utf16.encode (Framing.hex bytes))
    {issuedAtMs : I64} {authToken actionType target urgency : String}
    (htoken : isNotBlank (kstr authToken) = true) (htype : isNotBlank (kstr actionType) = true)
    (hurgency : isNotBlank (kstr urgency) = true) :
    Agrees rt wide issuedAtMs authToken actionType target urgency ↔
      (IsAscii actionType ∧ IsAscii target ∧ IsAscii urgency) ∧
      (0 < issuedAtMs.val ∧ issuedAtMs.val ≤ 2 ^ 63 - 1 - 120000 ∨
        2 ^ 63 - 1 - 60000 < issuedAtMs.val) := by
  rw [← BridgeExecuteProtocol.fresh_throughout_iff]
  constructor
  · rintro ⟨hrebuilt, hauthorized⟩
    rw [rebuiltInput_sent htype hurgency] at hrebuilt
    refine ⟨(canonical_agree_iff _ _).mp (Option.some.inj hrebuilt), fun now hnow => ?_⟩
    exact ((validatePayload_sent hhmac hlower htoken htype hurgency).mp (hauthorized now hnow)).1
  · rintro ⟨hascii, hfresh⟩
    have hbytes :=
      (canonical_agree_iff issuedAtMs (I64.wrap (issuedAtMs.val + 60000))).mpr hascii
    constructor
    · rw [rebuiltInput_sent htype hurgency]
      exact congrArg some hbytes
    · intro now hnow
      refine (validatePayload_sent hhmac hlower htoken htype hurgency).mpr ⟨hfresh now hnow, ?_⟩
      rw [hbytes]

theorem actionSignature_agrees_iff_ascii : Agrees BridgeExecuteProtocol.sampleRuntime id
    ⟨1000, by decide⟩ "shared key" "PrefetchFile" "url:https://example.org/" "Immediate" :=
  (actionSignature_agrees_iff BridgeExecuteProtocol.sampleRuntime_tags.nonempty
    BridgeExecuteProtocol.sampleRuntime_tags.lowercase (by decide) (by decide) (by decide)).mpr
      ⟨⟨by decide, by decide, by decide⟩, .inl (by decide)⟩

/-- One accented letter in the target, and a signature made with the right token is refused. -/
theorem validatePayload_refuses_accent :
    InWindow ⟨1000, by decide⟩ ⟨61000, by decide⟩ ⟨2000, by decide⟩ ∧
    rebuiltInput BridgeExecuteProtocol.sampleRuntime (sent BridgeExecuteProtocol.sampleRuntime id
        ⟨1000, by decide⟩ "shared key" "PrefetchFile" "url:caf\u00e9" "Immediate") ≠
      some (kstr (AndroidBridge.canonicalActionInput ⟨1000, by decide⟩ ⟨61000, by decide⟩
        "PrefetchFile" "url:caf\u00e9" "Immediate")) ∧
    validatePayload BridgeExecuteProtocol.sampleRuntime ⟨2000, by decide⟩
        (sent BridgeExecuteProtocol.sampleRuntime id ⟨1000, by decide⟩ "shared key"
          "PrefetchFile" "url:caf\u00e9" "Immediate") (kstr "shared key") ≠
      some .actionAuthorized := by
  have htags := BridgeExecuteProtocol.sampleRuntime_tags
  have hascii : ¬IsAscii "url:caf\u00e9" := by decide
  refine ⟨by decide, ?_, ?_⟩
  · rw [rebuiltInput_sent (by decide) (by decide)]
    intro h
    have hbytes := congrArg toByteArray (Option.some.inj h)
    rw [toByteArray_kstr] at hbytes
    exact hascii ((canonical_agree_iff _ _).mp hbytes).2.1
  · intro h
    have htag := ((validatePayload_sent htags.nonempty htags.lowercase (by decide) (by decide)
      (by decide)).mp h).2
    exact hascii ((canonical_agree_iff _ _).mp (tag_injective htags.injective _ htag).symm).2.1

end Dipecs.Device.AuthorizedActionSocketServer
