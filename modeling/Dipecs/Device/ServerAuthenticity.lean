import Dipecs.Device.ActionInputs
import Dipecs.Device.AuthBackoff

/-! What the action socket dispatches, whoever its clients are and whatever they send: only
what was signed with its key, as it was signed, and only within the window of the signature. -/

namespace Dipecs.Device

open Dipecs.Library JSONObject BridgeExecuteProtocol

/-- The times under which a message may be acted on. -/
structure Fresh (issuedAtMs expiresAtMs now : I64) : Prop where
  ordered : issuedAtMs.val < expiresAtMs.val
  bounded : expiresAtMs.val - issuedAtMs.val ≤ maxTtlMs
  inWindow : InWindow issuedAtMs expiresAtMs now

theorem fresh_of_window {issuedAtMs expiresAtMs now : I64}
    (h : validateFreshnessWindow issuedAtMs expiresAtMs now = none) :
    Fresh issuedAtMs expiresAtMs now :=
  have ⟨_, hordered, hbounded, hin, _⟩ := validateFreshnessWindow_eq_none.mp h
  ⟨hordered, hbounded, hin⟩

/-- The message is about this action.  A line of the command line tool is counted in bytes, so
it is sure to say what the device reads in it as long as the two counts are the same. -/
def SignedMessage.Names (issuedAtMs expiresAtMs : I64) (actionType target urgency : String) :
    SignedMessage → Prop
  | .envelope _ _ _ => False
  | .deviceAction i e actionType' target' urgency' =>
    i = issuedAtMs ∧ e = expiresAtMs ∧ replaced actionType' = actionType ∧
      replaced target' = target ∧ replaced urgency' = urgency
  | .cliAction i e actionType' target' urgency' =>
    AuthorizedActionSocketServer.IsAscii actionType' →
      AuthorizedActionSocketServer.IsAscii target' →
      AuthorizedActionSocketServer.IsAscii urgency' →
      i = issuedAtMs ∧ e = expiresAtMs ∧ actionType' = actionType ∧ target' = target ∧
        urgency' = urgency

namespace AuthorizedActionSocketServer

def namedAction (rt : Runtime) (authorizedAction : JSONObject) : KString × Option KString :=
  let actionObj := optJSONObject authorizedAction "action"
  ((actionObj.bind fun obj => takeIfNotBlank (optString rt.json obj "action_type")).getD
      (kstr "NoOp"),
    actionObj.bind fun obj =>
      if has obj "target" && !isNull obj "target" then some (optString rt.json obj "target")
      else none)

/-- Why an action may be dispatched. -/
inductive Backed (rt : Runtime) (signed : List SignedMessage) (now : I64) :
    KString → Option KString → Prop
  | envelope (issuedAtMs expiresAtMs : I64) (action : KString) (authorizedAction : JSONObject)
    (isSigned : .envelope issuedAtMs expiresAtMs (replaced action) ∈ signed)
    (opens : rt.json.parse action = some authorizedAction)
    (fresh : Fresh issuedAtMs expiresAtMs now) :
    Backed rt signed now (namedAction rt authorizedAction).1 (namedAction rt authorizedAction).2
  | action (issuedAtMs expiresAtMs : I64) (actionType urgency : KString) (target : Option KString)
    (message : SignedMessage) (isSigned : message ∈ signed)
    (bytes : message.bytes = toByteArray (canonicalActionSignatureInput issuedAtMs expiresAtMs
      actionType (target.getD []) urgency))
    (names : message.Names issuedAtMs expiresAtMs (replaced actionType)
      (replaced (target.getD [])) (replaced urgency))
    (fresh : Fresh issuedAtMs expiresAtMs now) :
    Backed rt signed now actionType target

def presentedTags (rt : Runtime) (json : JSONObject) : List (List UInt8) :=
  (presentedTag rt json).toList ++
    ((takeIfNotBlank (optString rt.json json "action_signature")).map fun supplied =>
      toByteArray (rt.lowercase supplied)).toList

/-- Every right tag that the client sends was made for a message that a key holder signed. -/
def Honest (rt : Runtime) (key : KString) (signed : List SignedMessage) (client : Client) : Prop :=
  ∀ payload json, readPayload rt [] client.reads = .text payload →
    rt.json.parse (trimUnits payload) = some json →
    ∀ message, tag rt key message ∈ presentedTags rt json → ∃ m ∈ signed, m.bytes = message

section
variable {rt : Runtime} {authToken : KString} {signed : List SignedMessage} {client : Client}
  {json : JSONObject} {s : AuthLimiter} {actionType : KString} {target : Option KString}

theorem names_of_bytes {issuedAtMs expiresAtMs : I64} {actionType target urgency : KString}
    {m : SignedMessage}
    (h : m.bytes = toByteArray
      (canonicalActionSignatureInput issuedAtMs expiresAtMs actionType target urgency)) :
    m.Names issuedAtMs expiresAtMs (replaced actionType) (replaced target) (replaced urgency) := by
  cases m with
  | envelope i e action =>
    obtain ⟨rest, hrest⟩ := canonicalActionSignatureInput_header issuedAtMs expiresAtMs actionType
      target urgency
    rw [hrest, toByteArray_kstr_append, toByteArray, ← Utf8.encode_append] at h
    exact envelopeBytes_ne_legacy i e action _ h
  | deviceAction i e actionType' target' urgency' =>
    rw [SignedMessage.bytes, toByteArray_action, toByteArray_action] at h
    exact canonicalText_injective (Utf8.encode_injective h)
  | cliAction i e actionType' target' urgency' =>
    intro htype htarget hurgency
    have hagree := (canonical_agree_iff i e).mpr ⟨htype, htarget, hurgency⟩
    rw [SignedMessage.bytes, ← hagree, toByteArray_action, toByteArray_action] at h
    simpa using canonicalText_injective (Utf8.encode_injective h)

/-! ### Notes of a dispatch -/

theorem mem_dispatch_iff {actionType' : KString} {target' : Option KString} :
    .dispatched actionType target ∈ (dispatch client actionType' target').2 ↔
      actionType = actionType' ∧ target = target' := by
  simp [dispatch]

theorem executeAccepted_eq (rt : Runtime) (client : Client) (actionType : KString)
    (target : Option KString) (authorizedAction : JSONObject) : ∃ notes,
    executeAccepted rt client authorizedAction =
      (dispatch client (namedAction rt authorizedAction).1
        (namedAction rt authorizedAction).2).2 ++ notes ∧
      .dispatched actionType target ∉ notes := by
  rw [executeAccepted]
  dsimp only
  split
  · exact ⟨_, rfl, by simp [recorded]⟩
  · exact ⟨_, rfl, by simp [recorded]⟩

theorem handleExecuteEnvelope_dispatched
    (h : .dispatched actionType target ∈ (handleExecuteEnvelope rt authToken s client json).2) :
    ∃ authorizedAction, verifyExecuteEnvelope rt client.verifiedAt json authToken =
        some (.accepted authorizedAction) ∧
      namedAction rt authorizedAction = (actionType, target) := by
  unfold handleExecuteEnvelope at h
  split at h
  · simp [recorded] at h
  · split at h
    · simp at h
    · rename_i authorizedAction hverified
      obtain ⟨notes, heq, hnotes⟩ := executeAccepted_eq rt client actionType target authorizedAction
      refine ⟨authorizedAction, hverified, ?_⟩
      rw [heq, List.mem_cons, List.mem_append, mem_dispatch_iff] at h
      obtain ⟨htype, htarget⟩ : actionType = _ ∧ target = _ := by simpa [hnotes] using h
      rw [htype, htarget]
    · simp [fail, recorded] at h

theorem handleAuthorizedAction_dispatched
    (h : .dispatched actionType target ∈ (handleAuthorizedAction rt authToken s client json).2) :
    validatePayload rt client.verifiedAt json authToken = some .actionAuthorized ∧
      ActionExecutorBridge.parseAuthorizedAction rt json = some ⟨actionType, target⟩ := by
  unfold handleAuthorizedAction at h
  split at h
  · simp [recorded] at h
  · dsimp only at h
    split at h
    case h_6 hverdict =>
      refine ⟨hverdict, ?_⟩
      cases hparsed : ActionExecutorBridge.parseAuthorizedAction rt json with
      | none => simp [dispatchAuthorizedActionJson, hparsed, recorded] at h
      | some parsed =>
        have hnot : .dispatched actionType target ∉ (if
            (dispatchAuthorizedActionJson rt client json).1 = true then []
            else [recorded "authorized_action_socket_dispatch_failed"]) := by
          split <;> simp [recorded]
        rw [List.mem_append, List.mem_cons] at h
        have hdispatch := (h.resolve_right hnot).resolve_left (by simp)
        simp only [dispatchAuthorizedActionJson, hparsed] at hdispatch
        obtain ⟨rfl, rfl⟩ := mem_dispatch_iff.mp hdispatch
        rfl
    all_goals simp [fail, recorded] at h

/-! ### What a dispatch is backed by -/

theorem backed_of_envelope (hjson : ∀ message, tag rt authToken message ∈ presentedTags rt json →
      ∃ m ∈ signed, m.bytes = message)
    (h : .dispatched actionType target ∈ (handleExecuteEnvelope rt authToken s client json).2) :
    Backed rt signed client.verifiedAt actionType target := by
  obtain ⟨authorizedAction, hverified, hnamed⟩ := handleExecuteEnvelope_dispatched h
  obtain ⟨action, -, hfresh, -, htag, hopen⟩ := verify_accepted_iff.mp hverified
  obtain ⟨m, hm, hbytes⟩ := hjson _ (List.mem_append_left _ (Option.mem_toList.mpr htag))
  rw [signed_of_bytes hbytes] at hm
  have hparse : rt.json.parse action = some authorizedAction := by
    unfold openAction at hopen
    cases hparse : rt.json.parse action with
    | none => simp [hparse] at hopen
    | some opened =>
      simp only [hparse] at hopen
      split at hopen
      · cases hopen
      · rw [Verification.accepted.inj hopen]
  have hbacked := Backed.envelope _ _ action authorizedAction hm hparse (fresh_of_window hfresh)
  rwa [hnamed] at hbacked

theorem validatePayload_authorized {now : I64}
    (h : validatePayload rt now json authToken = some .actionAuthorized) :
    hasFreshActionWindow rt now json = true ∧
      hasValidActionSignature rt json authToken = some true := by
  unfold validatePayload at h
  split at h
  · cases h
  · split at h
    · cases h
    · split at h
      · cases h
      · rename_i hfresh
        obtain ⟨valid, hvalid, hverdict⟩ := Option.map_eq_some_iff.mp h
        cases valid with
        | false => cases hverdict
        | true => exact ⟨by simpa using hfresh, hvalid⟩

/-- The input that the signature is checked against is about the action that is parsed. -/
theorem rebuiltInput_parsed
    (h : ActionExecutorBridge.parseAuthorizedAction rt json = some ⟨actionType, target⟩)
    {input : KString} (hinput : rebuiltInput rt json = some input) :
    ∃ urgency, input = canonicalActionSignatureInput (issuedAt rt json) (expiresAt rt json)
      actionType (target.getD []) urgency := by
  obtain ⟨action, haction, hparsed⟩ := Option.bind_eq_some_iff.mp h
  obtain ⟨actionType', htype, hfields⟩ := Option.map_eq_some_iff.mp hparsed
  obtain ⟨rfl, rfl⟩ := ActionExecutorBridge.ParsedAction.mk.inj hfields
  rw [rebuiltInput, haction, Option.bind_some, htype, Option.bind_some] at hinput
  obtain ⟨urgency, -, rfl⟩ := Option.map_eq_some_iff.mp hinput
  refine ⟨urgency, ?_⟩
  rw [signedTarget, issuedAt, expiresAt]
  split <;> rfl

theorem backed_of_action (hjson : ∀ message, tag rt authToken message ∈ presentedTags rt json →
      ∃ m ∈ signed, m.bytes = message)
    (h : .dispatched actionType target ∈ (handleAuthorizedAction rt authToken s client json).2) :
    Backed rt signed client.verifiedAt actionType target := by
  obtain ⟨hverdict, hparsed⟩ := handleAuthorizedAction_dispatched h
  obtain ⟨hfresh, hsignature⟩ := validatePayload_authorized hverdict
  have haction : (!has json "action" || isNull json "action") = false := by
    cases hmissing : !has json "action" || isNull json "action" with
    | false => rfl
    | true => simp [hasFreshActionWindow, hmissing] at hfresh
  rw [hasFreshActionWindow_iff rt _ json haction] at hfresh
  rw [hasValidActionSignature_eq] at hsignature
  split at hsignature
  · rename_i supplied input hsupplied hinput
    obtain ⟨expected, hexpected, hequal⟩ := Option.map_eq_some_iff.mp hsignature
    obtain ⟨-, hexpected⟩ := hmacSha256Hex_eq_some.mp hexpected
    rw [hexpected, constantTimeEquals_hex] at hequal
    have hpresented : tag rt authToken (toByteArray input) ∈ presentedTags rt json := by
      rw [presentedTags, hsupplied, Option.map_some, hequal]
      exact List.mem_append_right _ (List.mem_singleton_self _)
    obtain ⟨m, hm, hbytes⟩ := hjson _ hpresented
    obtain ⟨urgency, hrebuilt⟩ := rebuiltInput_parsed hparsed hinput
    rw [hrebuilt] at hbytes
    exact .action _ _ actionType urgency target m hm hbytes (names_of_bytes hbytes)
      (fresh_of_window hfresh)
  · cases hsignature

theorem handleClient_backed (hclient : Honest rt authToken signed client)
    (h : .dispatched actionType target ∈ (handleClient rt authToken s client).2) :
    Backed rt signed client.verifiedAt actionType target := by
  unfold handleClient at h
  split at h
  · simp [fail, recorded] at h
  · simp [fail, recorded] at h
  · simp [fail, recorded] at h
  · rename_i payload hpayload
    unfold handlePayload at h
    split at h
    · simp [fail, recorded] at h
    · split at h
      · simp [fail, recorded] at h
      · rename_i json hparse
        have hjson := hclient payload json hpayload hparse
        split at h
        · exact backed_of_envelope hjson h
        · exact backed_of_action hjson h

end

/-- In no run, from no state of the limiter and for no clients, is an action dispatched that
nobody who holds the key signed, or outside the window it was signed for, as long as the
clients cannot make right tags of their own. -/
theorem server_dispatches_backed (rt : Runtime) (authToken : KString)
    (signed : List SignedMessage) (s : AuthLimiter) (clients : List Client)
    (hclients : ∀ client ∈ clients, Honest rt authToken signed client) :
    ∀ service ∈ ((server rt authToken).run s clients).2, ∀ actionType target,
      .dispatched actionType target ∈ service.notes →
        Backed rt signed service.client.verifiedAt actionType target := by
  have hall := Machine.run_forall₂ (server rt authToken)
    (R := fun _ service => ∀ actionType target, .dispatched actionType target ∈ service.notes →
      Backed rt signed service.client.verifiedAt actionType target)
    (fun s client hclient => ⟨⟨client, (handleClient rt authToken s client).2⟩, rfl,
      fun _ _ h => handleClient_backed (hclients client hclient) h⟩) s
  intro service hservice
  obtain ⟨i, hi, rfl⟩ := List.getElem_of_mem hservice
  exact (List.forall₂_iff_get.mp hall).2 i (hall.length_eq ▸ hi) hi

/-! ### One signed action -/

theorem inRange_issued : -2 ^ 63 ≤ (1000 : Int) ∧ (1000 : Int) < 2 ^ 63 := by decide

theorem inRange_expires : -2 ^ 63 ≤ (61000 : Int) ∧ (61000 : Int) < 2 ^ 63 := by decide

theorem inRange_verified : -2 ^ 63 ≤ (2000 : Int) ∧ (2000 : Int) < 2 ^ 63 := by decide

def signedAction : String := "\x7b\"action\":\x7b\"action_type\":\"NoOp\"\x7d\x7d"

def signedActionObject : JSONObject :=
  [(kstr "action", .object [(kstr "action_type", .string (kstr "NoOp"))])]

def signedTag : KString :=
  Utf16.encode (Framing.hex (sampleRuntime.hmacSha256 (toByteArray (kstr "shared key"))
    (envelopeBytes ⟨1000, inRange_issued⟩ ⟨61000, inRange_expires⟩ signedAction)))

def signedHead : String := "\x7b\"message_type\":\"execute\",\"auth\":\x7b\"hmac_sha256\":\""

def signedTail : String := "\"\x7d,\"issued_at_ms\":1000,\"expires_at_ms\":61000," ++
  "\"action\":\"\x7b\\\"action\\\":\x7b\\\"action_type\\\":\\\"NoOp\\\"\x7d\x7d\"\x7d"

def signedText : KString := kstr signedHead ++ (signedTag ++ kstr signedTail)

def signedObject : JSONObject :=
  [(kstr "message_type", .string (kstr "execute")),
    (kstr "auth", .object [(kstr "hmac_sha256", .string signedTag)]),
    (kstr "issued_at_ms", .long ⟨1000, inRange_issued⟩),
    (kstr "expires_at_ms", .long ⟨61000, inRange_expires⟩),
    (kstr "action", .string (kstr signedAction))]

def signedRuntime : Runtime where
  json := { sampleRuntime.json with
    parse := fun s =>
      if s = signedText then some signedObject
      else if s = kstr signedAction then some signedActionObject
      else none }
  lowercase := sampleRuntime.lowercase
  hmacSha256 := sampleRuntime.hmacSha256

def signedClient : Client := clientAt ⟨2000, inRange_verified⟩ [.chars signedText, .endOfStream]

theorem presentedTags_signedObject :
    presentedTags signedRuntime signedObject = [tag sampleRuntime (kstr "shared key")
      (envelopeBytes ⟨1000, by decide⟩ ⟨61000, by decide⟩ signedAction)] := by
  have hshown : isNotBlank signedTag = true := isNotBlank_hex (sampleRuntime_tags.nonempty _ _)
  have hlower : sampleRuntime.lowercase signedTag = signedTag := sampleRuntime_tags.lowercase _
  have htag : toByteArray signedTag = tag sampleRuntime (kstr "shared key")
      (envelopeBytes ⟨1000, by decide⟩ ⟨61000, by decide⟩ signedAction) := toByteArray_hex _
  have hblank : isNotBlank [] = false := rfl
  simp [presentedTags, presentedTag, suppliedHmac, optJSONObject, optString, signedObject,
    takeIfNotBlank, hshown, hlower, htag, hblank, signedRuntime]

theorem signedClient_honest : Honest signedRuntime (kstr "shared key")
    [.envelope ⟨1000, by decide⟩ ⟨61000, by decide⟩ signedAction] signedClient := by
  intro payload json _ hparse message hmessage
  simp only [signedRuntime] at hparse
  split at hparse
  · cases hparse
    rw [presentedTags_signedObject, List.mem_singleton] at hmessage
    have htag : ∀ m, tag signedRuntime (kstr "shared key") m =
        tag sampleRuntime (kstr "shared key") m := by
      intro m
      simp only [tag, signedRuntime]
    rw [htag] at hmessage
    have hsame := tag_injective sampleRuntime_tags.injective _ hmessage
    rw [hsame]
    exact ⟨_, List.mem_singleton_self _, rfl⟩
  · split at hparse
    · cases hparse
      have hblank : isNotBlank [] = false := rfl
      simp [presentedTags, presentedTag, suppliedHmac, optJSONObject, optString,
        signedActionObject, takeIfNotBlank, hblank] at hmessage
    · cases hparse

theorem server_dispatches_backed_signed :
    (∀ client ∈ [signedClient], Honest signedRuntime (kstr "shared key")
      [.envelope ⟨1000, by decide⟩ ⟨61000, by decide⟩ signedAction] client) ∧
    ∀ service ∈ ((server signedRuntime (kstr "shared key")).run .new [signedClient]).2,
      ∀ actionType target, .dispatched actionType target ∈ service.notes →
        Backed signedRuntime [.envelope ⟨1000, by decide⟩ ⟨61000, by decide⟩ signedAction]
          service.client.verifiedAt actionType target := by
  have hhonest : ∀ client ∈ [signedClient], Honest signedRuntime (kstr "shared key")
      [.envelope ⟨1000, by decide⟩ ⟨61000, by decide⟩ signedAction] client :=
    fun _ hclient => List.mem_singleton.mp hclient ▸ signedClient_honest
  exact ⟨hhonest, server_dispatches_backed _ _ _ _ _ hhonest⟩

end AuthorizedActionSocketServer

end Dipecs.Device
