import Dipecs.Action.AndroidAdapter
import Dipecs.Cli.AndroidBridge
import Dipecs.Device.Freshness
import Dipecs.Device.Tags

/-! What the tag of an execute envelope binds: issue time, expiry and the bytes of the action,
hence the action itself as long as its code units are those of a Unicode string. -/

namespace Dipecs.Device

open Dipecs.Spec Dipecs.Core Dipecs.Action Dipecs.Library

/-! ### Canonical bytes -/

/-- What a key holder may have put under its key. -/
inductive SignedMessage
  | envelope (issuedAtMs expiresAtMs : I64) (action : String)
  | deviceAction (issuedAtMs expiresAtMs : I64) (actionType target urgency : KString)
  | cliAction (issuedAtMs expiresAtMs : I64) (actionType target urgency : String)

def envelopeBytes (issuedAtMs expiresAtMs : I64) (action : String) : List UInt8 :=
  Utf8.encode
    (AndroidAdapter.canonicalExecuteEnvelopeInput issuedAtMs expiresAtMs action).toList

def SignedMessage.bytes : SignedMessage → List UInt8
  | .envelope issuedAtMs expiresAtMs action => envelopeBytes issuedAtMs expiresAtMs action
  | .deviceAction issuedAtMs expiresAtMs actionType target urgency =>
    toByteArray (AuthorizedActionSocketServer.canonicalActionSignatureInput issuedAtMs expiresAtMs
      actionType target urgency)
  | .cliAction issuedAtMs expiresAtMs actionType target urgency =>
    Utf8.encode (Cli.AndroidBridge.canonicalActionInput issuedAtMs expiresAtMs actionType target
      urgency).toList

theorem toList_append₈ (a b c d e f g h : String) :
    (a ++ b ++ c ++ d ++ e ++ f ++ g ++ h).toList = a.toList ++ (b.toList ++ (c.toList ++
      (d.toList ++ (e.toList ++ (f.toList ++ (g.toList ++ h.toList)))))) := by
  simp only [String.toList_append, List.append_assoc]

theorem canonical_toList (issuedAtMs expiresAtMs : I64) (action : String) :
    (AndroidAdapter.canonicalExecuteEnvelopeInput issuedAtMs expiresAtMs action).toList =
      "dipecs.android.bridge.execute.v1\nissued_at_ms:".toList ++
        (Framing.decimal issuedAtMs.val ++ ("\nexpires_at_ms:".toList ++
          (Framing.decimal expiresAtMs.val ++ ("\naction:".toList ++
            (Framing.decimal (Utf8.encode action.toList).length ++
              (":".toList ++ action.toList)))))) :=
  toList_append₈ _ _ _ _ _ _ _ _

theorem envelopeBytes_injective :
    Function.Injective fun t : I64 × I64 × String => envelopeBytes t.1 t.2.1 t.2.2 := by
  rintro ⟨i, e, a⟩ ⟨i', e', a'⟩ h
  have hlist := Utf8.encode_injective h
  simp only [canonical_toList] at hlist
  obtain ⟨hi, hlist⟩ := (Framing.separated_inj (by decide +kernel)
    (Framing.newline_notMem_decimal _) (Framing.newline_notMem_decimal _)).mp
    (List.append_cancel_left hlist)
  obtain ⟨he, hlist⟩ := (Framing.separated_inj (by decide +kernel)
    (Framing.newline_notMem_decimal _) (Framing.newline_notMem_decimal _)).mp hlist
  obtain ⟨-, ha⟩ := (Framing.separated_inj (by decide +kernel)
    (Framing.colon_notMem_decimal _) (Framing.colon_notMem_decimal _)).mp hlist
  rw [Subtype.ext (Framing.decimal_injective hi), Subtype.ext (Framing.decimal_injective he),
    String.toList_inj.mp ha]

/-- Both sides sign the same bytes; an unpaired surrogate counts as what it is encoded as. -/
theorem toByteArray_canonical (issuedAtMs expiresAtMs : I64) (action : KString) :
    toByteArray (BridgeExecuteProtocol.canonicalExecuteEnvelopeInput issuedAtMs expiresAtMs
      action) = envelopeBytes issuedAtMs expiresAtMs (replaced action) := by
  rw [BridgeExecuteProtocol.canonicalExecuteEnvelopeInput, toByteArray_kstr_append, envelopeBytes,
    toByteArray_eq action, ← Utf8.encode_append, ← String.toList_append]
  rfl

def legacyHeader : String := "dipecs.android.action.v1\nissued_at_ms:"

theorem kstr_append₇ (a b c d e f g : String) (rest : KString) :
    ∃ rest', kstr (a ++ b ++ c ++ d ++ e ++ f ++ g) ++ rest = kstr a ++ rest' := by
  simp only [kstr_append, List.append_assoc]
  exact ⟨_, rfl⟩

theorem toList_append₁₆ (a b c d e f g h i j k l m n o p : String) : ∃ rest,
    (a ++ b ++ c ++ d ++ e ++ f ++ g ++ h ++ i ++ j ++ k ++ l ++ m ++ n ++ o ++ p).toList =
      a.toList ++ rest := by
  simp only [String.toList_append, List.append_assoc]
  exact ⟨_, rfl⟩

theorem canonicalActionInput_header (issuedAtMs expiresAtMs : I64)
    (actionType target urgency : String) : ∃ rest,
    (Cli.AndroidBridge.canonicalActionInput issuedAtMs expiresAtMs actionType target
      urgency).toList = legacyHeader.toList ++ rest :=
  toList_append₁₆ _ _ _ _ _ _ _ _ _ _ _ _ _ _ _ _

theorem canonicalActionSignatureInput_header (issuedAtMs expiresAtMs : I64)
    (actionType target urgency : KString) : ∃ rest,
    AuthorizedActionSocketServer.canonicalActionSignatureInput issuedAtMs expiresAtMs actionType
      target urgency = kstr legacyHeader ++ rest := by
  simp only [AuthorizedActionSocketServer.canonicalActionSignatureInput, List.append_assoc]
  exact kstr_append₇ _ _ _ _ _ _ _ _

theorem bytes_legacy {m : SignedMessage}
    (h : ∀ issuedAtMs expiresAtMs action, m ≠ .envelope issuedAtMs expiresAtMs action) :
    ∃ rest, m.bytes = Utf8.encode (legacyHeader.toList ++ rest) := by
  cases m with
  | envelope i e a => exact absurd rfl (h i e a)
  | deviceAction i e actionType target urgency =>
    obtain ⟨rest, hrest⟩ := canonicalActionSignatureInput_header i e actionType target urgency
    refine ⟨Utf16.decode '?' rest, ?_⟩
    rw [SignedMessage.bytes, hrest, toByteArray_kstr_append, Utf8.encode_append]
    rfl
  | cliAction i e actionType target urgency =>
    obtain ⟨rest, hrest⟩ := canonicalActionInput_header i e actionType target urgency
    rw [SignedMessage.bytes, hrest]
    exact ⟨rest, rfl⟩

theorem envelopeBytes_ne_legacy (issuedAtMs expiresAtMs : I64) (action : String)
    (rest : List Char) :
    envelopeBytes issuedAtMs expiresAtMs action ≠ Utf8.encode (legacyHeader.toList ++ rest) := by
  intro h
  have hlist := Utf8.encode_injective h
  rw [canonical_toList] at hlist
  have htake := congrArg (List.take 16) hlist
  rw [List.take_append_of_le_length (by decide +kernel),
    List.take_append_of_le_length (by decide +kernel)] at htake
  revert htake
  decide +kernel

/-! ### Tags -/

namespace BridgeExecuteProtocol

def presentedTag (rt : Runtime) (payload : JSONObject) : Option (List UInt8) :=
  (suppliedHmac rt payload).map fun supplied => toByteArray (rt.lowercase supplied)

theorem verify_accepted_iff {rt : Runtime} {now : I64} {payload : JSONObject} {key : KString}
    {authorized : JSONObject} :
    verifyExecuteEnvelope rt now payload key = some (.accepted authorized) ↔
      ∃ action, actionString payload = some action ∧
        validateFreshnessWindow (issuedAt rt payload) (expiresAt rt payload) now = none ∧
        toByteArray key ≠ [] ∧
        presentedTag rt payload = some (tag rt key (envelopeBytes (issuedAt rt payload)
          (expiresAt rt payload) (replaced action))) ∧
        openAction rt action = .accepted authorized := by
  unfold verifyExecuteEnvelope presentedTag
  cases actionString payload with
  | none => simp
  | some action =>
    cases validateFreshnessWindow (issuedAt rt payload) (expiresAt rt payload) now with
    | some reason => simp
    | none =>
      cases suppliedHmac rt payload with
      | none => simp
      | some supplied =>
        simp only [Option.map_eq_some_iff, hmacSha256Hex_eq_some, Option.some.injEq,
          Option.map_some, exists_eq_left', true_and, and_assoc]
        rw [← toByteArray_canonical, ← constantTimeEquals_hex]
        constructor
        · rintro ⟨expected, hkey, rfl, hopen⟩
          split at hopen
          · exact ⟨hkey, ‹_›, hopen⟩
          · simp at hopen
        · rintro ⟨hkey, htag, hopen⟩
          exact ⟨_, hkey, rfl, by rw [if_pos htag, hopen]⟩

/-! ### Binding -/

/-- What is taken of the code around the tags. -/
structure TagModel (rt : Runtime) : Prop where
  injective : ∀ key, Function.Injective (rt.hmacSha256 key)
  nonempty : ∀ key message, rt.hmacSha256 key message ≠ []
  lowercase : ∀ bytes, rt.lowercase (Utf16.encode (Framing.hex bytes)) =
    Utf16.encode (Framing.hex bytes)

/-- A tag that is right was made for a message that a key holder signed. -/
def Unforged (rt : Runtime) (key : KString) (signed : List SignedMessage)
    (payload : JSONObject) : Prop :=
  ∀ message, presentedTag rt payload = some (tag rt key message) →
    ∃ m ∈ signed, m.bytes = message

structure Carries (rt : Runtime) (payload : JSONObject) (issuedAtMs expiresAtMs : I64)
    (action : KString) : Prop where
  action : JSONObject.opt payload "action" = some (.string action)
  issued : issuedAt rt payload = issuedAtMs
  expires : expiresAt rt payload = expiresAtMs

/-- What an accepted envelope is promised to be. -/
structure Bound (signed : List SignedMessage) (issuedAtMs expiresAtMs : I64) (action : KString)
    (now : I64) : Prop where
  isSigned : ∃ s, .envelope issuedAtMs expiresAtMs s ∈ signed ∧ kstr s = action
  positive : issuedAtMs.val < expiresAtMs.val
  bounded : expiresAtMs.val - issuedAtMs.val ≤ maxTtlMs
  inWindow : InWindow issuedAtMs expiresAtMs now

def Binds (rt : Runtime) (key : KString) (issuedAtMs expiresAtMs : I64) (action : KString)
    (now : I64) : Prop :=
  ∀ payload signed authorized, Carries rt payload issuedAtMs expiresAtMs action →
    Unforged rt key signed payload →
    verifyExecuteEnvelope rt now payload key = some (.accepted authorized) →
    Bound signed issuedAtMs expiresAtMs action now

structure Passable (rt : Runtime) (key : KString) (issuedAtMs expiresAtMs : I64)
    (action : KString) (now : I64) : Prop where
  keyed : toByteArray key ≠ []
  shown : isNotBlank action = true
  fresh : validateFreshnessWindow issuedAtMs expiresAtMs now = none
  opens : ∃ authorized, openAction rt action = .accepted authorized

def sealed (rt : Runtime) (key : KString) (issuedAtMs expiresAtMs : I64) (action : KString) :
    JSONObject :=
  [(kstr "action", .string action), (kstr "issued_at_ms", .long issuedAtMs),
    (kstr "expires_at_ms", .long expiresAtMs),
    (kstr "auth", .object [(kstr "hmac_sha256", .string (Utf16.encode (Framing.hex
      (rt.hmacSha256 (toByteArray key)
        (envelopeBytes issuedAtMs expiresAtMs (replaced action))))))])]

variable {rt : Runtime} {key : KString} {issuedAtMs expiresAtMs now : I64} {action : KString}

theorem signed_of_bytes {m : SignedMessage} {s : String}
    (h : m.bytes = envelopeBytes issuedAtMs expiresAtMs s) :
    m = .envelope issuedAtMs expiresAtMs s := by
  by_cases henvelope : ∃ i e t, m = .envelope i e t
  · obtain ⟨i, e, t, rfl⟩ := henvelope
    have htriple : (i, e, t) = (issuedAtMs, expiresAtMs, s) := envelopeBytes_injective h
    obtain ⟨rfl, rfl, rfl⟩ : i = issuedAtMs ∧ e = expiresAtMs ∧ t = s := by simpa using htriple
    rfl
  · obtain ⟨rest, hrest⟩ := bytes_legacy fun i e t heq => henvelope ⟨i, e, t, heq⟩
    exact absurd (h.symm.trans hrest) (envelopeBytes_ne_legacy _ _ _ _)

theorem Carries.actionString {payload : JSONObject}
    (h : Carries rt payload issuedAtMs expiresAtMs action) :
    actionString payload = takeIfNotBlank action := by
  rw [BridgeExecuteProtocol.actionString, h.action]

theorem bound_of_accepted {payload authorized : JSONObject} {signed : List SignedMessage}
    (hwell : Utf16.WellFormed action) (hcarries : Carries rt payload issuedAtMs expiresAtMs action)
    (hunforged : Unforged rt key signed payload)
    (h : verifyExecuteEnvelope rt now payload key = some (.accepted authorized)) :
    Bound signed issuedAtMs expiresAtMs action now := by
  obtain ⟨carried, hcarried, hfresh, -, htag, -⟩ := verify_accepted_iff.mp h
  obtain ⟨-, rfl⟩ := takeIfNotBlank_eq_some.mp (hcarries.actionString.symm.trans hcarried)
  rw [hcarries.issued, hcarries.expires] at hfresh htag
  obtain ⟨m, hm, hbytes⟩ := hunforged _ htag
  obtain ⟨hpos, hlt, hle, hin, -⟩ := validateFreshnessWindow_eq_none.mp hfresh
  rw [signed_of_bytes hbytes] at hm
  exact ⟨⟨_, hm, kstr_replaced_iff.mpr hwell⟩, hlt, hle, hin⟩

theorem suppliedHmac_eq (htags : TagModel rt) {payload : JSONObject} (auth : JSONObject)
    {message key : List UInt8} (hauth : JSONObject.optJSONObject payload "auth" = some auth)
    (h : JSONObject.optString rt.json auth "hmac_sha256" =
      Utf16.encode (Framing.hex (rt.hmacSha256 key message))) :
    suppliedHmac rt payload = some (Utf16.encode (Framing.hex (rt.hmacSha256 key message))) := by
  rw [suppliedHmac, hauth, Option.bind_some, h, takeIfNotBlank,
    if_pos (isNotBlank_hex (htags.nonempty _ _))]

theorem passable_of_accepted {payload authorized : JSONObject}
    (hcarries : Carries rt payload issuedAtMs expiresAtMs action)
    (h : verifyExecuteEnvelope rt now payload key = some (.accepted authorized)) :
    Passable rt key issuedAtMs expiresAtMs action now := by
  obtain ⟨carried, hcarried, hfresh, hkey, -, hopen⟩ := verify_accepted_iff.mp h
  obtain ⟨hshown, rfl⟩ := takeIfNotBlank_eq_some.mp (hcarries.actionString.symm.trans hcarried)
  rw [hcarries.issued, hcarries.expires] at hfresh
  exact ⟨hkey, hshown, hfresh, authorized, hopen⟩

theorem sealed_carries :
    Carries rt (sealed rt key issuedAtMs expiresAtMs action) issuedAtMs expiresAtMs action := by
  constructor
  · simp [sealed]
  · simp [issuedAt, JSONObject.optLong, sealed, JSONObject.toLong]
  · simp [expiresAt, JSONObject.optLong, sealed, JSONObject.toLong]

theorem presentedTag_sealed (htags : TagModel rt) :
    presentedTag rt (sealed rt key issuedAtMs expiresAtMs action) =
      some (tag rt key (envelopeBytes issuedAtMs expiresAtMs (replaced action))) := by
  rw [presentedTag, suppliedHmac_eq htags [(kstr "hmac_sha256", .string _)]
    (by simp [JSONObject.optJSONObject, sealed]; rfl) (by simp [JSONObject.optString]; rfl),
    Option.map_some, htags.lowercase, toByteArray, Utf16.decode_encode]
  rfl

theorem sealed_unforged (htags : TagModel rt) :
    Unforged rt key [.envelope issuedAtMs expiresAtMs (replaced action)]
      (sealed rt key issuedAtMs expiresAtMs action) := by
  intro message h
  rw [presentedTag_sealed htags] at h
  exact ⟨_, List.mem_singleton_self _, tag_injective htags.injective key (Option.some.inj h)⟩

theorem sealed_accepted (htags : TagModel rt)
    (h : Passable rt key issuedAtMs expiresAtMs action now) :
    ∃ authorized, verifyExecuteEnvelope rt now (sealed rt key issuedAtMs expiresAtMs action) key =
      some (.accepted authorized) := by
  obtain ⟨authorized, hopen⟩ := h.opens
  have hcarries : Carries rt (sealed rt key issuedAtMs expiresAtMs action) issuedAtMs expiresAtMs
    action := sealed_carries
  refine ⟨authorized, verify_accepted_iff.mpr ⟨action, ?_, ?_, h.keyed, ?_, hopen⟩⟩
  · rw [hcarries.actionString, takeIfNotBlank, if_pos h.shown]
  · rw [hcarries.issued, hcarries.expires, h.fresh]
  · rw [presentedTag_sealed htags, hcarries.issued, hcarries.expires]

theorem binds_iff (htags : TagModel rt) :
    Binds rt key issuedAtMs expiresAtMs action now ↔
      Utf16.WellFormed action ∨ ¬Passable rt key issuedAtMs expiresAtMs action now := by
  constructor
  · intro hbinds
    by_cases hpass : Passable rt key issuedAtMs expiresAtMs action now
    · left
      obtain ⟨authorized, hauthorized⟩ := sealed_accepted htags hpass
      obtain ⟨s, hs, hsame⟩ :=
        (hbinds _ _ _ sealed_carries (sealed_unforged htags) hauthorized).isSigned
      obtain rfl : s = replaced action := by simpa using hs
      exact kstr_replaced_iff.mp hsame
    · exact .inr hpass
  · rintro (hwell | hpass) payload signed authorized hcarries hunforged haccepted
    · exact bound_of_accepted hwell hcarries hunforged haccepted
    · exact absurd (passable_of_accepted hcarries haccepted) hpass

/-! ### What the adapter builds -/

/-- The device reads an action as the adapter's serializer wrote it, and has its key. -/
structure Understands (rt : Runtime) (host : AndroidAdapter.Host) (wide : UInt64 → UInt64) :
    Prop where
  hmac : host.hmac = rt.hmacSha256
  opening : ∀ authorized text, host.toJson authorized = .ok text →
    text.toList.head? = some '\x7b'
  parse : ∀ authorized text, host.toJson authorized = .ok text →
    rt.json.parse (kstr text) = some (ofFields wide authorized.fields)

theorem request_eq_ok {host : AndroidAdapter.Host} {authorized : AuthorizedAction}
    {request : BridgeExecuteRequest} (h : AndroidAdapter.request host authorized = .ok request) :
    ∃ authKey text issuedAtMs, host.authKey = some authKey ∧ host.toJson authorized = .ok text ∧
      request = AndroidAdapter.buildRequest host.hmac authKey issuedAtMs text := by
  unfold AndroidAdapter.request at h
  split at h
  · cases h
  · split at h
    · cases h
    · split at h
      · cases h
      · cases h
        exact ⟨_, _, _, ‹_›, ‹_›, rfl⟩

theorem Understands.openAction {host : AndroidAdapter.Host} {wide : UInt64 → UInt64}
    (h : Understands rt host wide) {authorized : AuthorizedAction} {text : String}
    (htext : host.toJson authorized = .ok text) :
    openAction rt (kstr text) = .accepted (ofFields wide authorized.fields) := by
  have hobject : JSONObject.optJSONObject (ofFields wide authorized.fields) "action" =
      some (received wide authorized.action.toJson) := by
    simp [JSONObject.optJSONObject, AuthorizedAction.fields, ofFields, SuggestedAction.toJson,
      ofJson, received]
  rw [BridgeExecuteProtocol.openAction, h.parse _ _ htext]
  simp only [hobject]

theorem received_carries {wide : UInt64 → UInt64} {authKey text : String} {hmac} :
    Carries rt (received wide (AndroidAdapter.buildRequest hmac authKey issuedAtMs text).toJson)
      issuedAtMs (I64.wrap (issuedAtMs.val + 60000)) (kstr text) := by
  constructor
  · simp [AndroidAdapter.buildRequest, BridgeExecuteRequest.toJson, received, ofFields, ofJson]
  · simp [AndroidAdapter.buildRequest, BridgeExecuteRequest.toJson, received, ofFields, issuedAt,
      JSONObject.optLong, ofJson_intJson, JSONObject.toLong]
  · simp [AndroidAdapter.buildRequest, BridgeExecuteRequest.toJson, received, ofFields, expiresAt,
      JSONObject.optLong, ofJson_intJson, JSONObject.toLong, AndroidAdapter.payloadTtlMs]

theorem presentedTag_received (htags : TagModel rt) {wide : UInt64 → UInt64}
    {authKey text : String} :
    presentedTag rt (received wide
      (AndroidAdapter.buildRequest rt.hmacSha256 authKey issuedAtMs text).toJson) =
      some (tag rt (kstr authKey)
        (envelopeBytes issuedAtMs (I64.wrap (issuedAtMs.val + 60000)) text)) := by
  let message := envelopeBytes issuedAtMs (I64.wrap (issuedAtMs.val + 60000)) text
  have hmac : kstr (AndroidAdapter.computeHmac rt.hmacSha256 authKey message) =
      Utf16.encode (Framing.hex (rt.hmacSha256 (toByteArray (kstr authKey)) message)) := by
    rw [toByteArray_kstr, kstr, AndroidAdapter.computeHmac, String.toList_ofList]
  have hauth : JSONObject.optJSONObject (received wide
      (AndroidAdapter.buildRequest rt.hmacSha256 authKey issuedAtMs text).toJson) "auth" =
      some [(kstr "hmac_sha256",
        .string (kstr (AndroidAdapter.computeHmac rt.hmacSha256 authKey message)))] := by
    simp [JSONObject.optJSONObject, AndroidAdapter.buildRequest, BridgeExecuteRequest.toJson,
      received, ofFields, ofJson, message, envelopeBytes, AndroidAdapter.payloadTtlMs]
  have hsupplied := suppliedHmac_eq htags _ hauth (by simpa [JSONObject.optString] using hmac)
  rw [presentedTag, hsupplied, Option.map_some, htags.lowercase, toByteArray,
    Utf16.decode_encode, tag, toByteArray_kstr]

theorem received_accepted (htags : TagModel rt) {host : AndroidAdapter.Host}
    {wide : UInt64 → UInt64} (h : Understands rt host wide) {authorized : AuthorizedAction}
    {authKey text : String} (htext : host.toJson authorized = .ok text)
    (hkey : isNotBlank (kstr authKey) = true) :
    verifyExecuteEnvelope rt now
      (received wide (AndroidAdapter.buildRequest host.hmac authKey issuedAtMs text).toJson)
      (kstr authKey) = some (.accepted (ofFields wide authorized.fields)) ↔
    validateFreshnessWindow issuedAtMs (I64.wrap (issuedAtMs.val + 60000)) now = none := by
  have hcarries : Carries rt (received wide
      (AndroidAdapter.buildRequest host.hmac authKey issuedAtMs text).toJson) issuedAtMs
      (I64.wrap (issuedAtMs.val + 60000)) (kstr text) := received_carries
  rw [verify_accepted_iff, hcarries.actionString, hcarries.issued, hcarries.expires, h.hmac,
    presentedTag_received htags]
  constructor
  · rintro ⟨-, -, hfresh, -⟩
    exact hfresh
  · intro hfresh
    refine ⟨kstr text, ?_, hfresh, toByteArray_ne_nil hkey, ?_, h.openAction htext⟩
    · rw [takeIfNotBlank, if_pos (isNotBlank_kstr_of_head (h.opening _ _ htext))]
    · rw [replaced_kstr]

def AcceptedThroughout (rt : Runtime) (wide : UInt64 → UInt64) (authorized : AuthorizedAction)
    (request : BridgeExecuteRequest) (authKey : String) : Prop :=
  ∀ now, InWindow request.issuedAtMs request.expiresAtMs now →
    verifyExecuteEnvelope rt now (received wide request.toJson) (kstr authKey) =
      some (.accepted (ofFields wide authorized.fields))

theorem acceptedThroughout_iff (htags : TagModel rt) {host : AndroidAdapter.Host}
    {wide : UInt64 → UInt64} {authorized : AuthorizedAction} {request : BridgeExecuteRequest}
    {authKey : String} (h : Understands rt host wide) (hauth : host.authKey = some authKey)
    (hkey : isNotBlank (kstr authKey) = true)
    (hrequest : AndroidAdapter.request host authorized = .ok request)
    (hpos : 0 < request.issuedAtMs.val) :
    AcceptedThroughout rt wide authorized request authKey ↔
      request.issuedAtMs.val ≤ 2 ^ 63 - 1 - 120000 ∨
        2 ^ 63 - 1 - 60000 < request.issuedAtMs.val := by
  obtain ⟨authKey', text, issuedAtMs, hauth', htext, rfl⟩ := request_eq_ok hrequest
  obtain rfl : authKey = authKey' := Option.some.inj (hauth.symm.trans hauth')
  have hfresh := fresh_throughout_iff issuedAtMs
  rw [and_iff_right (show 0 < issuedAtMs.val from hpos)] at hfresh
  refine Iff.trans (forall_congr' fun now => imp_congr_right fun _ => ?_) hfresh
  exact received_accepted htags h htext hkey

/-- An accepted envelope is a signed one if its action is Unicode text.  A string with an
unpaired surrogate has the bytes of the string with `?` in its place. -/
theorem executeEnvelope_binding_iff {rt : Runtime} (htags : TagModel rt) :
    (∀ issuedAtMs expiresAtMs action,
      toByteArray (canonicalExecuteEnvelopeInput issuedAtMs expiresAtMs (kstr action)) =
        envelopeBytes issuedAtMs expiresAtMs action) ∧
    (Function.Injective fun t : I64 × I64 × String => envelopeBytes t.1 t.2.1 t.2.2) ∧
    (∀ issuedAtMs expiresAtMs action, ∀ m : SignedMessage,
      m.bytes = envelopeBytes issuedAtMs expiresAtMs action →
        m = .envelope issuedAtMs expiresAtMs action) ∧
    (∀ key issuedAtMs expiresAtMs action now,
      Binds rt key issuedAtMs expiresAtMs action now ↔
        Utf16.WellFormed action ∨ ¬Passable rt key issuedAtMs expiresAtMs action now) ∧
    ∀ host wide authorized request authKey, Understands rt host wide →
      host.authKey = some authKey → isNotBlank (kstr authKey) = true →
      AndroidAdapter.request host authorized = .ok request → 0 < request.issuedAtMs.val →
      (AcceptedThroughout rt wide authorized request authKey ↔
        request.issuedAtMs.val ≤ 2 ^ 63 - 1 - 120000 ∨
          2 ^ 63 - 1 - 60000 < request.issuedAtMs.val) := by
  refine ⟨fun i e action => ?_, envelopeBytes_injective, fun i e action m => signed_of_bytes,
    fun key i e action now => binds_iff htags, ?_⟩
  · rw [toByteArray_canonical, replaced_kstr]
  · intro host wide authorized request authKey h hauth hkey hrequest hpos
    exact acceptedThroughout_iff htags h hauth hkey hrequest hpos

/-! An action, and what it is confused with. -/

def sampleAction : AuthorizedAction where
  intentId := "intent-1"
  coord := ⟨0, 0, 0⟩
  action := ⟨.prefetchFile, some "url:https://example.org/?q", .idleTime⟩
  effect := .localCacheWrite
  authorizedAtMs := 1000

def sampleHead : String :=
  "\x7b" ++ "\"intent_id\":\"intent-1\",\"coord\":\x7b\"window_ordinal\":0,\"intent_ordinal\":0," ++
    "\"action_ordinal\":0\x7d,\"action\":\x7b\"action_type\":\"PrefetchFile\"," ++
    "\"target\":\"url:https://example.org/"

def sampleTail : String :=
  "q\",\"urgency\":\"IdleTime\"\x7d,\"effect\":\"LocalCacheWrite\",\"authorized_at_ms\":1000\x7d"

def sampleText : String := sampleHead ++ "?" ++ sampleTail

def surrogateText : KString := kstr sampleHead ++ 0xD800 :: kstr sampleTail

def surrogateObject : JSONObject :=
  [(kstr "intent_id", .string (kstr "intent-1")),
    (kstr "coord", .object [(kstr "window_ordinal", .long zero),
      (kstr "intent_ordinal", .long zero), (kstr "action_ordinal", .long zero)]),
    (kstr "action", .object [(kstr "action_type", .string (kstr "PrefetchFile")),
      (kstr "target", .string (kstr "url:https://example.org/" ++ 0xD800 :: kstr "q")),
      (kstr "urgency", .string (kstr "IdleTime"))]),
    (kstr "effect", .string (kstr "LocalCacheWrite")),
    (kstr "authorized_at_ms", .long ⟨1000, by decide⟩)]

def sampleRuntime : Runtime where
  json :=
    { parse := fun s =>
        if s = kstr sampleText then some (ofFields id sampleAction.fields)
        else if s = surrogateText then some surrogateObject
        else none
      render := fun _ => []
      parseDouble := fun _ => none
      doubleToLong := fun _ => zero }
  lowercase s := s.map fun u => if 65 ≤ u ∧ u ≤ 90 then u + 32 else u
  hmacSha256 key message := key ++ 0 :: message

def sampleHost : AndroidAdapter.Host where
  authKey := some "shared key"
  toJson authorized := if authorized = sampleAction then .ok sampleText else .error "unexpected"
  issuedAtMs := .ok ⟨1000, by decide⟩
  hmac := sampleRuntime.hmacSha256
  exchange _ := .ok ⟨.ok, none, none, none⟩

theorem sampleRuntime_tags : TagModel sampleRuntime where
  injective key m m' h := by
    have htail := List.append_cancel_left h
    exact (List.cons.inj htail).2
  nonempty key message := by simp [sampleRuntime]
  lowercase bytes := by
    have hfixed : ∀ n : Fin 16, (fun u : UInt16 => if 65 ≤ u ∧ u ≤ 90 then u + 32 else u)
        (UInt16.ofNat (Framing.hexDigit n).toNat) = UInt16.ofNat (Framing.hexDigit n).toNat := by
      decide
    refine (List.map_congr_left fun u hu => ?_).trans (List.map_id _)
    obtain ⟨n, rfl⟩ := mem_hex hu
    exact hfixed n

theorem sampleHost_understood : Understands sampleRuntime sampleHost id where
  hmac := rfl
  opening authorized text h := by
    simp only [sampleHost] at h
    split at h
    · obtain rfl := Except.ok.inj h
      rw [sampleText, sampleHead, String.toList_append, String.toList_append, String.toList_append,
        String.toList_append, String.toList_append]
      rfl
    · cases h
  parse authorized text h := by
    simp only [sampleHost] at h
    split at h
    · obtain rfl := Except.ok.inj h
      subst authorized
      simp [sampleRuntime]
    · cases h

theorem replaced_unpaired (head tail : String) :
    replaced (kstr head ++ 0xD800 :: kstr tail) = head ++ "?" ++ tail := by
  have hdecode := Utf16.decode_unpaired (r := '?') (u := 0xD800) (by decide) tail.toList
  rw [← String.toList_inj, replaced, kstr, Utf16.decode_encode_append, kstr, hdecode,
    String.toList_ofList, String.append_assoc, String.toList_append, String.toList_append]
  rfl

theorem sampleHead_opening : sampleHead.toList.head? = some '\x7b' := by
  rw [sampleHead, String.toList_append, String.toList_append, String.toList_append]
  rfl

theorem kstr_sampleText :
    kstr sampleText = kstr sampleHead ++ (0x3f :: kstr sampleTail) := by
  rw [sampleText, kstr_append, kstr_append, List.append_assoc]
  rfl

theorem replaced_surrogateText : replaced surrogateText = sampleText :=
  replaced_unpaired sampleHead sampleTail

theorem sampleText_ne_surrogateText : surrogateText ≠ kstr sampleText := by
  rw [kstr_sampleText, surrogateText]
  intro h
  have hunit := (List.cons.inj (List.append_cancel_left h)).1
  revert hunit
  decide

theorem surrogateText_not_wellFormed : ¬Utf16.WellFormed surrogateText := by
  intro h
  rw [← kstr_replaced_iff, replaced_surrogateText] at h
  exact sampleText_ne_surrogateText h.symm

theorem surrogateText_passable : Passable sampleRuntime (kstr "shared key") ⟨1000, by decide⟩
    ⟨61000, by decide⟩ surrogateText ⟨2000, by decide⟩ where
  keyed := toByteArray_ne_nil (by decide)
  shown := isNotBlank_append_of_left (isNotBlank_kstr_of_head sampleHead_opening)
  fresh := by decide
  opens := by
    have hparse : sampleRuntime.json.parse surrogateText = some surrogateObject := by
      simp [sampleRuntime, sampleText_ne_surrogateText]
    refine ⟨surrogateObject, ?_⟩
    rw [openAction, hparse]
    simp [surrogateObject, JSONObject.optJSONObject]

/-- The target with an unpaired surrogate was never signed, the one with `?` was. -/
theorem verifyExecuteEnvelope_accepts_unsigned :
    ∃ payload authorized signed, Carries sampleRuntime payload ⟨1000, by decide⟩
        ⟨61000, by decide⟩ surrogateText ∧
      Unforged sampleRuntime (kstr "shared key") signed payload ∧
      verifyExecuteEnvelope sampleRuntime ⟨2000, by decide⟩ payload (kstr "shared key") =
        some (.accepted authorized) ∧
      signed = [.envelope ⟨1000, by decide⟩ ⟨61000, by decide⟩ sampleText] ∧
      ∀ s, kstr s ≠ surrogateText := by
  obtain ⟨authorized, haccepted⟩ := sealed_accepted sampleRuntime_tags surrogateText_passable
  have hunforged : Unforged sampleRuntime (kstr "shared key")
      [.envelope ⟨1000, by decide⟩ ⟨61000, by decide⟩ (replaced surrogateText)]
      (sealed sampleRuntime (kstr "shared key") ⟨1000, by decide⟩ ⟨61000, by decide⟩
        surrogateText) := sealed_unforged sampleRuntime_tags
  rw [replaced_surrogateText] at hunforged
  exact ⟨_, authorized, _, sealed_carries, hunforged, haccepted, rfl,
    fun s hs => surrogateText_not_wellFormed ⟨_, hs⟩⟩

theorem executeEnvelope_binding_iff_sample :
    Binds sampleRuntime (kstr "shared key") ⟨1000, by decide⟩ ⟨61000, by decide⟩
        (kstr sampleText) ⟨2000, by decide⟩ ∧
      AcceptedThroughout sampleRuntime id sampleAction
        (AndroidAdapter.buildRequest sampleRuntime.hmacSha256 "shared key" ⟨1000, by decide⟩
          sampleText) "shared key" := by
  obtain ⟨-, -, -, hbinds, haccepted⟩ := executeEnvelope_binding_iff sampleRuntime_tags
  exact ⟨(hbinds _ _ _ _ _).mpr (.inl ⟨_, rfl⟩),
    (haccepted _ _ _ _ _ sampleHost_understood rfl (by decide) rfl (by decide)).mpr
      (.inl (by decide))⟩

end BridgeExecuteProtocol

end Dipecs.Device
