import Dipecs.Bridge.Completion

/-! Runs of calls: what is reported of them, and that they are carried out. -/

namespace Dipecs.Bridge

open Dipecs.Spec Dipecs.Core Dipecs.Library Dipecs.Action Dipecs.Device
open AuthorizedActionSocketServer BridgeExecuteProtocol

section runs
variable {w : Wire}

end runs

def sampleRequest : BridgeExecuteRequest :=
  AndroidAdapter.buildRequest sampleRuntime.hmacSha256 "shared key" ⟨1000, inRange_issued⟩
    sampleText

def requestHead : String :=
  "essage_type\":\"execute\",\"issued_at_ms\":1000,\"expires_at_ms\":61000," ++
    "\"auth\":\x7b\"hmac_sha256\":\""

def requestTail : String :=
  "\"\x7d,\"action\":\"\x7b\\\"intent_id\\\":\\\"intent-1\\\",\\\"coord\\\":" ++
    "\x7b\\\"window_ordinal\\\":0,\\\"intent_ordinal\\\":0,\\\"action_ordinal\\\":0\x7d," ++
    "\\\"action\\\":\x7b\\\"action_type\\\":\\\"PrefetchFile\\\"," ++
    "\\\"target\\\":\\\"url:https://example.org/?q\\\",\\\"urgency\\\":\\\"IdleTime\\\"\x7d," ++
    "\\\"effect\\\":\\\"LocalCacheWrite\\\",\\\"authorized_at_ms\\\":1000\x7d\""

def requestMiddle : String := requestHead ++ sampleRequest.hmacSha256 ++ requestTail

def sampleRequestText : String := "\x7b\"m" ++ requestMiddle ++ "\x7d"

def sampleResponseBytes : List UInt8 :=
  Utf8.encode
    "\x7b\"status\":\"ok\",\"summary\":\"prefetch_enqueued\",\"latency_us\":120\x7d".toList

def wireRuntime : Runtime where
  json := { sampleRuntime.json with
    parse := fun s =>
      if s = kstr sampleRequestText then some (received id sampleRequest.toJson)
      else if s = kstr sampleText then some (ofFields id sampleAction.fields)
      else none }
  lowercase := sampleRuntime.lowercase
  hmacSha256 := sampleRuntime.hmacSha256

def sampleWire : Wire where
  rt := wireRuntime
  wide := id
  authToken := kstr "shared key"
  host := sampleHost
  serde :=
    { isValue := fun bytes => bytes = sampleResponseBytes
      response := fun bytes =>
        if bytes = sampleResponseBytes then .ok ⟨.ok, some "prefetch_enqueued", some 120, none⟩
        else .error "EOF while parsing an object at line 1 column 1" }
  peer := "127.0.0.1:46321"
  requestText _ := sampleRequestText
  responseText _ :=
    "\x7b\"status\":\"ok\",\"summary\":\"prefetch_enqueued\",\"latency_us\":120\x7d"

def sampleClient : Client :=
  clientAt ⟨2000, inRange_verified⟩ [.chars (kstr sampleRequestText), .endOfStream]

def wholeCall : Call where
  authorized := sampleAction
  issuedAtMs := .ok ⟨1000, inRange_issued⟩
  requested := .ok ()
  arrival := some sampleClient
  latencyUs := ⟨120, by decide⟩
  reads := [.data sampleResponseBytes]

theorem kstr_sampleRequestText :
    kstr sampleRequestText = [0x7b, 0x22, 0x6d] ++ kstr requestMiddle ++ [0x7d] := by
  rw [sampleRequestText, kstr_append, kstr_append]
  rfl

theorem trimUnits_prefix {u : UInt16} {s : KString}
    (hu : isWhitespace (Char.ofNat u.toNat) = false) : trimUnits (u :: s) <+: u :: s := by
  have hdrop : (u :: s).dropWhile (fun u => isWhitespace (Char.ofNat u.toNat)) = u :: s :=
    List.dropWhile_cons_of_neg (by simp [hu])
  rw [trimUnits, hdrop, ← List.reverse_suffix, List.reverse_reverse]
  exact List.dropWhile_suffix _

theorem trimUnits_eq_self {u v : UInt16} {s : KString}
    (hu : isWhitespace (Char.ofNat u.toNat) = false)
    (hv : isWhitespace (Char.ofNat v.toNat) = false) :
    trimUnits (u :: (s ++ [v])) = u :: (s ++ [v]) := by
  have hdrop : (u :: (s ++ [v])).dropWhile (fun u => isWhitespace (Char.ofNat u.toNat)) =
      u :: (s ++ [v]) := List.dropWhile_cons_of_neg (by simp [hu])
  have hend : (u :: (s ++ [v])).reverse = v :: (s.reverse ++ [u]) := by simp
  rw [trimUnits, hdrop, hend, List.dropWhile_cons_of_neg (by simp [hv]), ← hend,
    List.reverse_reverse]

theorem trimUnits_sampleRequestText :
    trimUnits (kstr sampleRequestText) = kstr sampleRequestText := by
  rw [kstr_sampleRequestText]
  exact trimUnits_eq_self (by decide) (by decide)

theorem sampleHead_eq : sampleHead = "\x7b\"i" ++
    ("ntent_id\":\"intent-1\",\"coord\":\x7b\"window_ordinal\":0,\"intent_ordinal\":0," ++
      "\"action_ordinal\":0\x7d,\"action\":\x7b\"action_type\":\"PrefetchFile\"," ++
      "\"target\":\"url:https://example.org/") := by
  decide +kernel

theorem sampleText_units : ∃ rest, kstr sampleText = [0x7b, 0x22, 0x69] ++ rest := by
  have hopening : kstr "\x7b\"i" = [0x7b, 0x22, 0x69] := by decide +kernel
  rw [sampleText, sampleHead_eq, kstr_append, kstr_append, kstr_append, hopening,
    List.append_assoc, List.append_assoc]
  exact ⟨_, rfl⟩

theorem sampleText_not_prefix : ¬kstr sampleText <+: kstr sampleRequestText := by
  obtain ⟨rest, hrest⟩ := sampleText_units
  rw [hrest, kstr_sampleRequestText, List.append_assoc]
  simp

theorem isPayload_prefix {part : KString} (hpart : part <+: kstr sampleRequestText)
    (h : IsPayload wireRuntime part) : part = kstr sampleRequestText := by
  have htrim : trimUnits part <+: part := by
    cases part with
    | nil => exact List.prefix_rfl
    | cons u part =>
      rw [kstr_sampleRequestText] at hpart
      obtain rfl := (List.cons_prefix_cons.mp hpart).1
      exact trimUnits_prefix (by decide)
  have hparsed := h.2
  simp only [wireRuntime] at hparsed
  split at hparsed
  · rename_i hsame
    rw [hsame] at htrim
    exact hpart.eq_of_length_le htrim.length_le
  · split at hparsed
    · rename_i hsame
      rw [hsame] at htrim
      exact absurd (htrim.trans hpart) sampleText_not_prefix
    · cases hparsed

theorem sampleText_ne_sampleRequestText : kstr sampleText ≠ kstr sampleRequestText := by
  intro h
  have hprefix := sampleText_not_prefix
  rw [h] at hprefix
  exact hprefix List.prefix_rfl

theorem wireRuntime_understands : Understands wireRuntime sampleHost id where
  hmac := by
    simp only [wireRuntime]
    exact sampleHost_understood.hmac
  opening := sampleHost_understood.opening
  parse authorized text h := by
    simp only [sampleHost] at h
    split at h
    · obtain rfl := Except.ok.inj h
      subst authorized
      simp [wireRuntime, sampleText_ne_sampleRequestText]
    · cases h

theorem wireRuntime_tags : TagModel wireRuntime where
  injective key := by
    simp only [wireRuntime]
    exact sampleRuntime_tags.injective key
  nonempty key message := by
    simp only [wireRuntime]
    exact sampleRuntime_tags.nonempty key message
  lowercase bytes := by
    simp only [wireRuntime]
    exact sampleRuntime_tags.lowercase bytes

theorem wholeCall_readsRequest : sampleWire.ReadsRequest sampleRequest where
  parse := by simp only [Wire.requestUnits, sampleWire, wireRuntime, if_true]
  trimmed := by
    simp only [Wire.requestUnits, sampleWire]
    exact trimUnits_sampleRequestText
  notBlank := by
    simp only [Wire.requestUnits, sampleWire]
    rw [kstr_sampleRequestText]
    exact isNotBlank_append_of_left (isNotBlank_append_of_left (by decide))
  whole part hpart hpayload := by
    simp only [Wire.requestUnits, sampleWire] at hpart hpayload ⊢
    exact isPayload_prefix hpart hpayload

theorem wholeCall_executed :
    wholeCall.executed sampleClient = ⟨true, "prefetch_enqueued", 0, none⟩ := by
  have hshown : isBlank "url:https://example.org/?q" = false := by decide +kernel
  simp [Call.executed, wholeCall, sampleAction, ActionType.debug, ActionExecutorBridge.dispatch,
    hshown, SystemActionExecutors.prefetchFile, sampleClient, clientAt, idlePhone]

theorem sampleWire_responseBytes (status : String) (summary error : Option String)
    (latencyUs : I64) :
    sampleWire.responseBytes status summary error latencyUs = sampleResponseBytes := by
  simp only [Wire.responseBytes, sampleWire, sampleResponseBytes]

theorem sampleWire_readsResponse :
    sampleWire.ReadsResponse ⟨120, by decide⟩ BridgeStatus.ok.name (some "prefetch_enqueued")
      none where
  latency := by decide
  parse response h := by
    rw [fromJson_responseJson .ok _ _ (by decide)] at h
    rw [sampleWire_responseBytes]
    simp only [sampleWire, if_true, ← Option.some.inj h]
    rfl
  part p _ hne response h := by
    rw [sampleWire_responseBytes] at hne
    simp only [sampleWire, if_neg hne] at h
    cases h

def canonicalHead (issuedAtMs expiresAtMs : I64) (bytes : Nat) : String :=
  "dipecs.android.bridge.execute.v1\nissued_at_ms:" ++ toString issuedAtMs.val ++
    "\nexpires_at_ms:" ++ toString expiresAtMs.val ++ "\naction:" ++ toString bytes ++ ":"

theorem size_canonical (issuedAtMs expiresAtMs : I64) (text : String) :
    (AndroidAdapter.canonicalExecuteEnvelopeInput issuedAtMs expiresAtMs text).utf8ByteSize =
      (canonicalHead issuedAtMs expiresAtMs text.utf8ByteSize).utf8ByteSize + text.utf8ByteSize :=
  (congrArg (fun bytes => (canonicalHead issuedAtMs expiresAtMs bytes ++ text).utf8ByteSize)
    (Utf8.length_encode_toList text)).trans String.utf8ByteSize_append

theorem length_tag_le (key text : String) (issuedAtMs : I64) :
    (kstr (AndroidAdapter.buildRequest sampleRuntime.hmacSha256 key issuedAtMs
      text).hmacSha256).length ≤
      4 * (key.utf8ByteSize + 1 + (AndroidAdapter.canonicalExecuteEnvelopeInput issuedAtMs
        (I64.wrap (issuedAtMs.val + AndroidAdapter.payloadTtlMs)) text).utf8ByteSize) := by
  let message := AndroidAdapter.canonicalExecuteEnvelopeInput issuedAtMs
    (I64.wrap (issuedAtMs.val + AndroidAdapter.payloadTtlMs)) text
  let bytes := sampleRuntime.hmacSha256 (Utf8.encode key.toList) (Utf8.encode message.toList)
  have hbytes : bytes.length = key.utf8ByteSize + 1 + message.utf8ByteSize := by
    simp only [bytes, sampleRuntime, List.length_append, List.length_cons,
      Utf8.length_encode_toList]
    omega
  have hunits := Utf16.length_encode_le_two_mul (Framing.hex bytes)
  rw [Framing.length_hex, hbytes] at hunits
  simp only [AndroidAdapter.buildRequest, kstr, AndroidAdapter.computeHmac, String.toList_ofList]
  exact hunits.trans_eq (Nat.mul_assoc 2 2 _).symm

theorem length_sampleTag : (kstr sampleRequest.hmacSha256).length ≤ 5000 := by
  have hkey : "shared key".utf8ByteSize ≤ 10 := by decide +kernel
  have htext : sampleText.utf8ByteSize = 241 := by decide +kernel
  have hhead : (canonicalHead ⟨1000, by decide⟩ ⟨61000, by decide⟩
      sampleText.utf8ByteSize).utf8ByteSize ≤ 200 := by
    rw [htext]
    decide +kernel
  have hbound : ∀ key head text : Nat, key ≤ 10 → head ≤ 200 → text = 241 →
      4 * (key + 1 + (head + text)) ≤ 5000 := by omega
  refine (length_tag_le "shared key" sampleText ⟨1000, by decide⟩).trans ?_
  rw [size_canonical]
  exact hbound _ _ _ hkey hhead htext

theorem length_kstr_le (s : String) : (kstr s).length ≤ s.utf8ByteSize :=
  (Utf16.length_encode_le s.toList).trans_eq (Utf8.length_encode_toList s)

theorem length_sampleRequestText : (kstr sampleRequestText).length ≤ maxPayloadChars := by
  have hhead : requestHead.utf8ByteSize ≤ 200 := by decide +kernel
  have htail : requestTail.utf8ByteSize ≤ 1000 := by decide +kernel
  have hhead := (length_kstr_le requestHead).trans hhead
  have htail := (length_kstr_le requestTail).trans htail
  have htag := length_sampleTag
  have hbound : ∀ head tag tail : KString, head.length ≤ 200 → tag.length ≤ 5000 →
      tail.length ≤ 1000 →
      ([0x7b, 0x22, 0x6d] ++ (head ++ tag ++ tail) ++ [0x7d]).length ≤ maxPayloadChars := by
    intro head tag tail hhead htag htail
    simp only [List.length_append, List.length_cons, List.length_nil, maxPayloadChars]
    omega
  rw [kstr_sampleRequestText, requestMiddle, kstr_append, kstr_append]
  exact hbound _ _ _ hhead htag htail

theorem sampleClient_reads :
    sampleClient.reads = [kstr sampleRequestText].map .chars ++ [.endOfStream] := by
  simp only [sampleClient, clientAt, List.map_cons, List.map_nil, List.singleton_append]

theorem sampleWire_requestUnits (request : BridgeExecuteRequest) :
    sampleWire.requestUnits request = kstr sampleRequestText := by
  simp only [Wire.requestUnits, sampleWire]

theorem wholeCall_getsThrough : GetsThrough sampleWire wholeCall sampleClient sampleRequest where
  arrival := by simp only [wholeCall]
  made := by
    simp only [Wire.request, Wire.hostOf, wholeCall, sampleWire, AndroidAdapter.request,
      sampleHost, if_true, sampleRequest]
  readsRequest := wholeCall_readsRequest
  chunks := by
    refine ⟨[kstr sampleRequestText], [.endOfStream], sampleClient_reads, ?_⟩
    rw [sampleWire_requestUnits, List.flatten_singleton]
  size := by
    rw [sampleWire_requestUnits]
    exact length_sampleRequestText
  issued := by
    simp only [sampleRequest, AndroidAdapter.buildRequest]
    decide
  inWindow := by
    simp only [sampleRequest, AndroidAdapter.buildRequest, sampleClient, clientAt]
    decide
  requested := by simp only [wholeCall]
  readsResponse := by
    rw [wholeCall_executed]
    exact sampleWire_readsResponse
  oneValue p _ hvalue := by
    rw [Wire.executedBytes, sampleWire_responseBytes]
    simp only [sampleWire, decide_eq_true_eq] at hvalue
    exact hvalue
  nonempty := by
    rw [Wire.executedBytes, sampleWire_responseBytes]
    decide +kernel
  fits := by
    rw [Wire.executedBytes, sampleWire_responseBytes]
    decide +kernel
  reads := by
    rw [Wire.executedBytes, sampleWire_responseBytes]
    refine ⟨[sampleResponseBytes], ⟨List.append_nil _, ?_, ?_⟩, by simp only [wholeCall,
      List.map_cons, List.map_nil]⟩
    · decide +kernel
    · decide +kernel

section runs
variable {w : Wire} {s : AuthLimiter} {authKey : String}

/-- The call gets through, and at a time at which the server does not turn everything down. -/
def Timely (w : Wire) (s : AuthLimiter) (call : Call) : Prop :=
  ∃ client request, GetsThrough w call client request ∧ 0 ≤ client.checkedAt.val ∧
    s.rejectUntilMs.val ≤ client.checkedAt.val

theorem run_carriedOut (htags : TagModel w.rt) (hunder : Understands w.rt w.host w.wide)
    (hkey : w.host.authKey = some authKey) (htoken : w.authToken = kstr authKey)
    (hshown : isNotBlank (kstr authKey) = true) {calls : List Call}
    (h : ∀ call ∈ calls, Timely w s call) :
    List.Forall₂ (CarriedOut w) calls (w.bridge.run s calls).2 ∧
      (calls = [] ∧ (w.bridge.run s calls).1 = s ∨ (w.bridge.run s calls).1 = .new) := by
  refine Machine.run_history
    (fun pre out s' => List.Forall₂ (CarriedOut w) pre out ∧ (pre = [] ∧ s' = s ∨ s' = .new)) ?_
    ⟨.nil, .inl ⟨rfl, rfl⟩⟩ (Machine.along_of_forall _ h s)
  rintro pre out s' call ⟨hpre, hstate⟩ ⟨client, request, hthrough, hclock, hbackoff⟩
  have hlimited : isRateLimited s' client.checkedAt = false := by
    refine decide_eq_false (not_lt.mpr ?_)
    obtain ⟨-, rfl⟩ | rfl := hstate
    · exact hbackoff
    · exact hclock
  have hserve := hthrough.handleClient (s := s') htags hunder hkey htoken hshown hlimited
  refine ⟨List.rel_append hpre (.cons (hthrough.carriedOut hserve) .nil), .inr ?_⟩
  exact congrArg Prod.fst hserve

theorem deeds_eq {calls : List Call} {exchanges : List Exchange}
    (h : List.Forall₂ (CarriedOut w) calls exchanges) :
    (exchanges.flatMap fun e => dispatchedOf e.notes) = calls.map Call.deed := by
  induction h with
  | nil => rfl
  | cons hcall _ ih => rw [List.flatMap_cons, List.map_cons, ih, hcall.once, List.singleton_append]

end runs

/-- Calls of which nothing is lost, with the key of the device and outside its backoff, are all
carried out, in order and each once, and what comes of each is what is reported; the limiter
is then reset. -/
theorem calls_carried_out (w : Wire) (authKey : String) (htags : TagModel w.rt)
    (hunder : Understands w.rt w.host w.wide) (hkey : w.host.authKey = some authKey)
    (htoken : w.authToken = kstr authKey) (hshown : isNotBlank (kstr authKey) = true)
    (s : AuthLimiter) (calls : List Call) (h : ∀ call ∈ calls, Timely w s call) :
    List.Forall₂ (CarriedOut w) calls (w.bridge.run s calls).2 ∧
      ((w.bridge.run s calls).2.flatMap fun e => dispatchedOf e.notes) = calls.map Call.deed ∧
      (calls ≠ [] → (w.bridge.run s calls).1 = .new) := by
  obtain ⟨hcalls, hstate⟩ := run_carriedOut htags hunder hkey htoken hshown h
  exact ⟨hcalls, deeds_eq hcalls, fun hne => hstate.resolve_left fun hnil => hne hnil.1⟩

theorem calls_carried_out_twice :
    List.Forall₂ (CarriedOut sampleWire) [wholeCall, wholeCall]
        (sampleWire.bridge.run .new [wholeCall, wholeCall]).2 ∧
      ((sampleWire.bridge.run .new [wholeCall, wholeCall]).2.flatMap fun e =>
        dispatchedOf e.notes) = [wholeCall, wholeCall].map Call.deed ∧
      (sampleWire.bridge.run .new [wholeCall, wholeCall]).1 = .new := by
  have htimely : ∀ call ∈ [wholeCall, wholeCall], Timely sampleWire .new call := by
    intro call hcall
    have hsame : call = wholeCall := by simpa using hcall
    exact ⟨sampleClient, sampleRequest, hsame ▸ wholeCall_getsThrough, by decide, by decide⟩
  obtain ⟨hcalls, hdeeds, hreset⟩ := calls_carried_out sampleWire "shared key" wireRuntime_tags
    wireRuntime_understands (by simp only [sampleWire, sampleHost]) (by simp only [sampleWire])
    (by decide) .new _ htimely
  exact ⟨hcalls, hdeeds, hreset (by simp)⟩

end Dipecs.Bridge
