import Dipecs.Action.AndroidAdapter

/-! Reading the device's response: the adapter stops at the end of the stream, or at the first
read after which it has a whole JSON value. -/

namespace Dipecs.Action

open Dipecs.Spec Dipecs.Core Dipecs.Library

/-- `serde_json::from_slice` on what has been read: whether it is a JSON value at all, and as
a response. -/
structure ResponseSerde where
  isValue : List UInt8 → Bool
  response : List UInt8 → Except String BridgeExecuteResponse

inductive ReadResult
  | data (chunk : List UInt8)
  | timedOut (error : String)
  | failed (error : String)

/-- A connection: whether the request got out, and the reads up to the end of the stream. -/
structure BridgeStream where
  peer : String
  requested : Except String Unit
  reads : List ReadResult

namespace AndroidAdapter

def maxResponseBytes : Nat := 4096

def exceeded : String := "bridge response exceeded 4096 bytes"

def readError (peer error : String) : String :=
  "read bridge response from " ++ peer ++ ": " ++ error

def readLoop (serde : ResponseSerde) (peer : String) :
    List ReadResult → List UInt8 → Except String (List UInt8)
  | [], buf => .ok buf
  | .data chunk :: reads, buf =>
    if buf.length + chunk.length > maxResponseBytes then .error exceeded
    else if serde.isValue (buf ++ chunk) then .ok (buf ++ chunk)
    else readLoop serde peer reads (buf ++ chunk)
  | .timedOut error :: _, buf =>
    if buf.isEmpty then .error (readError peer error) else .ok buf
  | .failed error :: _, _ => .error (readError peer error)

def closed (peer : String) : String := "bridge " ++ peer ++ " closed without response"

def sendRequest (serde : ResponseSerde) (stream : BridgeStream) : Except String (List UInt8) :=
  match stream.requested with
  | .error error => .error error
  | .ok () =>
    match readLoop serde stream.peer stream.reads [] with
    | .error error => .error error
    | .ok buf => if buf.isEmpty then .error (closed stream.peer) else .ok buf

def parseResponse (serde : ResponseSerde) (raw : List UInt8) :
    Except String BridgeExecuteResponse :=
  match serde.response raw with
  | .error error => .error ("parse bridge response: " ++ error)
  | .ok response => .ok response

def overStream (host : Host) (serde : ResponseSerde) (stream : BridgeStream) : Host :=
  { host with exchange := fun _ => (sendRequest serde stream).bind (parseResponse serde) }

/-- The reads of a stream that ends without an error, each of some bytes of a buffer of 1024. -/
structure Splits (bytes : List UInt8) (chunks : List (List UInt8)) : Prop where
  flatten : chunks.flatten = bytes
  ne_nil : ∀ chunk ∈ chunks, chunk ≠ []
  length_le : ∀ chunk ∈ chunks, chunk.length ≤ 1024

def streamOf (peer : String) (requested : Except String Unit) (chunks : List (List UInt8)) :
    BridgeStream :=
  ⟨peer, requested, chunks.map .data⟩

section
variable {serde : ResponseSerde} {peer : String} {chunks : List (List UInt8)}
  {buf raw : List UInt8}

theorem readLoop_ok (h : readLoop serde peer (chunks.map .data) buf = .ok raw) :
    ∃ taken rest, chunks = taken ++ rest ∧ raw = buf ++ taken.flatten ∧
      (taken = [] ∨ raw.length ≤ maxResponseBytes) ∧
      (rest = [] ∨ taken ≠ [] ∧ serde.isValue raw = true) := by
  induction chunks generalizing buf with
  | nil => exact ⟨[], [], rfl, by simpa [readLoop, eq_comm] using h, .inl rfl, .inl rfl⟩
  | cons chunk chunks ih =>
    rw [List.map_cons, readLoop] at h
    split at h
    · cases h
    · rename_i hfits
      split at h
      · rename_i hvalue
        obtain rfl := Except.ok.inj h
        refine ⟨[chunk], chunks, rfl, by simp, .inr ?_, .inr ⟨by simp, hvalue⟩⟩
        rw [List.length_append]
        exact not_lt.mp hfits
      · obtain ⟨taken, rest, rfl, hraw, hlength, hrest⟩ := ih h
        refine ⟨chunk :: taken, rest, rfl, by simpa using hraw, .inr ?_,
          hrest.imp_right fun h => ⟨by simp, h.2⟩⟩
        rcases hlength with rfl | hlength
        · rw [hraw]
          simpa using not_lt.mp hfits
        · exact hlength

theorem readLoop_error {error : String}
    (h : readLoop serde peer (chunks.map .data) buf = .error error) :
    error = exceeded ∧ maxResponseBytes < (buf ++ chunks.flatten).length := by
  induction chunks generalizing buf with
  | nil => cases h
  | cons chunk chunks ih =>
    rw [List.map_cons, readLoop] at h
    split at h
    · refine ⟨(Except.error.inj h).symm, ?_⟩
      rw [List.flatten_cons, List.length_append, List.length_append]
      omega
    · split at h
      · cases h
      · simpa using ih h

theorem sendRequest_ok {requested : Except String Unit}
    (h : sendRequest serde (streamOf peer requested chunks) = .ok raw) :
    requested = .ok () ∧ raw ≠ [] ∧ raw.length ≤ maxResponseBytes ∧
      ∃ taken rest, chunks = taken ++ rest ∧ raw = taken.flatten ∧
        (rest = [] ∨ serde.isValue raw = true) := by
  unfold sendRequest streamOf at h
  cases requested with
  | error error => cases h
  | ok requested =>
    cases hloop : readLoop serde peer (chunks.map .data) [] with
    | error error => simp [hloop] at h
    | ok buf =>
      obtain ⟨taken, rest, hchunks, hraw, hlength, hrest⟩ := readLoop_ok hloop
      rw [List.nil_append] at hraw
      simp only [hloop] at h
      split at h
      · cases h
      · rename_i hne
        obtain rfl := Except.ok.inj h
        have hnonempty : buf ≠ [] := fun h => hne (by simp [h])
        refine ⟨rfl, hnonempty, hlength.resolve_left fun h => ?_, taken, rest, hchunks, hraw,
          hrest.imp_right And.right⟩
        exact hnonempty (by simpa [h] using hraw)

theorem sendRequest_error {requested : Except String Unit} {error : String}
    (hne : ∀ chunk ∈ chunks, chunk ≠ [])
    (h : sendRequest serde (streamOf peer requested chunks) = .error error) :
    requested = .error error ∨ requested = .ok () ∧
      (chunks.flatten = [] ∧ error = closed peer ∨
        maxResponseBytes < chunks.flatten.length ∧ error = exceeded) := by
  unfold sendRequest streamOf at h
  cases requested with
  | error e =>
    obtain rfl := Except.error.inj h
    exact .inl rfl
  | ok requested =>
    refine .inr ⟨rfl, ?_⟩
    cases hloop : readLoop serde peer (chunks.map .data) [] with
    | error e =>
      obtain ⟨herror, hlength⟩ := readLoop_error hloop
      simp only [hloop] at h
      obtain rfl := Except.error.inj h
      exact .inr ⟨by simpa using hlength, herror⟩
    | ok buf =>
      simp only [hloop] at h
      split at h
      · -- without a byte read there was no read at all
        rename_i hempty
        obtain ⟨taken, rest, hchunks, hraw, -, hrest⟩ := readLoop_ok hloop
        rw [List.isEmpty_iff.mp hempty, List.nil_append, eq_comm, List.flatten_eq_nil_iff] at hraw
        have htaken : taken = [] := by
          refine List.eq_nil_iff_forall_not_mem.mpr fun chunk hchunk => ?_
          exact hne chunk (hchunks ▸ List.mem_append_left _ hchunk) (hraw chunk hchunk)
        have hnone : rest = [] := hrest.resolve_right fun h => h.1 htaken
        exact .inl ⟨by simp [hchunks, htaken, hnone], (Except.error.inj h).symm⟩
      · cases h

end

def wholeResponse (serde : ResponseSerde) (peer : String) (requested : Except String Unit)
    (bytes : List UInt8) : Except String BridgeExecuteResponse :=
  match requested with
  | .error error => .error error
  | .ok () =>
    if bytes = [] then .error (closed peer)
    else if maxResponseBytes < bytes.length then .error exceeded
    else parseResponse serde bytes

/-- Whatever start of the stream is a JSON value by itself reads as the whole stream does. -/
def ReadsWhole (serde : ResponseSerde) (bytes : List UInt8) : Prop :=
  ∀ p, p <+: bytes → p ≠ [] → p.length ≤ maxResponseBytes → serde.isValue p = true →
    bytes.length ≤ maxResponseBytes ∧ serde.response p = serde.response bytes

theorem exchange_whole {serde : ResponseSerde} {bytes : List UInt8} {chunks : List (List UInt8)}
    (hwhole : ReadsWhole serde bytes) (hsplits : Splits bytes chunks) (peer : String)
    (requested : Except String Unit) :
    (sendRequest serde (streamOf peer requested chunks)).bind (parseResponse serde) =
      wholeResponse serde peer requested bytes := by
  cases hsent : sendRequest serde (streamOf peer requested chunks) with
  | ok raw =>
    obtain ⟨rfl, hne, hlength, taken, rest, hchunks, hraw, hend⟩ := sendRequest_ok hsent
    have hprefix : raw <+: bytes :=
      ⟨rest.flatten, by rw [hraw, ← List.flatten_append, ← hchunks, hsplits.flatten]⟩
    have hsame : bytes.length ≤ maxResponseBytes ∧ serde.response raw = serde.response bytes := by
      rcases hend with hrest | hvalue
      · have hall : raw = bytes := by rw [hraw, ← hsplits.flatten, hchunks, hrest, List.append_nil]
        exact ⟨hall ▸ hlength, hall ▸ rfl⟩
      · exact hwhole raw hprefix hne hlength hvalue
    have hbytes : bytes ≠ [] := fun h => hne (List.prefix_nil.mp (h ▸ hprefix))
    simp only [wholeResponse, hbytes, if_false, not_lt.mpr hsame.1, Except.bind, parseResponse,
      hsame.2]
  | error error =>
    have herror := sendRequest_error hsplits.ne_nil hsent
    rw [hsplits.flatten] at herror
    rcases herror with rfl | ⟨rfl, ⟨hbytes, rfl⟩ | ⟨hlength, rfl⟩⟩
    · rfl
    · simp [wholeResponse, hbytes, Except.bind]
    · have hbytes : bytes ≠ [] := fun h => by simp [h] at hlength
      simp [wholeResponse, hbytes, hlength, Except.bind]

theorem forward_ok {host : Host} {authorized : AuthorizedAction} {outcome : ActionOutcome}
    (h : forward host authorized = .ok outcome) :
    ∃ request response, host.exchange request = .ok response ∧ response.status = .ok := by
  unfold forward at h
  split at h
  · cases h
  · rename_i response hexchange
    cases hrequest : request host authorized with
    | error error => simp [hrequest, Except.bind] at hexchange
    | ok r =>
      rw [hrequest] at hexchange
      refine ⟨r, response, hexchange, ?_⟩
      by_contra hstatus
      obtain ⟨error, herror⟩ : ∃ error, ofResponse authorized.action response = .error error :=
        ofResponse_isError hstatus
      rw [herror] at h
      cases h

theorem parseResponse_ok {serde : ResponseSerde} {raw : List UInt8}
    {response : BridgeExecuteResponse} (h : parseResponse serde raw = .ok response) :
    serde.response raw = .ok response := by
  unfold parseResponse at h
  split at h
  · cases h
  · rename_i hresponse
    rw [hresponse, Except.ok.inj h]

def SaysOk (serde : ResponseSerde) (bytes : List UInt8) : Prop :=
  bytes.length ≤ maxResponseBytes ∧
    ∃ response, serde.response bytes = .ok response ∧ response.status = .ok

/-- An action is confirmed only by one whole response with status ok, which is the stream, or a
start of it that is a JSON value and ends where a read ended.  Streams whose starts that are
JSON values, if any, read as they do themselves are taken the same however they are split, and
confirm an action only as a whole. -/
theorem forward_reads (host : Host) (serde : ResponseSerde) (peer : String)
    (requested : Except String Unit) (authorized : AuthorizedAction) (bytes : List UInt8) :
    (∀ chunks, Splits bytes chunks → ∀ outcome,
      forward (overStream host serde (streamOf peer requested chunks)) authorized = .ok outcome →
      ∃ taken rest, chunks = taken ++ rest ∧ SaysOk serde taken.flatten ∧
        (rest = [] ∨ serde.isValue taken.flatten = true)) ∧
    (ReadsWhole serde bytes →
      (∀ chunks chunks', Splits bytes chunks → Splits bytes chunks' →
        forward (overStream host serde (streamOf peer requested chunks)) authorized =
          forward (overStream host serde (streamOf peer requested chunks')) authorized) ∧
      ∀ chunks, Splits bytes chunks → ∀ outcome,
        forward (overStream host serde (streamOf peer requested chunks)) authorized = .ok outcome →
        SaysOk serde bytes) := by
  refine ⟨fun chunks hsplits outcome h => ?_, fun hwhole => ⟨fun chunks chunks' h h' => ?_,
    fun chunks hsplits outcome h => ?_⟩⟩
  · obtain ⟨_, response, hexchange, hstatus⟩ := forward_ok h
    cases hsent : sendRequest serde (streamOf peer requested chunks) with
    | error error => simp [overStream, hsent, Except.bind] at hexchange
    | ok raw =>
      simp only [overStream, hsent, Except.bind] at hexchange
      obtain ⟨-, -, hlength, taken, rest, hchunks, rfl, hend⟩ := sendRequest_ok hsent
      exact ⟨taken, rest, hchunks, ⟨hlength, response, parseResponse_ok hexchange, hstatus⟩, hend⟩
  · unfold overStream
    rw [exchange_whole hwhole h, exchange_whole hwhole h']
  · obtain ⟨_, response, hexchange, hstatus⟩ := forward_ok h
    simp only [overStream, exchange_whole hwhole hsplits, wholeResponse] at hexchange
    split at hexchange
    · cases hexchange
    · split_ifs at hexchange with hempty hlength
      exact ⟨not_lt.mp hlength, response, parseResponse_ok hexchange, hstatus⟩

namespace TrailingSample

def response : List UInt8 :=
  [0x7b, 0x22, 0x73, 0x74, 0x61, 0x74, 0x75, 0x73, 0x22, 0x3a, 0x22, 0x6f, 0x6b, 0x22, 0x7d]

def trailing : List UInt8 := response ++ [0x78]

def serde : ResponseSerde where
  isValue bytes := bytes = response
  response bytes :=
    if bytes = response then .ok ⟨.ok, none, none, none⟩
    else .error "trailing characters at line 1 column 16"

def host : Host where
  authKey := some "key"
  toJson _ := .ok "action"
  issuedAtMs := .ok (.wrap 0)
  hmac _ _ := [0]
  exchange _ := .error "connection refused"

def authorized : AuthorizedAction where
  intentId := "i"
  coord := ⟨0, 0, 0⟩
  action := ⟨.keepAlive, some "work:collector_heartbeat", .immediate⟩
  effect := .localStateChange
  authorizedAtMs := 0

def forwarded (chunks : List (List UInt8)) : Except AdapterError ActionOutcome :=
  forward (overStream host serde (streamOf "127.0.0.1:46321" (.ok ()) chunks)) authorized

theorem splits_two : Splits trailing [response, [0x78]] := ⟨rfl, by decide, by decide⟩

theorem splits_one : Splits trailing [trailing] := ⟨rfl, by decide, by decide⟩

end TrailingSample

theorem forward_reads_response :
    TrailingSample.forwarded [TrailingSample.response.take 7, TrailingSample.response.drop 7] =
        TrailingSample.forwarded [TrailingSample.response] ∧
      SaysOk TrailingSample.serde TrailingSample.response := by
  have hwhole : ReadsWhole TrailingSample.serde TrailingSample.response := by
    intro p _ _ hlength hvalue
    obtain rfl : p = TrailingSample.response := of_decide_eq_true hvalue
    exact ⟨hlength, rfl⟩
  obtain ⟨hsame, hok⟩ := (forward_reads TrailingSample.host TrailingSample.serde "127.0.0.1:46321"
    (.ok ()) TrailingSample.authorized TrailingSample.response).2 hwhole
  exact ⟨hsame _ _ ⟨rfl, by decide, by decide⟩ ⟨rfl, by decide, by decide⟩,
    hok [TrailingSample.response] ⟨rfl, by decide, by decide⟩ _ rfl⟩

/-- The response is confirmed if it comes in a read of its own, and refused if the rest comes
with it. -/
theorem forward_splits_differ :
    ¬ ((∀ chunks chunks', Splits TrailingSample.trailing chunks →
        Splits TrailingSample.trailing chunks' →
        TrailingSample.forwarded chunks = TrailingSample.forwarded chunks') ∧
      ∀ chunks, Splits TrailingSample.trailing chunks →
        ∀ outcome, TrailingSample.forwarded chunks = .ok outcome →
        SaysOk TrailingSample.serde TrailingSample.trailing) := by
  rintro ⟨hsame, -⟩
  have hchunks := hsame _ _ TrailingSample.splits_two TrailingSample.splits_one
  exact absurd hchunks (by decide)

end AndroidAdapter

end Dipecs.Action
