import Dipecs.Device.AuthBackoff
import Dipecs.Library.Keyed

/-! How the server reads a payload: what it gets, and so whatever it does, is the same in
whatever pieces the text arrives. -/

namespace Dipecs.Device

open Dipecs.Library

namespace AuthorizedActionSocketServer

def IsPayload (rt : Runtime) (text : KString) : Prop :=
  trimUnits text ≠ [] ∧ (rt.json.parse (trimUnits text)).isSome

instance (rt : Runtime) (text : KString) : Decidable (IsPayload rt text) :=
  inferInstanceAs (Decidable (_ ∧ _))

/-- No part of the text is a payload before all of it is there, blanks aside. -/
def Whole (rt : Runtime) (text : KString) : Prop :=
  ∀ part, part <+: text → IsPayload rt part → trimUnits part = trimUnits text

/-- The text is whole if it fits, and if not, no part of it that fits is a payload. -/
def Undivided (rt : Runtime) (text : KString) : Prop :=
  text.length ≤ maxPayloadChars ∧ Whole rt text ∨
    maxPayloadChars < text.length ∧
      ∀ part, part <+: text → part.length ≤ maxPayloadChars → ¬IsPayload rt part

/-- The same text in other pieces, and then the same end. -/
structure Resegmented (rt : Runtime) (client client' : Client) : Prop where
  same : client' = { client with reads := client'.reads }
  pieces : ∃ (chunks chunks' : List KString) (ending : List SocketRead),
    client.reads = chunks.map .chars ++ ending ∧
    client'.reads = chunks'.map .chars ++ ending ∧ chunks'.flatten = chunks.flatten ∧
    Undivided rt chunks.flatten

section
variable {rt : Runtime} {authToken : KString} {s : AuthLimiter}

theorem readPayload_segments (pre : KString) (chunks : List KString) (ending : List SocketRead)
    (hlength : (pre ++ chunks.flatten).length ≤ maxPayloadChars)
    (hwhole : Whole rt (pre ++ chunks.flatten)) (hpre : ¬IsPayload rt pre) :
    readPayload rt pre (chunks.map .chars ++ ending) =
      if IsPayload rt (pre ++ chunks.flatten) then .text (trimUnits (pre ++ chunks.flatten))
      else readPayload rt (pre ++ chunks.flatten) ending := by
  induction chunks generalizing pre with
  | nil =>
    rw [List.flatten_nil, List.append_nil, if_neg hpre]
    rfl
  | cons chunk chunks ih =>
    rw [List.flatten_cons, ← List.append_assoc] at hlength hwhole ⊢
    have hfits : ¬(pre ++ chunk).length > maxPayloadChars := by
      rw [List.length_append] at hlength
      omega
    rw [List.map_cons, List.cons_append, readPayload, if_neg hfits]
    by_cases hpart : IsPayload rt (pre ++ chunk)
    · -- all that is still to come is blank
      have htrim := hwhole _ (List.prefix_append _ _) hpart
      have hall : IsPayload rt (pre ++ chunk ++ chunks.flatten) := by
        rwa [IsPayload, ← htrim]
      rw [if_pos hall, ← htrim]
      exact if_pos hpart
    · rw [← ih (pre ++ chunk) hlength hwhole hpart]
      exact if_neg hpart

theorem readPayload_tooLarge (pre : KString) {chunks : List KString}
    (ending : List SocketRead) (hpre : pre.length ≤ maxPayloadChars)
    (hlong : maxPayloadChars < (pre ++ chunks.flatten).length)
    (hnone : ∀ part, part <+: pre ++ chunks.flatten → part.length ≤ maxPayloadChars →
      ¬IsPayload rt part) :
    readPayload rt pre (chunks.map .chars ++ ending) = .payloadTooLarge := by
  induction chunks generalizing pre with
  | nil =>
    rw [List.flatten_nil, List.append_nil] at hlong
    omega
  | cons chunk chunks ih =>
    rw [List.flatten_cons, ← List.append_assoc] at hlong hnone
    rw [List.map_cons, List.cons_append, readPayload]
    split
    · rfl
    · rename_i hfits
      have hpart := hnone (pre ++ chunk) (List.prefix_append _ _) (Nat.le_of_not_lt hfits)
      rw [← ih (pre ++ chunk) (Nat.le_of_not_lt hfits) hlong hnone]
      exact if_neg hpart

theorem readPayload_resegmented {client client' : Client} (h : Resegmented rt client client') :
    readPayload rt [] client'.reads = readPayload rt [] client.reads := by
  obtain ⟨chunks, chunks', ending, hreads, hreads', hflatten, hundivided⟩ := h.pieces
  rw [hreads, hreads']
  obtain ⟨hlength, hwhole⟩ | ⟨hlong, hnone⟩ := hundivided
  · have hempty : ¬IsPayload rt [] := fun h => h.1 rfl
    have hleft := readPayload_segments [] chunks ending hlength hwhole hempty
    have hright := readPayload_segments [] chunks' ending (hflatten ▸ hlength) (hflatten ▸ hwhole)
      hempty
    rw [List.nil_append] at hleft hright
    rw [hleft, hright, hflatten]
  · have hleft := readPayload_tooLarge [] ending (Nat.zero_le _) hlong hnone
    rw [← hflatten] at hlong hnone
    rw [hleft, readPayload_tooLarge [] ending (Nat.zero_le _) hlong hnone]

theorem handleClient_resegmented {client client' : Client} (h : Resegmented rt client client') :
    handleClient rt authToken s client' = handleClient rt authToken s client := by
  unfold handleClient
  rw [readPayload_resegmented h, h.same]
  rfl

end

/-- Whatever pieces the texts of the clients come in, the server answers and records the same,
and its limiter is left the same. -/
theorem server_ignores_segments (rt : Runtime) (authToken : KString) (s : AuthLimiter)
    (clients clients' : List Client) (h : List.Forall₂ (Resegmented rt) clients clients') :
    ((server rt authToken).run s clients').1 = ((server rt authToken).run s clients).1 ∧
      ((server rt authToken).run s clients').2.map Service.notes =
        ((server rt authToken).run s clients).2.map Service.notes := by
  have hstep : ∀ s t client client', s = t → Resegmented rt client client' →
      ((server rt authToken).step s client).1 = ((server rt authToken).step t client').1 ∧
      List.Forall₂ (fun a b : Service => a.notes = b.notes)
        ((server rt authToken).step s client).2 ((server rt authToken).step t client').2 := by
    rintro s _ client client' rfl hclient
    simp only [server, handleClient_resegmented hclient]
    exact ⟨trivial, .cons rfl .nil⟩
  obtain ⟨hstate, hnotes⟩ := Machine.run_related (R := Eq) hstep (s := s) rfl h
  exact ⟨hstate.symm, (map_eq_map_of_forall₂ hnotes).symm⟩

theorem server_ignores_segments_split :
    let client := jsonClient ⟨2000, by decide⟩
    let client' := { client with
      reads := [.chars (kstr "\x7b"), .chars (kstr "\x7d"), .endOfStream] }
    ((server emptyRuntime []).run .new [client']).2.map Service.notes =
      ((server emptyRuntime []).run .new [client]).2.map Service.notes := by
  refine (server_ignores_segments emptyRuntime [] .new _ _ (.cons ⟨rfl, [kstr "\x7b\x7d"],
    [kstr "\x7b", kstr "\x7d"], [.endOfStream], rfl, rfl, by decide, .inl ⟨by decide, ?_⟩⟩ .nil)).2
  intro part _ hpayload
  have hparsed := hpayload.2
  simp only [emptyRuntime] at hparsed
  split at hparsed
  · rename_i htrim
    rw [htrim]
    decide
  · cases hparsed

end AuthorizedActionSocketServer

end Dipecs.Device
