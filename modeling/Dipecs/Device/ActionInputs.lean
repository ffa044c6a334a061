import Dipecs.Device.ActionSignature

/-! What the input of an action's signature says: its bytes determine the times and, up to
unpaired surrogates, the three fields, so a signature stands for one action. -/

namespace Dipecs.Device

open Dipecs.Library

namespace AuthorizedActionSocketServer

/-- The text that is signed, where a field is counted in units as the string that it is. -/
def canonicalText (issuedAtMs expiresAtMs : I64) (actionType target urgency : KString) :
    List Char :=
  "dipecs.android.action.v1\nissued_at_ms:".toList ++ (Framing.decimal issuedAtMs.val ++
    ("\nexpires_at_ms:".toList ++ (Framing.decimal expiresAtMs.val ++
      ("\naction_type:".toList ++ (Framing.decimal actionType.length ++ (":".toList ++
        (Utf16.decode '?' actionType ++ ("\ntarget:".toList ++ (Framing.decimal target.length ++
          (":".toList ++ (Utf16.decode '?' target ++ ("\nurgency:".toList ++
            (Framing.decimal urgency.length ++ (":".toList ++
              Utf16.decode '?' urgency))))))))))))))

theorem decode_append_label (s : KString) {label : String} {cs : List Char}
    (h : label.toList = '\n' :: cs) (rest : KString) :
    Utf16.decode '?' (s ++ (kstr label ++ rest)) =
      Utf16.decode '?' s ++ (label.toList ++ Utf16.decode '?' rest) := by
  rw [kstr, h]
  exact Utf16.decode_append_encode (by decide) s cs rest

theorem counted_toList (label : String) (n : Nat) : (label ++ toString n ++ ":").toList =
    label.toList ++ (Framing.decimal n ++ ":".toList) := by
  rw [String.toList_append, String.toList_append, List.append_assoc]
  rfl

theorem header_toList (a b c d e f g : String) : (a ++ b ++ c ++ d ++ e ++ f ++ g).toList =
    a.toList ++ (b.toList ++ (c.toList ++ (d.toList ++ (e.toList ++ (f.toList ++ g.toList))))) := by
  simp only [String.toList_append, List.append_assoc]

theorem pieces_assoc (a b c d e f g h i j k l m n o p : List Char) :
    a ++ (b ++ (c ++ (d ++ (e ++ (f ++ g))))) ++
        (h ++ (i ++ (j ++ k) ++ (l ++ (m ++ (n ++ o) ++ p)))) =
      a ++ (b ++ (c ++ (d ++ (e ++ (f ++ (g ++ (h ++ (i ++ (j ++ (k ++ (l ++ (m ++ (n ++
        (o ++ p)))))))))))))) := by
  simp only [List.append_assoc]

theorem toByteArray_action (issuedAtMs expiresAtMs : I64) (actionType target urgency : KString) :
    toByteArray (canonicalActionSignatureInput issuedAtMs expiresAtMs actionType target urgency) =
      Utf8.encode (canonicalText issuedAtMs expiresAtMs actionType target urgency) := by
  have hlabel : ∀ (label name : String) (n : Nat), label.toList = '\n' :: name.toList →
      (label ++ toString n ++ ":").toList =
        '\n' :: (name.toList ++ (Framing.decimal n ++ ":".toList)) := by
    intro label name n hname
    rw [counted_toList, hname]
    rfl
  have htarget := hlabel "\ntarget:" "target:" target.length (by decide)
  have hurgency := hlabel "\nurgency:" "urgency:" urgency.length (by decide)
  rw [canonicalActionSignatureInput, List.append_assoc, List.append_assoc, List.append_assoc,
    List.append_assoc, toByteArray_kstr_append, toByteArray, decode_append_label _ htarget,
    decode_append_label _ hurgency, header_toList, counted_toList, counted_toList]
  refine (Utf8.encode_append _ _).symm.trans (congrArg Utf8.encode ?_)
  have hcount : (toString actionType.length).toList = Framing.decimal actionType.length := rfl
  rw [hcount]
  exact pieces_assoc _ _ _ _ _ _ _ _ _ _ _ _ _ _ _ _

/-- One input for one action, as far as its strings are text. -/
theorem canonicalText_injective {issuedAtMs expiresAtMs issuedAtMs' expiresAtMs' : I64}
    {actionType target urgency actionType' target' urgency' : KString}
    (h : canonicalText issuedAtMs expiresAtMs actionType target urgency =
      canonicalText issuedAtMs' expiresAtMs' actionType' target' urgency') :
    issuedAtMs = issuedAtMs' ∧ expiresAtMs = expiresAtMs' ∧
      replaced actionType = replaced actionType' ∧ replaced target = replaced target' ∧
      replaced urgency = replaced urgency' := by
  have hunits : ∀ c : Char, Utf16.encodeChar c ≠ [] := by
    intro c
    unfold Utf16.encodeChar
    split <;> exact List.cons_ne_nil _ _
  have hcount : ∀ s s' : KString, s.length = s'.length →
      ((Utf16.decode '?' s).flatMap Utf16.encodeChar).length =
        ((Utf16.decode '?' s').flatMap Utf16.encodeChar).length := fun s s' hlength =>
    (Utf16.length_encode_decode (by decide) s).trans
      (hlength.trans (Utf16.length_encode_decode (by decide) s').symm)
  obtain ⟨hi, h⟩ := (Framing.separated_inj (by decide +kernel)
    (Framing.newline_notMem_decimal _) (Framing.newline_notMem_decimal _)).mp
    (List.append_cancel_left h)
  obtain ⟨he, h⟩ := (Framing.separated_inj (by decide +kernel)
    (Framing.newline_notMem_decimal _) (Framing.newline_notMem_decimal _)).mp h
  obtain ⟨htype, h⟩ := decimal_field.mp h
  obtain ⟨htype, h⟩ := Framing.counted_inj hunits h (hcount _ _ htype)
  obtain ⟨htarget, h⟩ := decimal_field.mp (List.append_cancel_left h)
  obtain ⟨htarget, h⟩ := Framing.counted_inj hunits h (hcount _ _ htarget)
  obtain ⟨-, hurgency⟩ := decimal_field.mp (List.append_cancel_left h)
  rw [replaced, replaced, replaced, replaced, replaced, replaced, htype, htarget, hurgency]
  exact ⟨Subtype.ext (Framing.decimal_injective hi), Subtype.ext (Framing.decimal_injective he),
    rfl, rfl, rfl⟩

end AuthorizedActionSocketServer

end Dipecs.Device
