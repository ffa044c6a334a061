import Dipecs.Device.ActionSocketServer

/-! Tags as they are compared: lowercase hexadecimal, which is never blank. -/

namespace Dipecs.Device

open Dipecs.Library

def tag (rt : Runtime) (key : KString) (message : List UInt8) : List UInt8 :=
  Utf8.encode (Framing.hex (rt.hmacSha256 (toByteArray key) message))

theorem tag_injective {rt : Runtime}
    (hmac : ∀ key, Function.Injective (rt.hmacSha256 key)) (key : KString) :
    Function.Injective (tag rt key) := fun _ _ h =>
  hmac _ (Framing.hex_injective (Utf8.encode_injective h))

theorem toByteArray_hex {rt : Runtime} {key : KString} (message : List UInt8) :
    toByteArray (Utf16.encode (Framing.hex (rt.hmacSha256 (toByteArray key) message))) =
      tag rt key message := by
  rw [toByteArray, Utf16.decode_encode, tag]

theorem hmacSha256Hex_eq_some {rt : Runtime} {key message expected : KString} :
    hmacSha256Hex rt key message = some expected ↔ toByteArray key ≠ [] ∧
      expected = Utf16.encode (Framing.hex
        (rt.hmacSha256 (toByteArray key) (toByteArray message))) := by
  unfold hmacSha256Hex
  split
  · simp [*]
  · rename_i hkey
    simp only [Option.some.injEq, ne_eq, hkey, not_false_eq_true, true_and]
    exact eq_comm

theorem constantTimeEquals_hex {rt : Runtime} {key : KString} {left : KString}
    {message : List UInt8} :
    constantTimeEquals left (Utf16.encode (Framing.hex (rt.hmacSha256 (toByteArray key) message))) =
      true ↔ toByteArray left = tag rt key message := by
  rw [constantTimeEquals, beq_iff_eq, toByteArray_hex]

theorem mem_hex {bytes : List UInt8} {u : UInt16} (h : u ∈ Utf16.encode (Framing.hex bytes)) :
    ∃ n : Fin 16, u = UInt16.ofNat (Framing.hexDigit n).toNat := by
  obtain ⟨c, hc, hu⟩ := List.mem_flatMap.mp h
  obtain ⟨b, -, hdigit⟩ := List.mem_flatMap.mp hc
  have hb := b.toNat_lt
  have hascii : ∀ n : Fin 16,
      Utf16.encodeChar (Framing.hexDigit n) = [UInt16.ofNat (Framing.hexDigit n).toNat] := by decide
  simp only [Framing.hexByte, List.mem_cons, List.not_mem_nil, or_false] at hdigit
  rcases hdigit with rfl | rfl
  · exact ⟨⟨b.toNat / 16, by omega⟩, by
      simpa [hascii ⟨b.toNat / 16, by omega⟩] using hu⟩
  · exact ⟨⟨b.toNat % 16, by omega⟩, by
      simpa [hascii ⟨b.toNat % 16, by omega⟩] using hu⟩

theorem isNotBlank_hex {bytes : List UInt8} (h : bytes ≠ []) :
    isNotBlank (Utf16.encode (Framing.hex bytes)) = true := by
  have hdigit : ∀ n : Fin 16, isWhitespace
      (Char.ofNat (UInt16.ofNat (Framing.hexDigit n).toNat).toNat) = false := by decide
  have hne : Utf16.encode (Framing.hex bytes) ≠ [] := by
    intro hnil
    have hhex := Utf16.encode_injective (hnil.trans Utf16.encode_nil.symm)
    exact h (Framing.hex_injective hhex)
  obtain ⟨u, hu⟩ := List.exists_mem_of_ne_nil _ hne
  obtain ⟨n, rfl⟩ := mem_hex hu
  exact List.any_eq_true.mpr ⟨_, hu, by rw [hdigit]; rfl⟩

theorem takeIfNotBlank_eq_some {s t : KString} :
    takeIfNotBlank s = some t ↔ isNotBlank s = true ∧ s = t := by
  unfold takeIfNotBlank
  split <;> simp [*]

theorem isNotBlank_kstr_of_head {text : String} (h : text.toList.head? = some '\x7b') :
    isNotBlank (kstr text) = true := by
  obtain ⟨rest, hrest⟩ := List.head?_eq_some_iff.mp h
  have hopening : Utf16.encodeChar '\x7b' = [0x7b] := by decide
  rw [kstr, hrest, Utf16.encode, List.flatMap_cons, hopening, isNotBlank, List.cons_append,
    List.any_cons]
  exact Bool.or_eq_true_iff.mpr (.inl (by decide))

theorem isNotBlank_append_of_left {s t : KString} (h : isNotBlank s = true) :
    isNotBlank (s ++ t) = true := by
  rw [isNotBlank, List.any_append]
  exact Bool.or_eq_true_iff.mpr (.inl h)

theorem toByteArray_ne_nil {key : String} (h : isNotBlank (kstr key) = true) :
    toByteArray (kstr key) ≠ [] := by
  rw [toByteArray_kstr]
  intro hnil
  have hempty : key.toList = [] := Utf8.encode_injective (hnil.trans (Utf8.encode_nil).symm)
  rw [kstr, hempty] at h
  cases h

end Dipecs.Device
