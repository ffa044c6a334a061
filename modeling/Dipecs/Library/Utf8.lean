import Mathlib.Data.List.Basic

/-! UTF-8 text in byte files: text that may be cut at any byte, decoded or refused as a
whole. -/

namespace Dipecs.Library.Utf8

def encode (cs : List Char) : List UInt8 := cs.flatMap String.utf8EncodeChar

def decode (bs : List UInt8) : Option (List Char) := bs.toByteArray.utf8Decode?.map Array.toList

@[simp] theorem encode_nil : encode [] = [] := rfl

@[simp] theorem encode_append (cs ds : List Char) :
    encode (cs ++ ds) = encode cs ++ encode ds := List.flatMap_append

theorem toByteArray_encode (cs : List Char) : (encode cs).toByteArray = cs.utf8Encode := rfl

theorem length_encode_toList (s : String) : (encode s.toList).length = s.utf8ByteSize := by
  have hbytes := congrArg ByteArray.size (String.utf8Encode_toList (b := s))
  rw [← toByteArray_encode, List.size_toByteArray] at hbytes
  exact hbytes

theorem toByteArray_injective : Function.Injective List.toByteArray := by
  intro a b h
  rw [← List.toList_data_toByteArray (l := a), h, List.toList_data_toByteArray]

theorem decode_encode (cs : List Char) : decode (encode cs) = some cs := by
  rw [decode, toByteArray_encode, List.utf8Decode?_utf8Encode]
  rfl

theorem decode_eq_some {bs : List UInt8} {cs : List Char} :
    decode bs = some cs ↔ encode cs = bs := by
  constructor
  · intro h
    obtain ⟨arr, harr, rfl⟩ := Option.map_eq_some_iff.mp h
    apply toByteArray_injective
    rw [toByteArray_encode]
    have hsome : bs.toByteArray.utf8Decode?.isSome := by simp [harr]
    rw [← ByteArray.utf8Encode_get_utf8Decode? (b := bs.toByteArray) (h := hsome)]
    simp [harr]
  · rintro rfl
    exact decode_encode cs

theorem encode_injective : Function.Injective encode := by
  intro a b h
  have := decode_encode a
  rw [h, decode_encode] at this
  exact (Option.some.inj this).symm

theorem encode_append_eq {cs ds : List Char} {bs : List UInt8}
    (h : encode cs ++ bs = encode ds) : ∃ es, ds = cs ++ es ∧ encode es = bs := by
  have h' : cs.utf8Encode ++ bs.toByteArray = ds.utf8Encode := by
    rw [← toByteArray_encode, ← toByteArray_encode, ← h, List.toByteArray_append]
  obtain ⟨es, rfl⟩ := List.isPrefix_of_utf8Encode_append_eq_utf8Encode bs.toByteArray h'
  exact ⟨es, rfl, by simpa using h.symm⟩

end Dipecs.Library.Utf8
