import Dipecs.Device.Platform
import Dipecs.Library.MachineInt
import Dipecs.Library.Utf16
import Dipecs.Spec.Serialize

/-! Strings and JSON objects on the device: a string is any sequence of UTF-16 code units,
and the accessors of `org.json` coerce what they find. -/

namespace Dipecs.Device

open Dipecs.Library

abbrev KString := List UInt16

def kstr (s : String) : KString := Utf16.encode s.toList

/-- `toByteArray(Charsets.UTF_8)`, in which an unpaired surrogate becomes `?`. -/
def toByteArray (s : KString) : List UInt8 := Utf8.encode (Utf16.decode '?' s)

/-- A surrogate is no whitespace. -/
def isNotBlank (s : KString) : Bool := s.any fun u => !isWhitespace (Char.ofNat u.toNat)

def trimUnits (s : KString) : KString :=
  let isBlankUnit (u : UInt16) := isWhitespace (Char.ofNat u.toNat)
  ((s.dropWhile isBlankUnit).reverse.dropWhile isBlankUnit).reverse

inductive JsonValue
  | null
  | bool (b : Bool)
  | long (n : I64)
  | double (bits : UInt64)
  | string (s : KString)
  | array (items : List JsonValue)
  | object (entries : List (KString × JsonValue))

/-- The entries of a `JSONObject`, whose names are distinct. -/
abbrev JSONObject := List (KString × JsonValue)

/-- What is left to the platform: parsing, printing and conversions of doubles. -/
structure OrgJson where
  parse : KString → Option JSONObject
  render : JsonValue → KString
  parseDouble : KString → Option UInt64
  doubleToLong : UInt64 → I64

namespace JSONObject

def opt (o : JSONObject) (name : String) : Option JsonValue :=
  (o.find? fun entry => entry.1 == kstr name).map Prod.snd

def has (o : JSONObject) (name : String) : Bool := (opt o name).isSome

def isNull (o : JSONObject) (name : String) : Bool :=
  match opt o name with
  | none | some .null => true
  | _ => false

def optString (json : OrgJson) (o : JSONObject) (name : String) : KString :=
  match opt o name with
  | some (.string s) => s
  | some value => json.render value
  | none => []

def toLong (json : OrgJson) : JsonValue → Option I64
  | .long n => some n
  | .double bits => some (json.doubleToLong bits)
  | .string s => (json.parseDouble s).map json.doubleToLong
  | _ => none

def optLong (json : OrgJson) (o : JSONObject) (name : String) (fallback : I64) : I64 :=
  ((opt o name).bind (toLong json)).getD fallback

def optJSONObject (o : JSONObject) (name : String) : Option JSONObject :=
  match opt o name with
  | some (.object entries) => some entries
  | _ => none

end JSONObject

/-! ### What is read of a Rust value

`wide` is the double that stands for an integer too wide for a `Long`. -/

mutual

def ofJson (wide : UInt64 → UInt64) : Json → JsonValue
  | .null => .null
  | .bool b => .bool b
  | .posInt n =>
    if h : n.toNat < 2 ^ 63 then .long ⟨n.toNat, by omega, by omega⟩ else .double (wide n)
  | .negInt n => .long (I64.wrap n)
  | .float bits => .double bits
  | .str s => .string (kstr s)
  | .arr items => .array (ofItems wide items)
  | .obj fields => .object (ofFields wide fields)

def ofItems (wide : UInt64 → UInt64) : List Json → List JsonValue
  | [] => []
  | v :: vs => ofJson wide v :: ofItems wide vs

def ofFields (wide : UInt64 → UInt64) : List (String × Json) → JSONObject
  | [] => []
  | (k, v) :: rest => (kstr k, ofJson wide v) :: ofFields wide rest

end

def received (wide : UInt64 → UInt64) : Json → JSONObject
  | .obj fields => ofFields wide fields
  | _ => []

theorem ofJson_intJson (wide : UInt64 → UInt64) (n : I64) :
    ofJson wide (Spec.intJson n.val) = .long n := by
  have hn := n.2
  rw [Spec.intJson]
  split
  · rw [ofJson, I64.wrap]
    exact congrArg JsonValue.long (Subtype.ext (i64_of_range hn.1 hn.2))
  · have hnat : (UInt64.ofNat n.val.toNat).toNat = n.val.toNat :=
      UInt64.toNat_ofNat_of_lt' (by rw [UInt64.size]; omega)
    have hfits : (UInt64.ofNat n.val.toNat).toNat < 2 ^ 63 := by omega
    rw [Spec.natJson, ofJson, dif_pos hfits]
    refine congrArg JsonValue.long (Subtype.ext ?_)
    change ((UInt64.ofNat n.val.toNat).toNat : Int) = n.val
    omega

@[simp] theorem toByteArray_kstr (s : String) : toByteArray (kstr s) = Utf8.encode s.toList := by
  rw [toByteArray, kstr, Utf16.decode_encode]

theorem kstr_append (s t : String) : kstr (s ++ t) = kstr s ++ kstr t := by
  rw [kstr, String.toList_append, Utf16.encode_append]
  rfl

theorem kstr_injective : Function.Injective kstr := by
  intro s t h
  exact String.toList_inj.mp (Utf16.encode_injective h)

def replaced (s : KString) : String := String.ofList (Utf16.decode '?' s)

theorem toByteArray_eq (s : KString) : toByteArray s = Utf8.encode (replaced s).toList := by
  rw [replaced, String.toList_ofList]
  rfl

@[simp] theorem replaced_kstr (s : String) : replaced (kstr s) = s := by
  rw [replaced, kstr, Utf16.decode_encode, String.ofList_toList]

theorem kstr_replaced_iff {s : KString} : kstr (replaced s) = s ↔ Utf16.WellFormed s := by
  rw [kstr, replaced, String.toList_ofList, Utf16.wellFormed_iff]

@[simp] theorem opt_nil (name : String) : JSONObject.opt [] name = none := rfl

@[simp] theorem opt_cons (key name : String) (value : JsonValue) (rest : JSONObject) :
    JSONObject.opt ((kstr key, value) :: rest) name =
      if key = name then some value else JSONObject.opt rest name := by
  rw [JSONObject.opt, List.find?_cons]
  by_cases h : key = name
  · simp [h]
  · have hne : (kstr key == kstr name) = false := by simpa using fun heq => h (kstr_injective heq)
    rw [hne, if_neg h]
    rfl

theorem toByteArray_kstr_append (s : String) (t : KString) :
    toByteArray (kstr s ++ t) = Utf8.encode s.toList ++ toByteArray t := by
  rw [toByteArray, kstr, Utf16.decode_encode_append, Utf8.encode_append]
  rfl

end Dipecs.Device
