import Dipecs.Library.Utf8

/-! Text in UTF-16, where a string is any sequence of code units: encoding, decoding with a
replacement for unpaired surrogates, and the strings that need none. -/

namespace Dipecs.Library.Utf16

def isHigh (u : UInt16) : Bool := decide (0xD800 ≤ u.toNat ∧ u.toNat ≤ 0xDBFF)

def isLow (u : UInt16) : Bool := decide (0xDC00 ≤ u.toNat ∧ u.toNat ≤ 0xDFFF)

def encodeChar (c : Char) : List UInt16 :=
  if c.toNat < 0x10000 then [UInt16.ofNat c.toNat]
  else [UInt16.ofNat (0xD800 + (c.toNat - 0x10000) / 0x400),
    UInt16.ofNat (0xDC00 + (c.toNat - 0x10000) % 0x400)]

def encode (cs : List Char) : List UInt16 := cs.flatMap encodeChar

def scan {α : Type} (unit : UInt16 → α) (pair : UInt16 → UInt16 → α) : List UInt16 → List α
  | [] => []
  | [u] => [unit u]
  | u :: v :: rest =>
    if isHigh u && isLow v then pair u v :: scan unit pair rest
    else unit u :: scan unit pair (v :: rest)

def pairCodePoint (high low : UInt16) : Nat :=
  0x10000 + (high.toNat - 0xD800) * 0x400 + (low.toNat - 0xDC00)

/-- A surrogate on its own is a code point, though not a character. -/
def codePoints : List UInt16 → List Nat := scan UInt16.toNat pairCodePoint

/-- A unit on its own is a character of the basic plane, or a surrogate to be replaced. -/
def decodeUnit (replacement : Char) (u : UInt16) : Char :=
  if isHigh u || isLow u then replacement else Char.ofNat u.toNat

def decode (replacement : Char) : List UInt16 → List Char :=
  scan (decodeUnit replacement) fun high low => Char.ofNat (pairCodePoint high low)

def WellFormed (s : List UInt16) : Prop := ∃ cs, encode cs = s

@[simp] theorem encode_nil : encode [] = [] := rfl

@[simp] theorem encode_append (cs ds : List Char) : encode (cs ++ ds) = encode cs ++ encode ds :=
  List.flatMap_append

variable {r : Char}

theorem toNat_ofNat {n : Nat} (h : n < 0x10000) : (UInt16.ofNat n).toNat = n :=
  UInt16.toNat_ofNat_of_lt' h

section Scan

variable {α : Type} {unit : UInt16 → α} {pair : UInt16 → UInt16 → α}

theorem scan_cons_of_not_surrogate {u : UInt16} (hhigh : isHigh u = false)
    (rest : List UInt16) : scan unit pair (u :: rest) = unit u :: scan unit pair rest := by
  cases rest with
  | nil => rfl
  | cons v rest => simp [scan, hhigh]

theorem encodeChar_of_lt {c : Char} (h : c.toNat < 0x10000) :
    ∃ u, encodeChar c = [u] ∧ u.toNat = c.toNat ∧ isHigh u = false ∧ isLow u = false := by
  have hvalid : c.toNat < 0xD800 ∨ 0xDFFF < c.toNat ∧ c.toNat < 0x110000 := c.valid
  have hunit := toNat_ofNat h
  refine ⟨UInt16.ofNat c.toNat, by rw [encodeChar, if_pos h], hunit, ?_, ?_⟩
  · rw [isHigh, hunit, decide_eq_false_iff_not]
    omega
  · rw [isLow, hunit, decide_eq_false_iff_not]
    omega

theorem encodeChar_of_not_lt {c : Char} (h : ¬c.toNat < 0x10000) :
    ∃ u v, encodeChar c = [u, v] ∧ isHigh u = true ∧ isLow v = true ∧
      pairCodePoint u v = c.toNat := by
  have hvalid : c.toNat < 0xD800 ∨ 0xDFFF < c.toNat ∧ c.toNat < 0x110000 := c.valid
  have hhigh := toNat_ofNat (n := 0xD800 + (c.toNat - 0x10000) / 0x400) (by omega)
  have hlow := toNat_ofNat (n := 0xDC00 + (c.toNat - 0x10000) % 0x400) (by omega)
  have hchar : encodeChar c = [UInt16.ofNat (0xD800 + (c.toNat - 0x10000) / 0x400),
      UInt16.ofNat (0xDC00 + (c.toNat - 0x10000) % 0x400)] := by
    rw [encodeChar, if_neg h]
  generalize UInt16.ofNat (0xD800 + (c.toNat - 0x10000) / 0x400) = u at hhigh hchar
  generalize UInt16.ofNat (0xDC00 + (c.toNat - 0x10000) % 0x400) = v at hlow hchar
  refine ⟨u, v, hchar, ?_, ?_, ?_⟩
  · rw [isHigh, hhigh, decide_eq_true_eq]
    omega
  · rw [isLow, hlow, decide_eq_true_eq]
    omega
  · unfold pairCodePoint
    omega

theorem scan_encodeChar_append {f : Char → α} {c : Char}
    (hunit : ∀ u, u.toNat = c.toNat → isHigh u = false → isLow u = false → unit u = f c)
    (hpair : ∀ u v, pairCodePoint u v = c.toNat → pair u v = f c) (rest : List UInt16) :
    scan unit pair (encodeChar c ++ rest) = f c :: scan unit pair rest := by
  by_cases h : c.toNat < 0x10000
  · obtain ⟨u, hu, hchar, hhigh, hlow⟩ := encodeChar_of_lt h
    rw [hu, List.singleton_append, scan_cons_of_not_surrogate hhigh, hunit u hchar hhigh hlow]
  · obtain ⟨u, v, huv, hhigh, hlow, hchar⟩ := encodeChar_of_not_lt h
    rw [huv, List.cons_append, List.cons_append, List.nil_append, scan, hhigh, hlow,
      hpair u v hchar]
    rfl

end Scan

theorem codePoints_encode (cs : List Char) : codePoints (encode cs) = cs.map Char.toNat := by
  induction cs with
  | nil => rfl
  | cons c cs ih =>
    rw [encode, List.flatMap_cons, codePoints,
      scan_encodeChar_append (f := Char.toNat) (fun _ h _ _ => h) (fun _ _ h => h)]
    exact congrArg (c.toNat :: ·) ih

theorem decode_encodeChar_append (c : Char) (rest : List UInt16) :
    decode r (encodeChar c ++ rest) = c :: decode r rest := by
  refine scan_encodeChar_append (f := id) (fun u hu hhigh hlow => ?_) (fun u v huv => ?_) rest
  · rw [decodeUnit, hhigh, hlow, hu, Char.ofNat_toNat]
    rfl
  · rw [huv, Char.ofNat_toNat]
    rfl

theorem decode_encode_append (cs : List Char) (rest : List UInt16) :
    decode r (encode cs ++ rest) = cs ++ decode r rest := by
  induction cs with
  | nil => rfl
  | cons c cs ih =>
    rw [encode, List.flatMap_cons, List.append_assoc, decode_encodeChar_append]
    exact congrArg (c :: ·) ih

theorem decode_encode (cs : List Char) : decode r (encode cs) = cs := by
  have happend := decode_encode_append (r := r) cs []
  rwa [List.append_nil, decode, scan, List.append_nil] at happend

theorem encode_injective : Function.Injective encode := by
  intro cs ds h
  rw [← decode_encode (r := 'a') cs, h, decode_encode]

theorem isLow_of_encode_eq_cons {cs : List Char} {v : UInt16} {rest : List UInt16}
    (h : encode cs = v :: rest) : isLow v = false := by
  cases cs with
  | nil => cases h
  | cons c cs =>
    rw [encode, List.flatMap_cons] at h
    by_cases hc : c.toNat < 0x10000
    · obtain ⟨u, hu, -, -, hlow⟩ := encodeChar_of_lt hc
      rw [hu] at h
      obtain ⟨rfl, -⟩ := List.cons.inj h
      exact hlow
    · obtain ⟨u, w, huw, hhigh, -⟩ := encodeChar_of_not_lt hc
      rw [huw] at h
      obtain ⟨rfl, -⟩ := List.cons.inj h
      rw [isHigh, decide_eq_true_eq] at hhigh
      rw [isLow, decide_eq_false_iff_not]
      omega

theorem decode_unpaired {u : UInt16} (h : (isHigh u || isLow u) = true) (cs : List Char) :
    decode r (u :: encode cs) = r :: cs := by
  cases hcs : encode cs with
  | nil =>
    obtain rfl : cs = [] := encode_injective hcs
    simp [decode, scan, decodeUnit, h]
  | cons v rest =>
    have hpair : (isHigh u && isLow v) = false := by
      rw [isLow_of_encode_eq_cons hcs, Bool.and_false]
    rw [decode, scan, hpair, if_neg Bool.false_ne_true, decodeUnit, if_pos h, ← hcs]
    exact congrArg (r :: ·) (decode_encode cs)

theorem infix_of_encode {sub cs : List Char} {before after : List UInt16} (hsub : sub ≠ [])
    (h : encode cs = before ++ (encode sub ++ after)) : sub <:+: cs := by
  induction cs generalizing before with
  | nil =>
    rw [encode_nil, List.nil_eq_append_iff, List.append_eq_nil_iff] at h
    exact absurd (encode_injective h.2.1) hsub
  | cons c cs ih =>
    cases before with
    | nil =>
      have hdecode := congrArg (decode 'a') h
      rw [decode_encode, List.nil_append, decode_encode_append] at hdecode
      exact ⟨[], _, hdecode.symm⟩
    | cons u before =>
      refine List.infix_cons ?_
      rw [encode, List.flatMap_cons] at h
      by_cases hc : c.toNat < 0x10000
      · obtain ⟨w, hw, -, -, -⟩ := encodeChar_of_lt hc
        rw [hw] at h
        exact ih (List.cons.inj h).2
      · obtain ⟨w, x, hwx, -, hlow, -⟩ := encodeChar_of_not_lt hc
        rw [hwx] at h
        have hrest := (List.cons.inj h).2
        cases before with
        | nil =>
          -- the substring would start with the low half of a pair
          cases hencode : encode sub with
          | nil => exact absurd (encode_injective hencode) hsub
          | cons y rest =>
            rw [hencode] at hrest
            obtain ⟨rfl, -⟩ := List.cons.inj hrest
            rw [isLow_of_encode_eq_cons hencode] at hlow
            cases hlow
        | cons y before => exact ih (List.cons.inj hrest).2

theorem encode_infix_iff {sub cs : List Char} :
    encode sub <:+: encode cs ↔ sub <:+: cs := by
  constructor
  · rintro ⟨before, after, h⟩
    by_cases hsub : sub = []
    · exact hsub ▸ List.nil_infix
    · exact infix_of_encode hsub (by rw [← h, List.append_assoc])
  · rintro ⟨before, after, rfl⟩
    exact ⟨encode before, encode after, by rw [encode_append, encode_append]⟩

theorem wellFormed_iff {s : List UInt16} : WellFormed s ↔ encode (decode r s) = s := by
  constructor
  · rintro ⟨cs, rfl⟩
    rw [decode_encode]
  · exact fun h => ⟨_, h⟩

instance (s : List UInt16) : Decidable (WellFormed s) :=
  decidable_of_iff _ (wellFormed_iff (r := 'a')).symm

theorem any_encode {p : UInt16 → Bool} {q : Char → Bool}
    (hunit : ∀ u c, u.toNat = c.toNat → p u = q c) (hhigh : ∀ u, isHigh u = true → p u = false)
    (hlow : ∀ u, isLow u = true → p u = false) (hwide : ∀ c, ¬c.toNat < 0x10000 → q c = false)
    (cs : List Char) : (encode cs).any p = cs.any q := by
  induction cs with
  | nil => rfl
  | cons c cs ih =>
    rw [encode, List.flatMap_cons, List.any_append, List.any_cons, ← ih]
    refine congrArg (· || _) ?_
    by_cases hc : c.toNat < 0x10000
    · obtain ⟨u, hu, hchar, -, -⟩ := encodeChar_of_lt hc
      rw [hu, List.any_cons, List.any_nil, Bool.or_false, hunit u c hchar]
    · obtain ⟨u, v, huv, hu, hv, -⟩ := encodeChar_of_not_lt hc
      rw [huv, List.any_cons, List.any_cons, List.any_nil, hhigh u hu, hlow v hv, hwide c hc]
      rfl

theorem encode_intercalate (sep : List Char) (parts : List (List Char)) :
    encode (sep.intercalate parts) = (encode sep).intercalate (parts.map encode) := by
  induction parts with
  | nil => rfl
  | cons part parts ih =>
    cases parts with
    | nil => rw [List.intercalate_singleton, List.map_singleton, List.intercalate_singleton]
    | cons next parts =>
      rw [List.intercalate_cons_cons, encode_append, encode_append, ih]
      exact List.intercalate_cons_cons.symm

/-! A character takes no more units than bytes, and fewer unless it is ASCII. -/

theorem length_encodeChar (c : Char) : (encodeChar c).length ≤ c.utf8Size ∧
    ((encodeChar c).length = c.utf8Size ↔ c.toNat < 128) := by
  have hval : c.toNat = c.val.toNat := rfl
  simp only [encodeChar, Char.utf8Size, UInt32.le_iff_toNat_le, hval]
  rw [show (UInt32.ofNatLT 0x7F (of_decide_eq_true rfl)).toNat = 127 from rfl,
    show (UInt32.ofNatLT 0x7FF (of_decide_eq_true rfl)).toNat = 2047 from rfl,
    show (UInt32.ofNatLT 0xFFFF (of_decide_eq_true rfl)).toNat = 65535 from rfl]
  split_ifs <;> simp only [List.length_cons, List.length_nil, true_iff] <;> omega

theorem length_encode_le (cs : List Char) : (encode cs).length ≤ (Utf8.encode cs).length := by
  induction cs with
  | nil => exact Nat.le_refl 0
  | cons c cs ih =>
    rw [encode, Utf8.encode, List.flatMap_cons, List.flatMap_cons, List.length_append,
      List.length_append, String.length_utf8EncodeChar]
    exact Nat.add_le_add (length_encodeChar c).1 ih

theorem length_encode_le_two_mul (cs : List Char) : (encode cs).length ≤ 2 * cs.length := by
  induction cs with
  | nil => exact Nat.zero_le _
  | cons c cs ih =>
    have hc : (encodeChar c).length ≤ 2 := by
      unfold encodeChar
      split <;> simp
    rw [encode, List.flatMap_cons, List.length_append, ← encode, List.length_cons]
    omega

theorem length_encode_eq_iff {cs : List Char} :
    (encode cs).length = (Utf8.encode cs).length ↔ ∀ c ∈ cs, c.toNat < 128 := by
  induction cs with
  | nil => simp
  | cons c cs ih =>
    have hc := length_encodeChar c
    have hcs := length_encode_le cs
    rw [List.forall_mem_cons, ← ih, ← hc.2]
    rw [encode, Utf8.encode] at hcs ⊢
    rw [List.flatMap_cons, List.flatMap_cons, List.length_append, List.length_append,
      String.length_utf8EncodeChar, encode, Utf8.encode]
    omega

section Breaks

variable {α : Type} {unit : UInt16 → α} {pair : UInt16 → UInt16 → α}

theorem scan_append {u : UInt16} (h : isLow u = false) (s rest : List UInt16) :
    scan unit pair (s ++ u :: rest) = scan unit pair s ++ scan unit pair (u :: rest) := by
  induction s using scan.induct with
  | case1 => rfl
  | case2 v =>
    simp [scan, h]
  | case3 v w rest' hpair ih =>
    rw [List.cons_append, List.cons_append, scan, if_pos hpair, ih, scan, if_pos hpair]
    rfl
  | case4 v w rest' hpair ih =>
    rw [List.cons_append, List.cons_append, scan, if_neg hpair, ← List.cons_append, ih, scan,
      if_neg hpair]
    rfl

theorem decode_append_encode {c : Char} (h : c.toNat < 0xD800) (s : List UInt16) (cs : List Char)
    (rest : List UInt16) :
    decode r (s ++ (encode (c :: cs) ++ rest)) = decode r s ++ (c :: cs ++ decode r rest) := by
  obtain ⟨u, hu, hchar, -, hlow⟩ := encodeChar_of_lt (c := c) (by omega)
  rw [← decode_encode_append, encode, List.flatMap_cons, hu, List.singleton_append,
    List.cons_append]
  exact scan_append hlow s _

theorem toNat_ofNat_char {n : Nat} (h : n.isValidChar) : (Char.ofNat n).toNat = n := by
  rw [Char.ofNat, dif_pos h]
  rfl

theorem length_encode_unit {u : UInt16} (hr : r.toNat < 0x10000) :
    (encodeChar (decodeUnit r u)).length = 1 := by
  have hlt : (decodeUnit r u).toNat < 0x10000 := by
    unfold decodeUnit
    split
    · exact hr
    · rename_i hsurrogate
      have hu := u.toNat_lt
      have hvalid : u.toNat.isValidChar := by
        simp only [isHigh, isLow, Bool.or_eq_true, decide_eq_true_eq, not_or] at hsurrogate
        unfold Nat.isValidChar
        omega
      rw [toNat_ofNat_char hvalid]
      exact hu
  rw [encodeChar, if_pos hlt]
  rfl

theorem length_encode_pair {u v : UInt16} (hu : isHigh u = true) (hv : isLow v = true) :
    (encodeChar (Char.ofNat (pairCodePoint u v))).length = 2 := by
  simp only [isHigh, isLow, decide_eq_true_eq] at hu hv
  have hvalid : (pairCodePoint u v).isValidChar := .inr (by unfold pairCodePoint; omega)
  rw [encodeChar, toNat_ofNat_char hvalid, if_neg (by unfold pairCodePoint; omega)]
  rfl

theorem length_encode_decode (hr : r.toNat < 0x10000) (s : List UInt16) :
    (encode (decode r s)).length = s.length := by
  unfold decode
  induction s using scan.induct with
  | case1 => rfl
  | case2 u =>
    rw [scan, encode, List.flatMap_cons, List.length_append, length_encode_unit hr]
    rfl
  | case3 u v rest hpair ih =>
    obtain ⟨hu, hv⟩ := Bool.and_eq_true_iff.mp hpair
    rw [scan, if_pos hpair, encode, List.flatMap_cons, List.length_append, length_encode_pair hu hv]
    simp only [encode] at ih
    rw [ih]
    simp only [List.length_cons]
    omega
  | case4 u v rest hpair ih =>
    rw [scan, if_neg hpair, encode, List.flatMap_cons, List.length_append, length_encode_unit hr]
    simp only [encode] at ih
    rw [ih]
    simp only [List.length_cons]
    omega

end Breaks

end Dipecs.Library.Utf16
