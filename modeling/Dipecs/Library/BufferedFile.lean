import Mathlib.Data.List.Infix

/-! Writing through a buffer to a file whose writes may fail: what reaches the file is a prefix
of what was written, and all of it exactly when it fits before the first failure. -/

namespace Dipecs.Library

variable {ε : Type}

/-- A file, with how many bytes it still takes before each write that fails. -/
structure File (ε : Type) where
  content : List UInt8
  rooms : List (Nat × ε)

def Fits (rooms : List (Nat × ε)) (n : Nat) : Prop := ∀ x ∈ rooms.head?, n ≤ x.1

instance (rooms : List (Nat × ε)) (n : Nat) : Decidable (Fits rooms n) :=
  inferInstanceAs (Decidable (∀ x ∈ rooms.head?, _))

theorem Fits.mono {rooms : List (Nat × ε)} {m n : Nat} (h : Fits rooms n) (hle : m ≤ n) :
    Fits rooms m := fun x hx => Nat.le_trans hle (h x hx)

namespace File

def create (rooms : List (Nat × ε)) : File ε := ⟨[], rooms⟩

def writeAll (f : File ε) (bytes : List UInt8) : File ε × List UInt8 × Except ε Unit :=
  match f.rooms with
  | [] => (⟨f.content ++ bytes, []⟩, [], .ok ())
  | (room, e) :: rooms =>
    if bytes.length ≤ room then
      (⟨f.content ++ bytes, (room - bytes.length, e) :: rooms⟩, [], .ok ())
    else (⟨f.content ++ bytes.take room, rooms⟩, bytes.drop room, .error e)

structure Intact (rooms : List (Nat × ε)) (text : List UInt8) (f : File ε) : Prop where
  content : f.content = text
  left : f.rooms = rooms.modifyHead fun x => (x.1 - text.length, x.2)
  fits : Fits rooms text.length

theorem intact_create (rooms : List (Nat × ε)) : Intact rooms [] (create rooms) := by
  refine ⟨rfl, ?_, fun x _ => Nat.zero_le _⟩
  cases rooms <;> rfl

theorem writeAll_content (f : File ε) (bytes : List UInt8) :
    ∃ k, (f.writeAll bytes).1.content = f.content ++ bytes.take k := by
  unfold writeAll
  split
  · exact ⟨bytes.length, by rw [List.take_length]⟩
  · split
    · exact ⟨bytes.length, by rw [List.take_length]⟩
    · exact ⟨_, rfl⟩

theorem Intact.writeAll_cases {rooms : List (Nat × ε)} {text : List UInt8} {f : File ε}
    (h : Intact rooms text f) (bytes : List UInt8) :
    (∃ f', f.writeAll bytes = (f', [], .ok ()) ∧ Intact rooms (text ++ bytes) f') ∨
      ¬Fits rooms (text ++ bytes).length ∧ ∃ f' e k, k < bytes.length ∧
        f.writeAll bytes = (f', bytes.drop k, .error e) ∧ f'.content = text ++ bytes.take k := by
  cases hrooms : rooms with
  | nil =>
    have hf : f.rooms = [] := by rw [h.left, hrooms]; rfl
    refine .inl ⟨⟨text ++ bytes, []⟩, ?_, rfl, rfl, fun x hx => by cases hx⟩
    rw [writeAll, hf, h.content]
  | cons x rest =>
    obtain ⟨room, e⟩ := x
    have hf : f.rooms = (room - text.length, e) :: rest := by rw [h.left, hrooms]; rfl
    have hfits : text.length ≤ room := h.fits (room, e) (by rw [hrooms]; rfl)
    by_cases hle : bytes.length ≤ room - text.length
    · refine .inl ⟨⟨text ++ bytes, (room - text.length - bytes.length, e) :: rest⟩, ?_, rfl, ?_,
        fun x hx => ?_⟩
      · rw [writeAll, hf, h.content]
        simp only [if_pos hle]
      · rw [List.modifyHead_cons, List.length_append, Nat.sub_sub]
      · cases hx
        rw [List.length_append]
        omega
    · refine .inr ⟨fun hall => ?_, ⟨text ++ bytes.take (room - text.length), rest⟩, e,
        room - text.length, Nat.lt_of_not_le hle, ?_, rfl⟩
      · have hroom := hall (room, e) rfl
        rw [List.length_append] at hroom
        omega
      · rw [writeAll, hf, h.content]
        simp only [if_neg hle]

end File

structure BufWriter (ε : Type) where
  capacity : Nat
  buf : List UInt8
  inner : File ε

namespace BufWriter

def new (capacity : Nat) (inner : File ε) : BufWriter ε := ⟨capacity, [], inner⟩

def flushBuf (b : BufWriter ε) : BufWriter ε × Except ε Unit :=
  let (inner, rest, result) := b.inner.writeAll b.buf
  ({ b with buf := rest, inner := inner }, result)

def makeRoom (b : BufWriter ε) (n : Nat) : BufWriter ε × Except ε Unit :=
  if b.capacity - b.buf.length < n then b.flushBuf else (b, .ok ())

def writeAll (b : BufWriter ε) (bytes : List UInt8) : BufWriter ε × Except ε Unit :=
  if bytes.length < b.capacity - b.buf.length then ({ b with buf := b.buf ++ bytes }, .ok ())
  else
    match b.makeRoom bytes.length with
    | (b', .error e) => (b', .error e)
    | (b', .ok ()) =>
      if b'.capacity ≤ bytes.length then
        let (inner, _, result) := b'.inner.writeAll bytes
        ({ b' with inner := inner }, result)
      else ({ b' with buf := b'.buf ++ bytes }, .ok ())

def writeChunks (b : BufWriter ε) : List (List UInt8) → BufWriter ε × Except ε Unit
  | [] => (b, .ok ())
  | chunk :: chunks =>
    match b.writeAll chunk with
    | (b', .error e) => (b', .error e)
    | (b', .ok ()) => b'.writeChunks chunks

/-- Dropping the writer flushes it, and tells nobody how that went. -/
def drop (b : BufWriter ε) : File ε := b.flushBuf.1.inner

/-- The text written so far is in the file or in the buffer. -/
structure Holds (rooms : List (Nat × ε)) (text : List UInt8) (b : BufWriter ε) : Prop where
  small : b.buf.length ≤ b.capacity
  text : ∃ pre, text = pre ++ b.buf ∧ b.inner.Intact rooms pre

def Torn (text : List UInt8) (b : BufWriter ε) : Prop :=
  ∃ rest, rest ≠ [] ∧ text = b.inner.content ++ b.buf ++ rest

variable {rooms : List (Nat × ε)} {text : List UInt8} {b : BufWriter ε}

theorem holds_new (capacity : Nat) (rooms : List (Nat × ε)) :
    Holds rooms [] (new capacity (File.create rooms)) :=
  ⟨Nat.zero_le _, [], rfl, File.intact_create rooms⟩

theorem Holds.flushBuf_cases (h : Holds rooms text b) :
    (∃ b', b.flushBuf = (b', .ok ()) ∧ b'.capacity = b.capacity ∧ b'.buf = [] ∧
      b'.inner.Intact rooms text) ∨
      ¬Fits rooms text.length ∧ ∃ b' e, b.flushBuf = (b', .error e) ∧ b'.buf ≠ [] ∧
        text = b'.inner.content ++ b'.buf := by
  obtain ⟨-, pre, rfl, hinner⟩ := h
  obtain ⟨f', hwrite, hintact⟩ | ⟨hfull, f', e, k, hk, hwrite, hcontent⟩ :=
    hinner.writeAll_cases b.buf
  · exact .inl ⟨{ b with buf := [], inner := f' }, by rw [flushBuf, hwrite], rfl, rfl, hintact⟩
  · refine .inr ⟨hfull, { b with buf := b.buf.drop k, inner := f' }, e, by rw [flushBuf, hwrite],
      ?_, ?_⟩
    · exact List.ne_nil_of_length_pos (by rw [List.length_drop]; omega)
    · rw [hcontent, List.append_assoc, List.take_append_drop]

theorem Holds.makeRoom_cases (h : Holds rooms text b) (n : Nat) :
    (∃ b', b.makeRoom n = (b', .ok ()) ∧ Holds rooms text b' ∧
      (b'.buf = [] ∨ n ≤ b'.capacity - b'.buf.length)) ∨
      ¬Fits rooms text.length ∧ 0 < n ∧ ∃ b' e, b.makeRoom n = (b', .error e) ∧
        text = b'.inner.content ++ b'.buf := by
  unfold makeRoom
  split <;> rename_i hroom
  · obtain ⟨b', hflush, hcapacity, hbuf, hintact⟩ | ⟨hfull, b', e, hflush, -, htext⟩ :=
      h.flushBuf_cases
    · refine .inl ⟨b', hflush, ⟨?_, text, ?_, hintact⟩, .inl hbuf⟩
      · rw [hbuf]
        exact Nat.zero_le _
      · rw [hbuf, List.append_nil]
    · exact .inr ⟨hfull, by omega, b', e, hflush, htext⟩
  · exact .inl ⟨b, rfl, h, .inr (Nat.le_of_not_lt hroom)⟩

theorem Holds.writeAll_cases (h : Holds rooms text b) (bytes : List UInt8) :
    (∃ b', b.writeAll bytes = (b', .ok ()) ∧ Holds rooms (text ++ bytes) b') ∨
      ¬Fits rooms (text ++ bytes).length ∧ ∃ b' e, b.writeAll bytes = (b', .error e) ∧
        Torn (text ++ bytes) b' := by
  have hpush : ∀ b : BufWriter ε, Holds rooms text b → b.buf.length + bytes.length ≤ b.capacity →
      Holds rooms (text ++ bytes) { b with buf := b.buf ++ bytes } := by
    rintro b ⟨-, pre, rfl, hinner⟩ hle
    exact ⟨by rwa [List.length_append], pre, List.append_assoc .., hinner⟩
  unfold writeAll
  split <;> rename_i hshort
  · exact .inl ⟨_, rfl, hpush b h (by omega)⟩
  · obtain ⟨b', hroom, h', hbuf⟩ | ⟨hfull, hpos, b', e, hroom, htext⟩ :=
      h.makeRoom_cases bytes.length
    · rw [hroom]
      dsimp only
      have hsmall := h'.small
      split <;> rename_i hlong
      · -- the buffer is empty, and the piece goes straight to the file
        have hnil : b'.buf = [] := by
          rcases hbuf with hbuf | hbuf
          · exact hbuf
          · exact List.eq_nil_of_length_eq_zero (by omega)
        obtain ⟨-, pre, rfl, hinner⟩ := h'
        rw [hnil, List.append_nil] at *
        obtain ⟨f', hwrite, hintact⟩ | ⟨hfull, f', e, k, hk, hwrite, hcontent⟩ :=
          hinner.writeAll_cases bytes
        · rw [hwrite]
          exact .inl ⟨_, rfl, Nat.zero_le _, pre ++ bytes, (List.append_nil _).symm, hintact⟩
        · rw [hwrite]
          refine .inr ⟨hfull, _, e, rfl, bytes.drop k, ?_, ?_⟩
          · exact List.ne_nil_of_length_pos (by rw [List.length_drop]; omega)
          · rw [hcontent, hnil, List.append_nil, List.append_assoc, List.take_append_drop]
      · refine .inl ⟨_, rfl, hpush b' h' ?_⟩
        rcases hbuf with hbuf | hbuf
        · rw [hbuf, List.length_nil]
          omega
        · omega
    · rw [hroom]
      refine .inr ⟨mt (fun hfits => hfits.mono ?_) hfull, b', e, rfl, bytes,
        List.ne_nil_of_length_pos hpos, by rw [htext]⟩
      exact (List.prefix_append _ _).length_le

theorem Holds.writeChunks_cases (h : Holds rooms text b) (chunks : List (List UInt8)) :
    (∃ b', b.writeChunks chunks = (b', .ok ()) ∧ Holds rooms (text ++ chunks.flatten) b') ∨
      ¬Fits rooms (text ++ chunks.flatten).length ∧ ∃ b' e,
        b.writeChunks chunks = (b', .error e) ∧ Torn (text ++ chunks.flatten) b' := by
  induction chunks generalizing text b with
  | nil => exact .inl ⟨b, rfl, by rwa [List.flatten_nil, List.append_nil]⟩
  | cons chunk chunks ih =>
    rw [List.flatten_cons, ← List.append_assoc, writeChunks]
    obtain ⟨b', hwrite, h'⟩ | ⟨hfull, b', e, hwrite, rest, hrest, htext⟩ := h.writeAll_cases chunk
    · rw [hwrite]
      exact ih h'
    · rw [hwrite]
      refine .inr ⟨mt (fun hfits => hfits.mono ?_) hfull, b', e, rfl, rest ++ chunks.flatten,
        by simp [hrest], ?_⟩
      · exact (List.prefix_append _ _).length_le
      · rw [htext, List.append_assoc _ rest]

theorem writeChunks_small {b : BufWriter ε} (chunks : List (List UInt8))
    (h : b.buf.length + chunks.flatten.length < b.capacity) :
    b.writeChunks chunks = ({ b with buf := b.buf ++ chunks.flatten }, .ok ()) := by
  induction chunks generalizing b with
  | nil => rw [writeChunks, List.flatten_nil, List.append_nil]
  | cons chunk chunks ih =>
    rw [List.flatten_cons, List.length_append] at h
    have hshort : chunk.length < b.capacity - b.buf.length := by omega
    rw [writeChunks, writeAll, if_pos hshort]
    dsimp only
    rw [ih, List.flatten_cons, List.append_assoc]
    dsimp only
    rw [List.length_append]
    omega

theorem drop_prefix (b : BufWriter ε) : b.drop.content <+: b.inner.content ++ b.buf := by
  obtain ⟨k, hk⟩ := b.inner.writeAll_content b.buf
  have hdrop : b.drop.content = b.inner.content ++ b.buf.take k := hk
  rw [hdrop]
  exact (List.prefix_append_right_inj _).mpr (List.take_prefix k _)

theorem written_cases (capacity : Nat) (rooms : List (Nat × ε)) (chunks : List (List UInt8)) :
    let written := (new capacity (File.create rooms)).writeChunks chunks
    (Fits rooms chunks.flatten.length ∧ written.2 = .ok () ∧
      written.1.drop.content = chunks.flatten) ∨
    (¬Fits rooms chunks.flatten.length ∧ written.1.drop.content <+: chunks.flatten ∧
      written.1.drop.content ≠ chunks.flatten) := by
  intro written
  obtain ⟨b, hwrite, h⟩ | ⟨hfull, b, e, hwrite, rest, hrest, htext⟩ :=
    (holds_new capacity rooms).writeChunks_cases chunks
  all_goals rw [List.nil_append] at *
  all_goals rw [show written = _ from hwrite]
  · obtain ⟨b', hflush, -, -, hintact⟩ | ⟨hfull, b', e, hflush, hbuf, htext⟩ := h.flushBuf_cases
    · refine .inl ⟨hintact.fits, rfl, ?_⟩
      rw [drop, hflush, hintact.content]
    · refine .inr ⟨hfull, ?_⟩
      rw [drop, hflush, htext]
      exact ⟨List.prefix_append _ _, fun heq => hbuf (List.self_eq_append_right.mp heq)⟩
  · refine .inr ⟨hfull, ?_, fun heq => ?_⟩
    · rw [htext]
      exact (b.drop_prefix).trans (List.prefix_append _ _)
    · have hlen := (b.drop_prefix).length_le
      rw [heq, htext, List.length_append] at hlen
      exact hrest (List.eq_nil_of_length_eq_zero (by omega))

end BufWriter

end Dipecs.Library
