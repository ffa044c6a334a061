import Dipecs.Collector.TailerRuns
import Dipecs.Device.EventStore

/-! The tailer against a device that appends rows and clears the file.  What the two are
for is a mailbox: a poll takes the rows that are there and have not been taken. -/

namespace Dipecs.Collector

open Dipecs.Spec Dipecs.Library Dipecs.Device

namespace AndroidJsonlTailer

/-- A row as the device writes it: one line that opens an object and is accepted. -/
structure DeviceRow (serde : Serde) where
  text : List Char
  opens : text.head? = some '\x7b'
  oneLine : '\n' ∉ text
  accepted : rejected serde text = false

inductive DeviceOp (serde : Serde)
  | append (r : DeviceRow serde)
  | clear
  | poll

/-- The mailbox: the state is the rows not yet taken. -/
def mailbox (serde : Serde) :
    Machine (List (DeviceRow serde)) (DeviceOp serde) (List CollectorEnvelope) where
  step unread
    | .append r => (unread ++ [r], [])
    | .clear => ([], [])
    | .poll => ([], [unread.filterMap fun r => row serde r.text])

/-- The shared file and the tailer, and whether the file was cleared since the last poll. -/
structure SharedState where
  file : TraceFile
  tailer : AndroidJsonlTailer
  cleared : Bool

def sharedStart : SharedState := ⟨none, .new, false⟩

def sharedStep (serde : Serde) (s : SharedState) :
    DeviceOp serde → SharedState × List (Except AndroidJsonlError (List CollectorEnvelope))
  | .append r => ({ s with file := EventStore.append s.file r.text }, [])
  | .clear => ({ s with file := EventStore.clear s.file, cleared := true }, [])
  | .poll =>
    (⟨s.file, (poll serde s.file s.tailer).1, false⟩, [(poll serde s.file s.tailer).2])

def shared (serde : Serde) :
    Machine SharedState (DeviceOp serde) (Except AndroidJsonlError (List CollectorEnvelope)) :=
  ⟨sharedStep serde⟩

/-- The tailer can tell that the file is not the one it has read. -/
def DetectsClear (bytes : List UInt8) (t : AndroidJsonlTailer) : Prop :=
  t.offset = 0 ∨ bytes.length < t.offset ∨ rewinds bytes t = true

instance (bytes : List UInt8) (t : AndroidJsonlTailer) : Decidable (DetectsClear bytes t) :=
  inferInstanceAs (Decidable (_ ∨ _ ∨ _))

def ClearsDetected (serde : Serde) (s : SharedState) : DeviceOp serde → Prop
  | .poll => s.cleared = true → DetectsClear (s.file.getD []) s.tailer
  | .append _ | .clear => True

instance (serde : Serde) (s : SharedState) (op : DeviceOp serde) :
    Decidable (ClearsDetected serde s op) :=
  match op with
  | .poll => inferInstanceAs (Decidable (_ → _))
  | .append _ | .clear => .isTrue trivial

/-! ### The text of the rows -/

section
variable {serde : Serde}

def fileText (rs : List (DeviceRow serde)) : List Char := rs.flatMap fun r => r.text ++ ['\n']

@[simp] theorem fileText_nil : fileText ([] : List (DeviceRow serde)) = [] := rfl

@[simp] theorem fileText_append (rs rs' : List (DeviceRow serde)) :
    fileText (rs ++ rs') = fileText rs ++ fileText rs' := List.flatMap_append

theorem terminated_fileText (rs : List (DeviceRow serde)) : Terminated (fileText rs) := by
  induction rs with
  | nil => exact terminated_nil
  | cons r rs ih => exact (terminated_line r.text).append ih

theorem DeviceRow.text_ne_nil (r : DeviceRow serde) : r.text ≠ [] := by
  intro h
  have := r.opens
  simp [h] at this

theorem nonEmptyLines_fileText (rs : List (DeviceRow serde)) :
    nonEmptyLines (fileText rs) = rs.map DeviceRow.text := by
  induction rs with
  | nil => rfl
  | cons r rs ih =>
    rw [fileText, List.flatMap_cons, nonEmptyLines_append (terminated_line r.text),
      nonEmptyLines_line r.oneLine r.text_ne_nil, ← fileText, ih]
    rfl

theorem parseText_fileText (rs : List (DeviceRow serde)) :
    parseText serde (fileText rs) = .ok (rs.filterMap fun r => row serde r.text) := by
  rw [parseText, nonEmptyLines_fileText, parseCompleteLines_of_accepted, List.filterMap_map]
  · rfl
  · simpa using fun r _ => r.accepted

theorem find?_fileText (r : DeviceRow serde) (rs : List (DeviceRow serde)) :
    (fileText (r :: rs)).find? (fun c => !Text.isWhiteSpace c) = some '\x7b' := by
  cases htext : r.text with
  | nil => exact absurd htext r.text_ne_nil
  | cons c cs =>
    have hc : c = '\x7b' := by simpa [htext] using r.opens
    rw [fileText, List.flatMap_cons, htext, hc]
    exact List.find?_cons_of_pos (by decide)

/-! ### Polls of a file of rows -/

theorem poll_truncated {bytes : List UInt8} {t : AndroidJsonlTailer}
    (h : bytes.length < t.offset) : poll serde (some bytes) t = poll serde (some bytes) new := by
  have hnew : ¬ bytes.length < (new : AndroidJsonlTailer).offset := Nat.not_lt_zero _
  simp only [poll, readNewChunk, h, hnew, if_true, if_false]
  rfl

theorem poll_fresh (read unread : List (DeviceRow serde)) :
    poll serde (some (Utf8.encode (fileText (read ++ unread))))
        ⟨(Utf8.encode (fileText read)).length, []⟩ =
      (⟨(Utf8.encode (fileText (read ++ unread))).length, []⟩,
        .ok (unread.filterMap fun r => row serde r.text)) := by
  have hle : (Utf8.encode (fileText read)).length ≤
      (Utf8.encode (fileText (read ++ unread))).length := by simp
  have hchunk : readChunkAtOffset (Utf8.encode (fileText (read ++ unread)))
      (Utf8.encode (fileText read)).length = some (fileText unread) := by
    rw [readChunkAtOffset, fileText_append, Utf8.encode_append, List.drop_left,
      Utf8.decode_encode]
  cases unread with
  | nil =>
    have := poll_idle serde (t := ⟨(Utf8.encode (fileText read)).length, []⟩) hle hchunk
    simpa using this.1
  | cons r rs =>
    have hne : fileText (r :: rs) ≠ [] := by simp [fileText]
    have hrewinds : rewinds (Utf8.encode (fileText (read ++ r :: rs)))
        ⟨(Utf8.encode (fileText read)).length, []⟩ = false := by
      rw [rewinds, hchunk]
      simp [shouldRewindAfterChunkRead, find?_fileText]
    rw [poll_decodable (t := ⟨(Utf8.encode (fileText read)).length, []⟩) hle hchunk hne
      (Utf8.decode_encode _) (by simp [hne])]
    simp only [pollText, hrewinds, Bool.false_eq_true, if_false, hchunk, Option.getD_some,
      List.nil_append]
    rw [partialPart_terminated (terminated_fileText _),
      completePart_terminated (terminated_fileText _), parseText_fileText]

theorem poll_detected (rs : List (DeviceRow serde)) {offset : Nat}
    (h : DetectsClear (Utf8.encode (fileText rs)) ⟨offset, []⟩) :
    poll serde (some (Utf8.encode (fileText rs))) ⟨offset, []⟩ =
      (⟨(Utf8.encode (fileText rs)).length, []⟩,
        .ok (rs.filterMap fun r => row serde r.text)) := by
  have hfresh := poll_fresh ([] : List (DeviceRow serde)) rs
  simp only [List.nil_append, fileText_nil, Utf8.encode_nil, List.length_nil] at hfresh
  by_cases hlt : (Utf8.encode (fileText rs)).length < offset
  · rw [poll_truncated hlt]
    exact hfresh
  rcases h with hzero | hlt' | hrewinds
  · simp only at hzero
    subst hzero
    exact hfresh
  · exact absurd hlt' hlt
  · cases hchunk : readChunkAtOffset (Utf8.encode (fileText rs)) offset with
    | none => simp [rewinds, hchunk] at hrewinds
    | some chunk =>
      have hchunkNe : chunk ≠ [] := by
        rintro rfl
        simp [rewinds, hchunk, shouldRewindAfterChunkRead] at hrewinds
      have hwhole : fileText rs ≠ [] := by
        intro hnil
        simp only [hnil, Utf8.encode_nil, readChunkAtOffset, List.drop_nil] at hchunk
        exact hchunkNe (Option.some.inj (hchunk.symm.trans (Utf8.decode_encode [])))
      rw [poll_decodable (t := ⟨offset, []⟩) (Nat.not_lt.mp hlt) hchunk hchunkNe
        (Utf8.decode_encode _) hwhole]
      simp only [pollText, hrewinds, if_true, Utf8.decode_encode, Option.getD_some]
      rw [partialPart_terminated (terminated_fileText _),
        completePart_terminated (terminated_fileText _), parseText_fileText]

/-! ### The tailer implements the mailbox -/

/-- The file holds the rows since the last clear.  Unless it was cleared, the tailer
stands between those taken and those not; cleared, none of them has been taken. -/
structure Shares (s : SharedState) (unread : List (DeviceRow serde)) : Prop where
  whole : s.tailer.partialLine = []
  absent : s.file = none → s.tailer.offset = 0 ∧ unread = []
  cleared : s.cleared = true → s.file.getD [] = Utf8.encode (fileText unread)
  standing : s.cleared = false → ∃ read : List (DeviceRow serde),
    s.file.getD [] = Utf8.encode (fileText (read ++ unread)) ∧
    s.tailer.offset = (Utf8.encode (fileText read)).length

theorem Shares.append {s : SharedState} {unread : List (DeviceRow serde)}
    (h : Shares s unread) (r : DeviceRow serde) :
    Shares { s with file := EventStore.append s.file r.text } (unread ++ [r]) where
  whole := h.whole
  absent := fun hnone => by simp [EventStore.append] at hnone
  cleared := fun hc => by
    simp [EventStore.append, h.cleared hc, fileText]
  standing := fun hc => by
    obtain ⟨read, hfile, hoffset⟩ := h.standing hc
    exact ⟨read, by simp [EventStore.append, hfile, fileText], hoffset⟩

theorem Shares.clear {s : SharedState} {unread : List (DeviceRow serde)}
    (h : Shares s unread) :
    Shares { s with file := EventStore.clear s.file, cleared := true }
      ([] : List (DeviceRow serde)) where
  whole := h.whole
  absent := fun hnone => ⟨(h.absent (by simpa [EventStore.clear] using hnone)).1, rfl⟩
  cleared := fun _ => by cases hfile : s.file <;> simp [EventStore.clear]
  standing := fun hc => by simp at hc

theorem Shares.poll {s : SharedState} {unread : List (DeviceRow serde)}
    (h : Shares s unread)
    (hok : s.cleared = true → DetectsClear (s.file.getD []) s.tailer) :
    Shares ⟨s.file, (poll serde s.file s.tailer).1, false⟩ ([] : List (DeviceRow serde)) ∧
      (AndroidJsonlTailer.poll serde s.file s.tailer).2 =
        .ok (unread.filterMap fun r => row serde r.text) := by
  obtain ⟨file, ⟨offset, partialLine⟩, cleared⟩ := s
  obtain rfl : partialLine = [] := h.whole
  cases file with
  | none =>
    obtain ⟨hoffset, rfl⟩ := h.absent rfl
    simp only at hoffset
    subst hoffset
    exact ⟨⟨rfl, fun _ => ⟨rfl, rfl⟩, fun hc => by simp at hc, fun _ => ⟨[], rfl, rfl⟩⟩, rfl⟩
  | some bytes =>
    have hpoll : ∃ rs : List (DeviceRow serde), bytes = Utf8.encode (fileText rs) ∧
        AndroidJsonlTailer.poll serde (some bytes) ⟨offset, []⟩ =
          (⟨(Utf8.encode (fileText rs)).length, []⟩,
            .ok (unread.filterMap fun r => row serde r.text)) := by
      cases cleared with
      | true =>
        obtain rfl : bytes = Utf8.encode (fileText unread) := h.cleared rfl
        exact ⟨unread, rfl, poll_detected unread (hok rfl)⟩
      | false =>
        obtain ⟨read, hfile, hoffset⟩ := h.standing rfl
        simp only [Option.getD_some] at hfile hoffset
        subst hfile hoffset
        exact ⟨read ++ unread, rfl, poll_fresh read unread⟩
    obtain ⟨rs, rfl, hpoll⟩ := hpoll
    rw [hpoll]
    exact ⟨⟨rfl, fun hn => by simp at hn, fun hc => by simp at hc,
      fun _ => ⟨rs, by simp, rfl⟩⟩, rfl⟩

theorem sharedStep_simulates (s : SharedState) (unread : List (DeviceRow serde))
    (op : DeviceOp serde) (h : Shares s unread) (hok : ClearsDetected serde s op) :
    Shares ((shared serde).step s op).1 ((mailbox serde).step unread op).1 ∧
      ((shared serde).step s op).2 = ((mailbox serde).step unread op).2.map .ok := by
  cases op with
  | append r => exact ⟨h.append r, rfl⟩
  | clear => exact ⟨h.clear, rfl⟩
  | poll =>
    obtain ⟨hshares, hout⟩ := h.poll hok
    exact ⟨hshares, by simpa [shared, sharedStep, mailbox] using hout⟩

/-- In every run in which each clear is detected by the next poll, the tailer is a
mailbox: a poll delivers the rows appended since the last one and not cleared, and only
these. -/
theorem run_mailbox (serde : Serde) (ops : List (DeviceOp serde))
    (h : (shared serde).Along (ClearsDetected serde) sharedStart ops) :
    ((shared serde).run sharedStart ops).2 = ((mailbox serde).run [] ops).2.map .ok := by
  have hstart : Shares sharedStart ([] : List (DeviceRow serde)) :=
    ⟨rfl, fun _ => ⟨rfl, rfl⟩, fun hc => by simp [sharedStart] at hc, fun _ => ⟨[], rfl, rfl⟩⟩
  exact (Machine.run_simulates sharedStep_simulates hstart h).2

end

/-! ### A clear that is seen, and one that is not -/

def firstRow : DeviceRow sampleSerde :=
  ⟨screenRow '1', by decide, by decide, by decide +kernel⟩

def secondRow : DeviceRow sampleSerde :=
  ⟨screenRow '2', by decide, by decide, by decide +kernel⟩

theorem run_mailbox_truncated :
    ((shared sampleSerde).run sharedStart
      [.append firstRow, .append firstRow, .poll, .clear, .append secondRow, .poll]).2 =
      [.ok [screenEnvelope 1, screenEnvelope 1], .ok [screenEnvelope 2]] := by
  rw [run_mailbox sampleSerde
    [.append firstRow, .append firstRow, .poll, .clear, .append secondRow, .poll]
    (by decide +kernel)]
  decide +kernel

/-- The file has regrown past the old offset, and the row before that offset is lost. -/
theorem run_mailbox_fails :
    let ops := [.append firstRow, .poll, .clear, .append secondRow, .append firstRow, .poll]
    ((shared sampleSerde).run sharedStart ops).2 =
      [.ok [screenEnvelope 1], .ok [screenEnvelope 1]] ∧
    ((mailbox sampleSerde).run [] ops).2 =
      [[screenEnvelope 1], [screenEnvelope 2, screenEnvelope 1]] := by
  decide +kernel

end AndroidJsonlTailer

end Dipecs.Collector
