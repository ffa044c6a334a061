import Dipecs.Collector.AndroidJsonl
import Dipecs.Library.Machine

/-! Runs of the tailer against a file that only grows: what has been read, and what has
been delivered of it. -/

namespace Dipecs.Collector

open Dipecs.Spec Dipecs.Library

namespace AndroidJsonlTailer

/-! ### Lines and rows -/

def parsed (serde : Serde) (line : List Char) :
    Except AndroidJsonlError (Option CollectorEnvelope) :=
  AndroidJsonlIngress.parseLine serde (trimEndCr (trimEndCr line))

def rejected (serde : Serde) (line : List Char) : Bool := !(parsed serde line).isOk

def row (serde : Serde) (line : List Char) : Option CollectorEnvelope :=
  ((parsed serde line).toOption).join

def rows (serde : Serde) (text : List Char) : List CollectorEnvelope :=
  (nonEmptyLines text).filterMap (row serde)

def parseText (serde : Serde) (text : List Char) :
    Except AndroidJsonlError (List CollectorEnvelope) :=
  parseCompleteLines serde ((nonEmptyLines text).map trimEndCr)

section
variable {serde : Serde}

@[simp] theorem rows_nil : rows serde [] = [] := rfl

theorem rows_append {cs : List Char} (h : Terminated cs) (ds : List Char) :
    rows serde (cs ++ ds) = rows serde cs ++ rows serde ds := by
  rw [rows, nonEmptyLines_append h, List.filterMap_append, rows, rows]

theorem parseCompleteLines_of_accepted {lines : List (List Char)}
    (h : ∀ line ∈ lines, rejected serde line = false) :
    parseCompleteLines serde (lines.map trimEndCr) = .ok (lines.filterMap (row serde)) := by
  induction lines with
  | nil => rfl
  | cons line lines ih =>
    have hline : rejected serde line = false := h line (by simp)
    have hlines := ih fun l hl => h l (by simp [hl])
    cases hp : parsed serde line with
    | error e => simp [rejected, hp, Except.isOk, Except.toBool] at hline
    | ok envelope =>
      rw [List.map_cons, parseCompleteLines, hlines]
      rw [parsed] at hp
      rw [hp]
      cases envelope <;> simp [row, parsed, hp, Except.toOption]

theorem parseCompleteLines_of_rejected {lines : List (List Char)}
    (h : ∃ line ∈ lines, rejected serde line = true) :
    ∃ e, parseCompleteLines serde (lines.map trimEndCr) = .error e := by
  induction lines with
  | nil => simp at h
  | cons line lines ih =>
    rw [List.map_cons, parseCompleteLines]
    cases hp : parsed serde line with
    | error e => exact ⟨e, by rw [parsed] at hp; rw [hp]⟩
    | ok envelope =>
      have hrest : ∃ l ∈ lines, rejected serde l = true := by
        obtain ⟨l, hl, hr⟩ := h
        rcases List.mem_cons.mp hl with rfl | hl
        · simp [rejected, hp, Except.isOk, Except.toBool] at hr
        · exact ⟨l, hl, hr⟩
      obtain ⟨e, he⟩ := ih hrest
      exact ⟨e, by rw [parsed] at hp; rw [hp, he]⟩

end

/-! ### One poll -/

/-- Does new content make the tailer start over? -/
def rewinds (bytes : List UInt8) (t : AndroidJsonlTailer) : Bool :=
  match readChunkAtOffset bytes t.offset with
  | some chunk => t.shouldRewindAfterChunkRead t.offset chunk
  | none => false

/-- The text a poll cuts into lines: all of the file after a rewind, else the partial
line with what is new. -/
def pollText (bytes : List UInt8) (t : AndroidJsonlTailer) : List Char :=
  if rewinds bytes t then (Utf8.decode bytes).getD []
  else t.partialLine ++ (readChunkAtOffset bytes t.offset).getD []

section
variable {serde : Serde} {bytes : List UInt8} {t : AndroidJsonlTailer}

theorem poll_undecodable (hle : t.offset ≤ bytes.length)
    (h : readChunkAtOffset bytes t.offset = none) :
    poll serde (some bytes) t = (t, .error .io) := by
  simp [poll, readNewChunk, Nat.not_lt.mpr hle, h]

theorem rewinds_partialLine (h : rewinds bytes t = true) : t.partialLine = [] := by
  unfold rewinds at h
  cases hc : readChunkAtOffset bytes t.offset with
  | none => simp [hc] at h
  | some chunk =>
    simp only [hc, shouldRewindAfterChunkRead] at h
    by_contra hne
    simp [hne] at h

theorem poll_decodable (hle : t.offset ≤ bytes.length) {chunk : List Char}
    (h : readChunkAtOffset bytes t.offset = some chunk) (hchunk : chunk ≠ [])
    {whole : List Char} (hwhole : Utf8.decode bytes = some whole) (hne : whole ≠ []) :
    poll serde (some bytes) t =
      (⟨bytes.length, partialPart (pollText bytes t)⟩,
        parseText serde (completePart (pollText bytes t))) := by
  have hlen : t.offset + (bytes.length - t.offset) = bytes.length := by omega
  have hzero : readChunkAtOffset bytes 0 = some whole := by
    rw [readChunkAtOffset, List.drop_zero, hwhole]
  have hrewinds : rewinds bytes t = t.shouldRewindAfterChunkRead t.offset chunk := by
    simp [rewinds, h]
  cases hr : rewinds bytes t with
  | true =>
    have hread : (⟨bytes.length, t.partialLine⟩ :
        AndroidJsonlTailer).shouldRewindAfterChunkRead t.offset chunk = true := by
      rw [← hr, hrewinds]
      rfl
    simp [poll, readNewChunk, Nat.not_lt.mpr hle, h, hlen, hread, hzero, hne, takeCompleteLines,
      pollText, hr, hwhole, parseText]
  | false =>
    have hread : (⟨bytes.length, t.partialLine⟩ :
        AndroidJsonlTailer).shouldRewindAfterChunkRead t.offset chunk = false := by
      rw [← hr, hrewinds]
      rfl
    simp [poll, readNewChunk, Nat.not_lt.mpr hle, h, hlen, hread, hchunk, takeCompleteLines,
      pollText, hr, parseText]

theorem poll_idle (serde : Serde) (hle : t.offset ≤ bytes.length)
    (h : readChunkAtOffset bytes t.offset = some []) :
    poll serde (some bytes) t = (t, .ok []) ∧ t.offset = bytes.length := by
  have hdrop : bytes.drop t.offset = [] := by
    rw [← Utf8.decode_eq_some.mp h]
    rfl
  have hlen : t.offset = bytes.length := le_antisymm hle (by simpa using hdrop)
  refine ⟨?_, hlen⟩
  have hread : (⟨t.offset, t.partialLine⟩ :
      AndroidJsonlTailer).shouldRewindAfterChunkRead t.offset [] = false := by
    simp [shouldRewindAfterChunkRead]
  simp [poll, readNewChunk, Nat.not_lt.mpr hle, h, hdrop, hread]

end

/-! ### What has been read -/

/-- The tailer stands within the file, behind the complete lines of `consumed` and a
partial line. -/
structure Tracks (bytes : List UInt8) (t : AndroidJsonlTailer) (consumed : List Char) :
    Prop where
  within : t.offset ≤ bytes.length
  read : bytes.take t.offset = Utf8.encode (consumed ++ t.partialLine)
  terminated : Terminated consumed
  unfinished : '\n' ∉ t.partialLine

namespace Tracks
variable {serde : Serde} {bytes : List UInt8} {t : AndroidJsonlTailer} {consumed : List Char}

theorem start : Tracks [] .new [] := ⟨le_refl _, rfl, terminated_nil, by simp [new]⟩

theorem append (h : Tracks bytes t consumed) (more : List UInt8) :
    Tracks (bytes ++ more) t consumed where
  within := by
    rw [List.length_append]
    exact Nat.le_add_right_of_le h.within
  read := by rw [List.take_append_of_le_length h.within, h.read]
  terminated := h.terminated
  unfinished := h.unfinished

theorem bytes_eq (h : Tracks bytes t consumed) {chunk : List Char}
    (hchunk : readChunkAtOffset bytes t.offset = some chunk) :
    bytes = Utf8.encode (consumed ++ (t.partialLine ++ chunk)) := by
  rw [← List.append_assoc, Utf8.encode_append, ← h.read, Utf8.decode_eq_some.mp hchunk,
    List.take_append_drop]

theorem poll (h : Tracks bytes t consumed) {chunk : List Char}
    (hchunk : readChunkAtOffset bytes t.offset = some chunk) :
    Tracks bytes ⟨bytes.length, partialPart (pollText bytes t)⟩
      ((if rewinds bytes t then [] else consumed) ++ completePart (pollText bytes t)) where
  within := le_refl _
  read := by
    have hbytes := h.bytes_eq hchunk
    rw [List.take_length, List.append_assoc, completePart_append_partialPart]
    cases hr : rewinds bytes t with
    | true =>
      have hdec : Utf8.decode bytes = some (consumed ++ (t.partialLine ++ chunk)) :=
        Utf8.decode_eq_some.mpr hbytes.symm
      simpa [pollText, hr, hdec] using hbytes
    | false => simpa [pollText, hr, hchunk] using hbytes
  terminated := by
    refine Terminated.append ?_ (terminated_completePart _)
    split
    · exact terminated_nil
    · exact h.terminated
  unfinished := not_mem_partialPart _

theorem completePart_read (h : Tracks bytes t consumed) :
    completePart (consumed ++ t.partialLine) = consumed :=
  completePart_append h.terminated h.unfinished

end Tracks

/-! ### Runs -/

inductive TailOp
  | append (bytes : List UInt8)
  | poll

structure TailState where
  file : Option (List UInt8)
  tailer : AndroidJsonlTailer

def tailStart : TailState := ⟨none, .new⟩

def tailStep (serde : Serde) (s : TailState) :
    TailOp → TailState × List (Except AndroidJsonlError (List CollectorEnvelope))
  | .append bytes => ({ s with file := some (s.file.getD [] ++ bytes) }, [])
  | .poll => ({ s with tailer := (poll serde s.file s.tailer).1 }, [(poll serde s.file s.tailer).2])

def tailMachine (serde : Serde) :
    Machine TailState TailOp (Except AndroidJsonlError (List CollectorEnvelope)) :=
  ⟨tailStep serde⟩

def TailState.bytes (s : TailState) : List UInt8 := s.file.getD []

def appended (ops : List TailOp) : List UInt8 :=
  ops.flatMap fun
    | .append bytes => bytes
    | .poll => []

def delivered (out : List (Except AndroidJsonlError (List CollectorEnvelope))) :
    List CollectorEnvelope :=
  out.flatMap fun
    | .ok envelopes => envelopes
    | .error _ => []

/-- A poll that isolates errors: it does not parse a rejected line together with a valid
row, and it starts over only when no valid row has been read. -/
def PollIsolates (serde : Serde) (bytes : List UInt8) (t : AndroidJsonlTailer) : Prop :=
  ((∀ line ∈ nonEmptyLines (completePart (pollText bytes t)), rejected serde line = false) ∨
    rows serde (completePart (pollText bytes t)) = []) ∧
  (rewinds bytes t = true →
    rows serde (completePart ((Utf8.decode (bytes.take t.offset)).getD [])) = [])

instance (serde : Serde) (bytes : List UInt8) (t : AndroidJsonlTailer) :
    Decidable (PollIsolates serde bytes t) := inferInstanceAs (Decidable (_ ∧ _))

def Isolates (serde : Serde) (s : TailState) : TailOp → Prop
  | .append _ => True
  | .poll => PollIsolates serde s.bytes s.tailer

instance (serde : Serde) (s : TailState) (op : TailOp) : Decidable (Isolates serde s op) :=
  match op with
  | .append _ => .isTrue trivial
  | .poll => inferInstanceAs (Decidable (PollIsolates serde s.bytes s.tailer))

section
variable {serde : Serde} {bytes : List UInt8} {t : AndroidJsonlTailer} {consumed : List Char}

theorem poll_tracks (h : Tracks bytes t consumed) (hok : PollIsolates serde bytes t) :
    ∃ consumed', Tracks bytes (poll serde (some bytes) t).1 consumed' ∧
      rows serde consumed' =
        rows serde consumed ++ delivered [(poll serde (some bytes) t).2] := by
  cases hchunk : readChunkAtOffset bytes t.offset with
  | none =>
    rw [poll_undecodable h.within hchunk]
    exact ⟨consumed, h, by simp [delivered]⟩
  | some chunk =>
    by_cases hne : chunk = []
    · subst hne
      rw [(poll_idle serde h.within hchunk).1]
      exact ⟨consumed, h, by simp [delivered]⟩
    have hwhole : Utf8.decode bytes = some (consumed ++ (t.partialLine ++ chunk)) :=
      Utf8.decode_eq_some.mpr (h.bytes_eq hchunk).symm
    rw [poll_decodable h.within hchunk hne hwhole (by simp [hne])]
    refine ⟨_, h.poll hchunk, ?_⟩
    have hdelivered : delivered [parseText serde (completePart (pollText bytes t))] =
        rows serde (completePart (pollText bytes t)) := by
      rcases hok.1 with haccepted | hnone
      · simp [delivered, parseText, parseCompleteLines_of_accepted haccepted, rows]
      · by_cases haccepted : ∀ line ∈ nonEmptyLines (completePart (pollText bytes t)),
            rejected serde line = false
        · simp [delivered, parseText, parseCompleteLines_of_accepted haccepted, rows]
        · push Not at haccepted
          have hrejected : ∃ line ∈ nonEmptyLines (completePart (pollText bytes t)),
              rejected serde line = true := by simpa using haccepted
          obtain ⟨e, he⟩ := parseCompleteLines_of_rejected hrejected
          simp [delivered, parseText, he, hnone]
    rw [hdelivered]
    cases hr : rewinds bytes t with
    | false =>
      simp only [Bool.false_eq_true, if_false]
      rw [rows_append h.terminated]
    | true =>
      have hread : Utf8.decode (bytes.take t.offset) = some (consumed ++ t.partialLine) :=
        Utf8.decode_eq_some.mpr h.read.symm
      have hnone := hok.2 hr
      rw [hread, Option.getD_some, h.completePart_read] at hnone
      simp [hnone]

/-- What holds after any run: the tailer tracks the file, and has delivered the valid
rows of the lines it has read. -/
structure RunInv (serde : Serde) (pre : List TailOp)
    (out : List (Except AndroidJsonlError (List CollectorEnvelope))) (s : TailState) : Prop where
  bytes : s.bytes = appended pre
  tracks : ∃ consumed, Tracks s.bytes s.tailer consumed ∧ delivered out = rows serde consumed

theorem RunInv.start : RunInv serde [] [] tailStart := ⟨rfl, [], Tracks.start, rfl⟩

theorem RunInv.step {pre : List TailOp}
    {out : List (Except AndroidJsonlError (List CollectorEnvelope))} {s : TailState}
    (h : RunInv serde pre out s) (op : TailOp) (hok : Isolates serde s op) :
    RunInv serde (pre ++ [op]) (out ++ (tailStep serde s op).2) (tailStep serde s op).1 := by
  obtain ⟨consumed, htracks, hdelivered⟩ := h.tracks
  cases op with
  | append more =>
    constructor
    · simpa [tailStep, TailState.bytes, appended] using h.bytes
    · exact ⟨consumed, htracks.append more, by simpa [tailStep] using hdelivered⟩
  | poll =>
    refine ⟨by simpa [tailStep, appended, TailState.bytes] using h.bytes, ?_⟩
    cases hfile : s.file with
    | none =>
      have hpoll : AndroidJsonlTailer.poll serde s.file s.tailer = (s.tailer, .ok []) := by
        simp [hfile, AndroidJsonlTailer.poll, readNewChunk]
      refine ⟨consumed, by simpa [tailStep, TailState.bytes, hpoll] using htracks, ?_⟩
      simpa [tailStep, hpoll, delivered] using hdelivered
    | some bytes =>
      have hbytes : s.bytes = bytes := by simp [TailState.bytes, hfile]
      rw [hbytes] at htracks
      have hok' : PollIsolates serde bytes s.tailer := hbytes ▸ hok
      obtain ⟨consumed', htracks', hrows⟩ := poll_tracks htracks hok'
      refine ⟨consumed', by simpa [tailStep, TailState.bytes, hfile] using htracks', ?_⟩
      rw [hrows, ← hdelivered]
      simp [tailStep, delivered, hfile]

theorem run_inv {ops : List TailOp}
    (h : (tailMachine serde).Along (Isolates serde) tailStart ops) :
    RunInv serde ops ((tailMachine serde).run tailStart ops).2
      ((tailMachine serde).run tailStart ops).1 := by
  exact Machine.run_history (RunInv serde) (fun _ _ _ op h hok => h.step op hok) RunInv.start h

end

/-- In every run whose polls isolate errors, exactly the valid rows of the lines read
have been delivered, in order; once all is read, those of all complete lines. -/
theorem run_isolates (serde : Serde) (ops : List TailOp)
    (h : (tailMachine serde).Along (Isolates serde) tailStart ops) :
    let (s, out) := (tailMachine serde).run tailStart ops
    ∃ consumed, Terminated consumed ∧ '\n' ∉ s.tailer.partialLine ∧
      (appended ops).take s.tailer.offset = Utf8.encode (consumed ++ s.tailer.partialLine) ∧
      delivered out = rows serde consumed ∧
      ∀ text, appended ops = Utf8.encode text → s.tailer.offset = (appended ops).length →
        delivered out = rows serde (completePart text) := by
  obtain ⟨hbytes, consumed, htracks, hdelivered⟩ := run_inv h
  rw [hbytes] at htracks
  refine ⟨consumed, htracks.terminated, htracks.unfinished, htracks.read, hdelivered, ?_⟩
  intro text htext hall
  have hread := htracks.read
  rw [hall, List.take_length, htext] at hread
  rw [Utf8.encode_injective hread, htracks.completePart_read]
  exact hdelivered

/-! ### Clean files -/

def StartsObject (line : List Char) : Prop :=
  ∀ c ∈ line.find? (fun c => !Text.isWhiteSpace c), c = '\x7b'

instance : DecidablePred StartsObject := fun line =>
  Option.decidableForallMem (line.find? fun c => !Text.isWhiteSpace c)

/-- A text all of whose complete lines are accepted, and all of whose lines, the
incomplete one at its end too, are blank or open an object. -/
structure CleanText (serde : Serde) (text : List Char) : Prop where
  accepted : ∀ line ∈ nonEmptyLines (completePart text), rejected serde line = false
  starts : ∀ line ∈ text.splitOn '\n', StartsObject line

theorem startsObject_of_lines {cs : List Char} (h : ∀ line ∈ cs.splitOn '\n', StartsObject line) :
    StartsObject cs := by
  induction cs with
  | nil => intro c hc; simp at hc
  | cons c cs ih =>
    rw [List.splitOn_cons_eq_if_modifyHead] at h
    by_cases hnl : c = '\n'
    · subst hnl
      simp only [beq_self_eq_true, if_true, List.mem_cons, forall_eq_or_imp] at h
      intro d hd
      rw [List.find?_cons_of_neg (by decide)] at hd
      exact ih h.2 d hd
    · rw [if_neg (by simpa using hnl)] at h
      cases hs : cs.splitOn '\n' with
      | nil => exact absurd hs (List.splitOn_ne_nil _ _)
      | cons first others =>
        simp only [hs, List.modifyHead_cons, List.mem_cons, forall_eq_or_imp] at h
        intro d hd
        by_cases hws : Text.isWhiteSpace c = true
        · rw [List.find?_cons_of_neg (by simpa using hws)] at hd
          refine ih ?_ d hd
          rw [hs]
          simp only [List.mem_cons, forall_eq_or_imp]
          refine ⟨fun e he => h.1 e ?_, h.2⟩
          rw [List.find?_cons_of_neg (by simpa using hws)]
          exact he
        · rw [List.find?_cons_of_pos (by simpa using hws)] at hd
          exact h.1 d (by rw [List.find?_cons_of_pos (by simpa using hws)]; exact hd)

section
variable {serde : Serde} {bytes : List UInt8} {t : AndroidJsonlTailer}
  {consumed text : List Char}

theorem not_rewinds_of_clean (htext : CleanText serde text) (h : Tracks bytes t consumed)
    (hbytes : bytes <+: Utf8.encode text) : rewinds bytes t = false := by
  cases hchunk : readChunkAtOffset bytes t.offset with
  | none => simp [rewinds, hchunk]
  | some chunk =>
    rw [← Bool.not_eq_true]
    intro hr
    have hpartial := rewinds_partialLine hr
    obtain ⟨rest, hrest⟩ := hbytes
    rw [h.bytes_eq hchunk, hpartial, List.nil_append] at hrest
    obtain ⟨more, rfl, -⟩ := Utf8.encode_append_eq hrest
    have hstarts : StartsObject (chunk ++ more) := startsObject_of_lines fun line hline =>
      htext.starts line (by rw [List.append_assoc]; exact mem_splitOn_append h.terminated hline)
    simp only [rewinds, hchunk, shouldRewindAfterChunkRead] at hr
    split at hr
    · simp at hr
    · cases hfind : chunk.find? (fun c => !Text.isWhiteSpace c) with
      | none => simp [hfind] at hr
      | some c =>
        have := hstarts c (by rw [List.find?_append, hfind]; rfl)
        simp [hfind, this] at hr

theorem accepted_of_clean (htext : CleanText serde text) (h : Tracks bytes t consumed)
    (hbytes : bytes <+: Utf8.encode text) :
    ∀ line ∈ nonEmptyLines (completePart (pollText bytes t)), rejected serde line = false := by
  rw [pollText, not_rewinds_of_clean htext h hbytes]
  simp only [Bool.false_eq_true, if_false]
  cases hchunk : readChunkAtOffset bytes t.offset with
  | none =>
    have hnone := completePart_append terminated_nil h.unfinished
    rw [List.nil_append] at hnone
    simp [hnone, nonEmptyLines]
  | some chunk =>
    intro line hline
    obtain ⟨rest, hrest⟩ := hbytes
    rw [h.bytes_eq hchunk] at hrest
    obtain ⟨more, rfl, -⟩ := Utf8.encode_append_eq hrest
    apply htext.accepted
    rw [List.append_assoc, completePart_terminated_append h.terminated,
      nonEmptyLines_append h.terminated]
    apply List.mem_append_right
    rw [← completePart_append_partialPart (t.partialLine ++ chunk), List.append_assoc,
      completePart_terminated_append (terminated_completePart _),
      nonEmptyLines_append (terminated_completePart _)]
    exact List.mem_append_left _ hline

theorem isolates_of_clean (htext : CleanText serde text) (h : Tracks bytes t consumed)
    (hbytes : bytes <+: Utf8.encode text) : PollIsolates serde bytes t := by
  refine ⟨.inl (accepted_of_clean htext h hbytes), fun hr => ?_⟩
  simp [not_rewinds_of_clean htext h hbytes] at hr

theorem run_inv_of_clean (htext : CleanText serde text) {ops : List TailOp}
    (hops : appended ops <+: Utf8.encode text) :
    RunInv serde ops ((tailMachine serde).run tailStart ops).2
      ((tailMachine serde).run tailStart ops).1 := by
  refine Machine.run_history
    (fun pre out s => appended pre <+: Utf8.encode text → RunInv serde pre out s) ?_
    (fun _ => RunInv.start) ((tailMachine serde).along_true _ ops) hops
  · intro pre out s op ih _ hpre
    have hpre' : appended pre <+: Utf8.encode text :=
      (List.prefix_append _ _).trans (by simpa [appended] using hpre)
    have hinv := ih hpre'
    refine hinv.step op ?_
    cases op with
    | append more => trivial
    | poll =>
      obtain ⟨consumed, htracks, -⟩ := hinv.tracks
      exact isolates_of_clean htext htracks (hinv.bytes ▸ hpre')

theorem poll_clean (htext : CleanText serde text) {file : Option (List UInt8)}
    (h : Tracks (file.getD []) t consumed) (hbytes : file.getD [] <+: Utf8.encode text) :
    (∀ e, (poll serde file t).2 = .error e →
      Utf8.decode ((file.getD []).drop t.offset) = none ∧ (poll serde file t).1 = t) ∧
    (∀ envelopes, (poll serde file t).2 = .ok envelopes →
      (poll serde file t).1.offset = (file.getD []).length) := by
  cases file with
  | none =>
    have hzero : t.offset = 0 := Nat.le_zero.mp h.within
    simp [poll, readNewChunk, hzero]
  | some bytes =>
    rw [Option.getD_some] at h hbytes ⊢
    cases hchunk : readChunkAtOffset bytes t.offset with
    | none =>
      rw [poll_undecodable h.within hchunk]
      exact ⟨fun e _ => ⟨hchunk, rfl⟩, fun envelopes hok => by simp at hok⟩
    | some chunk =>
      by_cases hne : chunk = []
      · subst hne
        obtain ⟨hpoll, hlen⟩ := poll_idle serde h.within hchunk
        rw [hpoll]
        exact ⟨fun e he => by simp at he, fun _ _ => hlen⟩
      · have hwhole : Utf8.decode bytes = some (consumed ++ (t.partialLine ++ chunk)) :=
          Utf8.decode_eq_some.mpr (h.bytes_eq hchunk).symm
        rw [poll_decodable h.within hchunk hne hwhole (by simp [hne]), parseText,
          parseCompleteLines_of_accepted (accepted_of_clean htext h hbytes)]
        exact ⟨fun e he => by simp at he, fun _ _ => rfl⟩

end

/-- Against a clean file cut and polled anyhow, the successful polls have delivered the
parse of the complete lines read, in order and once; the offset less the partial line
is the end of a complete line; and a poll that fails leaves the tailer as it was. -/
theorem run_exactly_once (serde : Serde) (text : List Char) (htext : CleanText serde text)
    (ops : List TailOp) (hops : appended ops <+: Utf8.encode text) :
    let (s, out) := (tailMachine serde).run tailStart ops
    (∃ consumed, Terminated consumed ∧ '\n' ∉ s.tailer.partialLine ∧
      (appended ops).take s.tailer.offset = Utf8.encode (consumed ++ s.tailer.partialLine) ∧
      s.tailer.offset =
        (Utf8.encode consumed).length + (Utf8.encode s.tailer.partialLine).length ∧
      delivered out = rows serde consumed) ∧
    (∀ e, (poll serde s.file s.tailer).2 = .error e →
      Utf8.decode ((appended ops).drop s.tailer.offset) = none ∧
      (poll serde s.file s.tailer).1 = s.tailer) ∧
    (∀ envelopes, (poll serde s.file s.tailer).2 = .ok envelopes →
      (poll serde s.file s.tailer).1.offset = (appended ops).length) := by
  obtain ⟨hbytes, consumed, htracks, hdelivered⟩ := run_inv_of_clean htext hops
  have hprefix : ((tailMachine serde).run tailStart ops).1.bytes <+: Utf8.encode text := by
    rwa [hbytes]
  have hpoll := poll_clean htext htracks hprefix
  simp only [TailState.bytes] at hbytes htracks hpoll
  rw [hbytes] at htracks hpoll
  refine ⟨⟨consumed, htracks.terminated, htracks.unfinished, htracks.read, ?_, hdelivered⟩, hpoll⟩
  have hlength := congrArg List.length htracks.read
  rwa [List.length_take, Nat.min_eq_left htracks.within, Utf8.encode_append,
    List.length_append] at hlength

/-! ### Sample rows -/

def screenRow (digit : Char) : List Char :=
  ['\x7b', '"', 'r', 'a', 'w', 'E', 'v', 'e', 'n', 't', '"', ':', '\x7b', '"', 'S', 'c', 'r',
    'e', 'e', 'n', 'S', 't', 'a', 't', 'e', '"', ':', '\x7b', '"', 't', 'i', 'm', 'e', 's', 't',
    'a', 'm', 'p', '_', 'm', 's', '"', ':', digit, ',', '"', 's', 't', 'a', 't', 'e', '"', ':',
    '"', 'I', 'n', 't', 'e', 'r', 'a', 'c', 't', 'i', 'v', 'e', '"', '\x7d', '\x7d', '\x7d']

def screenJson (timestamp : UInt64) : Json :=
  .obj [("rawEvent", .obj [("ScreenState",
    .obj [("state", .str "Interactive"), ("timestamp_ms", .posInt timestamp)])])]

def screenEnvelope (timestamp : Int) : CollectorEnvelope :=
  ⟨"dipecs.collector.v1", "apps.android-collector", .publicApi, none, timestamp, none,
    .screenState ⟨timestamp, .interactive⟩⟩

def sampleSerde : Serde where
  fromStr line :=
    if line = String.ofList (screenRow '1') then .ok (screenJson 1)
    else if line = String.ofList (screenRow '2') then .ok (screenJson 2)
    else if line = "3" then .ok (.posInt 3)
    else .error "expected value at line 1 column 1"
  rawEvent
    | .obj [("ScreenState",
        .obj [("state", .str "Interactive"), ("timestamp_ms", .posInt timestamp)])] =>
      .ok (.screenState ⟨timestamp.toNat, .interactive⟩)
    | _ => .error "unknown variant"

def appendText (text : List Char) : TailOp := .append (Utf8.encode text)

def deliveredBy (ops : List TailOp) : List CollectorEnvelope :=
  delivered ((tailMachine sampleSerde).run tailStart ops).2

def readToEnd (ops : List TailOp) : Bool :=
  ((tailMachine sampleSerde).run tailStart ops).1.tailer.offset == (appended ops).length

theorem run_isolates_malformed :
    deliveredBy [appendText ['x', '\n'], .poll, appendText (screenRow '1' ++ ['\n']), .poll] =
      rows sampleSerde (completePart (['x', '\n'] ++ screenRow '1' ++ ['\n'])) := by
  obtain ⟨_, -, -, -, -, h⟩ := run_isolates sampleSerde
    [appendText ['x', '\n'], .poll, appendText (screenRow '1' ++ ['\n']), .poll]
    (by decide +kernel)
  exact h _ (by decide +kernel) (by decide +kernel)

/-- A malformed line takes its neighbour with it, and a line that is not an object has
every row before it delivered again. -/
theorem run_isolates_fails :
    let lost := [appendText (screenRow '1' ++ ['\n', 'x', '\n']), .poll]
    let repeated := [appendText (screenRow '1' ++ ['\n']), .poll, appendText ['3', '\n'], .poll]
    readToEnd lost = true ∧ deliveredBy lost = [] ∧
    rows sampleSerde (screenRow '1' ++ ['\n', 'x', '\n']) = [screenEnvelope 1] ∧
    readToEnd repeated = true ∧ deliveredBy repeated = [screenEnvelope 1, screenEnvelope 1] ∧
    rows sampleSerde (screenRow '1' ++ ['\n', '3', '\n']) = [screenEnvelope 1] := by
  decide +kernel

theorem run_exactly_once_cut :
    let ops := [appendText (screenRow '1'), .poll, appendText ['\n'], .poll,
      appendText (screenRow '2' ++ ['\n']), .poll]
    (∃ consumed, Terminated consumed ∧ deliveredBy ops = rows sampleSerde consumed) ∧
      deliveredBy ops = [screenEnvelope 1, screenEnvelope 2] := by
  intro ops
  obtain ⟨⟨consumed, hterminated, -, -, -, hrows⟩, -⟩ := run_exactly_once sampleSerde
    (screenRow '1' ++ ['\n'] ++ screenRow '2' ++ ['\n']) ⟨by decide +kernel, by decide +kernel⟩
    ops (by decide +kernel)
  exact ⟨⟨consumed, hterminated, hrows⟩, by decide +kernel⟩

/-- All complete lines are accepted and open an object; an incomplete one that does not
has them delivered again. -/
theorem run_exactly_once_fails :
    let text := screenRow '1' ++ ['\n', 'x']
    let ops := [appendText (screenRow '1' ++ ['\n']), .poll, appendText ['x'], .poll]
    appended ops = Utf8.encode text ∧
    (∀ line ∈ nonEmptyLines (completePart text),
      rejected sampleSerde line = false ∧ StartsObject line) ∧
    deliveredBy ops = [screenEnvelope 1, screenEnvelope 1] ∧
    rows sampleSerde (completePart text) = [screenEnvelope 1] := by
  decide +kernel

end AndroidJsonlTailer

end Dipecs.Collector
