import Dipecs.Core.ContextMemory
import Dipecs.Library.BufferedFile

/-! Saving and loading the model memory.  The save truncates the only copy and writes the new
one through a buffer; `serde_json` is a parameter. -/

namespace Dipecs.Core

open Dipecs.Spec Dipecs.Library

variable {D : Type}

/-- What `serde_json` does with a store: the pieces that `to_writer_pretty` writes, and
`from_reader`. -/
structure StoreJson (D : Type) where
  pieces : ModelMemoryStore D → List (List UInt8)
  fromReader : List UInt8 → Except String (ModelMemoryStore D)

namespace StoreJson

def text (json : StoreJson D) (m : ModelMemoryStore D) : List UInt8 := (json.pieces m).flatten

/-- The text of the store reads back as the store, its floats as they were written; cut short
it is not a JSON text. -/
structure RoundTrips (json : StoreJson D) (m : ModelMemoryStore D) : Prop where
  whole : json.fromReader (json.text m) = .ok m
  cut : ∀ bytes, bytes <+: json.text m → bytes ≠ json.text m →
    ∃ e, json.fromReader bytes = .error e

end StoreJson

structure StorePath where
  display : String
  parent : Option String

def StorePath.dirToCreate (path : StorePath) : Option String := path.parent.filter (· ≠ "")

/-- Where a save fails, with the error, or the process stops. -/
structure SaveFaults where
  stopsBefore : Bool
  createDir : Option String
  create : Option String
  /-- How many bytes the file takes before each write that fails. -/
  rooms : List (Nat × String)
  /-- How many bytes have reached the file when the process stops. -/
  stopsAfter : Option Nat

def SaveFaults.none : SaveFaults := ⟨false, .none, .none, [], .none⟩

namespace ModelMemoryStore

def applyConfig (m : ModelMemoryStore D) (config : ModelMemoryConfig) : ModelMemoryStore D :=
  let recentLimit := min (max config.recentLimit 1) 50
  { m with
    recentLimit := recentLimit
    topLimit := min (max config.topLimit 1) 32
    momentumDecayMilli := min (max config.momentumDecayMilli 0) 999
    prewarmEffectWindows := min (max config.prewarmEffectWindows 1) 20
    recent := m.recent.drop (m.recent.length - recentLimit) }

def loadFromPath (json : StoreJson D) (path : StorePath) (file : Option (List UInt8)) :
    Except String (ModelMemoryStore D) :=
  match file with
  | none =>
    .error ("open model memory " ++ path.display ++ ": No such file or directory (os error 2)")
  | some bytes =>
    match json.fromReader bytes with
    | .ok m => .ok m
    | .error e => .error ("parse model memory " ++ path.display ++ ": " ++ e)

def loadOrDefault (json : StoreJson D) (config : ModelMemoryConfig)
    (persistPath : Option StorePath) (file : Option (List UInt8)) : ModelMemoryStore D :=
  match persistPath with
  | none => withConfig config
  | some path =>
    match loadFromPath json path file with
    | .ok memory => memory.applyConfig config
    | .error _ => withConfig config

def saveToPath (json : StoreJson D) (path : StorePath) (faults : SaveFaults)
    (previous : Option (List UInt8)) (m : ModelMemoryStore D) :
    Option (List UInt8) × Option (Except String Unit) :=
  if faults.stopsBefore then (previous, none)
  else
    match path.dirToCreate, faults.createDir with
    | some parent, some e =>
      (previous, some (.error ("create model memory dir " ++ parent ++ ": " ++ e)))
    | _, _ =>
      match faults.create with
      | some e => (previous, some (.error ("create model memory " ++ path.display ++ ": " ++ e)))
      | none =>
        -- the file is empty from here on
        let (writer, result) :=
          (BufWriter.new 8192 (File.create faults.rooms)).writeChunks (json.pieces m)
        let written := writer.drop.content
        match faults.stopsAfter with
        | some n => (some (written.take n), none)
        | none =>
          (some written, some (result.mapError fun e =>
            "write model memory " ++ path.display ++ ": " ++ e))

def persistIfConfigured (json : StoreJson D) (persistPath : Option StorePath)
    (faults : SaveFaults) (file : Option (List UInt8)) (m : ModelMemoryStore D) :
    Option (List UInt8) :=
  match persistPath with
  | none => file
  | some path => (saveToPath json path faults file m).1

end ModelMemoryStore

def SaveFaults.Untouched (faults : SaveFaults) (path : StorePath) : Prop :=
  faults.stopsBefore = true ∨ (path.dirToCreate.isSome ∧ faults.createDir.isSome) ∨
    faults.create.isSome

def SaveFaults.Completes (faults : SaveFaults) (text : List UInt8) : Prop :=
  Fits faults.rooms text.length ∧ ∀ n ∈ faults.stopsAfter, text.length ≤ n

namespace ModelMemoryStore

section
variable {json : StoreJson D} {path : StorePath} {faults : SaveFaults}

theorem loadFromPath_text {m : ModelMemoryStore D} (h : json.RoundTrips m) :
    loadFromPath json path (some (json.text m)) = .ok m := by
  rw [loadFromPath, h.whole]

theorem loadFromPath_cut {m m' : ModelMemoryStore D} (h : json.RoundTrips m) {bytes : List UInt8}
    (hstart : bytes <+: json.text m) (hne : bytes ≠ json.text m) :
    loadFromPath json path (some bytes) ≠ .ok m' := by
  obtain ⟨e, he⟩ := h.cut bytes hstart hne
  rw [loadFromPath, he]
  exact nofun

theorem saveToPath_untouched (h : faults.Untouched path) (previous : Option (List UInt8))
    (m : ModelMemoryStore D) :
    (saveToPath json path faults previous m).1 = previous ∧
      (saveToPath json path faults previous m).2 ≠ some (.ok ()) := by
  unfold saveToPath
  split
  · exact ⟨rfl, nofun⟩
  · rename_i hstops
    split
    · exact ⟨rfl, nofun⟩
    · rename_i hdir
      rcases h with h | ⟨hparent, hcreate⟩ | h
      · exact absurd h hstops
      · obtain ⟨parent, hparent⟩ := Option.isSome_iff_exists.mp hparent
        obtain ⟨e, hcreate⟩ := Option.isSome_iff_exists.mp hcreate
        exact absurd hcreate (hdir parent e hparent)
      · obtain ⟨e, he⟩ := Option.isSome_iff_exists.mp h
        rw [he]
        exact ⟨rfl, nofun⟩

theorem saveToPath_opened (h : ¬faults.Untouched path) (previous : Option (List UInt8))
    (m : ModelMemoryStore D) :
    saveToPath json path faults previous m =
      let (writer, result) :=
        (BufWriter.new 8192 (File.create faults.rooms)).writeChunks (json.pieces m)
      match faults.stopsAfter with
      | some n => (some (writer.drop.content.take n), none)
      | none =>
        (some writer.drop.content, some (result.mapError fun e =>
          "write model memory " ++ path.display ++ ": " ++ e)) := by
  unfold SaveFaults.Untouched at h
  simp only [not_or, not_and, Bool.not_eq_true, Option.isSome_eq_false_iff,
    Option.isNone_iff_eq_none] at h
  obtain ⟨hstops, hdir, hcreate⟩ := h
  rw [saveToPath, if_neg (by simp [hstops])]
  split
  · rename_i parent e hparent he
    rw [hdir (by rw [hparent]; rfl)] at he
    cases he
  · rw [hcreate]

theorem saveToPath_touched (h : ¬faults.Untouched path) (previous : Option (List UInt8))
    (m : ModelMemoryStore D) :
    ∃ bytes, (saveToPath json path faults previous m).1 = some bytes ∧ bytes <+: json.text m ∧
      (bytes = json.text m ↔ faults.Completes (json.text m)) := by
  have hwritten := BufWriter.written_cases 8192 faults.rooms (json.pieces m)
  dsimp only at hwritten
  rw [saveToPath_opened h]
  unfold SaveFaults.Completes
  cases faults.stopsAfter with
  | none =>
    refine ⟨_, rfl, ?_⟩
    obtain ⟨hfits, -, hall⟩ | ⟨hfull, hstart, hne⟩ := hwritten
    · exact ⟨hall ▸ List.prefix_rfl, iff_of_true hall ⟨hfits, nofun⟩⟩
    · exact ⟨hstart, iff_of_false hne fun hcompletes => hfull hcompletes.1⟩
  | some n =>
    refine ⟨_, rfl, ?_⟩
    obtain ⟨hfits, -, hall⟩ | ⟨hfull, hstart, hne⟩ := hwritten
    · rw [hall]
      refine ⟨List.take_prefix _ _, ?_⟩
      rw [StoreJson.text, List.take_eq_self_iff]
      exact ⟨fun hle => ⟨hfits, fun k hk => by cases hk; exact hle⟩, fun h => h.2 n rfl⟩
    · refine ⟨(List.take_prefix _ _).trans hstart, iff_of_false (fun heq => hne ?_) fun h =>
        hfull h.1⟩
      have hle := (List.take_prefix n
        (((BufWriter.new 8192 (File.create faults.rooms)).writeChunks
          (json.pieces m)).1.drop.content)).length_le
      rw [heq] at hle
      exact hstart.eq_of_length_le hle

/-- After the save the file loads as the old store or the new one, and as the new one if the
save returns without an error. -/
def Keeps (json : StoreJson D) (path : StorePath) (faults : SaveFaults)
    (old m : ModelMemoryStore D) : Prop :=
  let saved := saveToPath json path faults (some (json.text old)) m
  (loadFromPath json path saved.1 = .ok old ∨ loadFromPath json path saved.1 = .ok m) ∧
    (saved.2 = some (.ok ()) → loadFromPath json path saved.1 = .ok m)

theorem not_keeps_of_cut {old m : ModelMemoryStore D} (hm : json.RoundTrips m)
    (h : ¬faults.Untouched path) (hcut : ¬faults.Completes (json.text m)) :
    ¬Keeps json path faults old m := by
  obtain ⟨bytes, hfile, hstart, hwhole⟩ := saveToPath_touched h (some (json.text old)) m
  have hne : bytes ≠ json.text m := mt hwhole.mp hcut
  rintro ⟨hold | hnew, -⟩
  · exact loadFromPath_cut hm hstart hne (hfile ▸ hold)
  · exact loadFromPath_cut hm hstart hne (hfile ▸ hnew)

/-- A save loses nothing exactly when it ends before the file is opened or completes. -/
theorem keeps_iff {old m : ModelMemoryStore D} (hold : json.RoundTrips old)
    (hm : json.RoundTrips m) :
    Keeps json path faults old m ↔ faults.Untouched path ∨ faults.Completes (json.text m) := by
  constructor
  · intro h
    by_contra hneither
    rw [not_or] at hneither
    exact not_keeps_of_cut hm hneither.1 hneither.2 h
  · intro h
    by_cases huntouched : faults.Untouched path
    · obtain ⟨hfile, hresult⟩ := saveToPath_untouched huntouched (some (json.text old)) m
      refine ⟨.inl ?_, fun hok => absurd hok hresult⟩
      rw [hfile, loadFromPath_text hold]
    · obtain ⟨bytes, hfile, -, hwhole⟩ :=
        saveToPath_touched huntouched (some (json.text old)) m
      have hload : loadFromPath json path
          (saveToPath json path faults (some (json.text old)) m).1 = .ok m := by
        rw [hfile, hwhole.mpr (h.resolve_left huntouched), loadFromPath_text hm]
      exact ⟨.inr hload, fun _ => hload⟩

/-- A store of less than a buffer is saved without an error on whatever disk. -/
theorem saveToPath_ok_of_small (h : ¬faults.Untouched path) (hstops : faults.stopsAfter = none)
    (previous : Option (List UInt8)) {m : ModelMemoryStore D}
    (hsmall : (json.text m).length < 8192) :
    (saveToPath json path faults previous m).2 = some (.ok ()) := by
  have hwritten := BufWriter.writeChunks_small (b := .new 8192 (File.create faults.rooms))
    (json.pieces m) (by rwa [BufWriter.new, List.length_nil, Nat.zero_add])
  rw [saveToPath_opened h, hwritten, hstops]
  rfl

/-- After a save that was cut short the daemon starts from nothing, and says so in a warning
only. -/
theorem loadOrDefault_after_cut {m : ModelMemoryStore D} (hm : json.RoundTrips m)
    (h : ¬faults.Untouched path) (hcut : ¬faults.Completes (json.text m))
    (file : Option (List UInt8)) (config : ModelMemoryConfig) :
    loadOrDefault json config (some path) (persistIfConfigured json (some path) faults file m) =
      withConfig config := by
  obtain ⟨bytes, hfile, hstart, hwhole⟩ := saveToPath_touched h file m
  obtain ⟨e, he⟩ := hm.cut bytes hstart (mt hwhole.mp hcut)
  rw [persistIfConfigured, hfile, loadOrDefault, loadFromPath, he]

end

end ModelMemoryStore

namespace PersistenceSample

def fresh : ModelMemoryStore ℚ := .withConfig {}

def summarized : ModelMemoryStore ℚ := { fresh with llmSummary := some "likes chat" }

def ascii (s : String) : List UInt8 := s.toList.map fun c => UInt8.ofNat c.toNat

def textBefore : List UInt8 :=
  ["\x7b\n", "  \"recent_limit\": 5,\n", "  \"top_limit\": 8,\n",
    "  \"momentum_decay_milli\": 900,\n", "  \"prewarm_effect_windows\": 3,\n",
    "  \"llm_summary\": "].flatMap ascii

def textAfter : List UInt8 :=
  [",\n", "  \"observation_windows\": 0,\n", "  \"foreground_counts\": \x7b\x7d,\n",
    "  \"notifying_counts\": \x7b\x7d,\n", "  \"semantic_hint_counts\": \x7b\x7d,\n",
    "  \"action_success_counts\": \x7b\x7d,\n", "  \"action_denial_counts\": \x7b\x7d,\n",
    "  \"action_failure_counts\": \x7b\x7d,\n", "  \"foreground_momentum\": \x7b\x7d,\n",
    "  \"notifying_momentum\": \x7b\x7d,\n", "  \"semantic_hint_momentum\": \x7b\x7d,\n",
    "  \"action_success_momentum\": \x7b\x7d,\n", "  \"action_denial_momentum\": \x7b\x7d,\n",
    "  \"action_failure_momentum\": \x7b\x7d,\n", "  \"prewarm_hit_counts\": \x7b\x7d,\n",
    "  \"prewarm_miss_counts\": \x7b\x7d,\n", "  \"prewarm_hit_momentum\": \x7b\x7d,\n",
    "  \"prewarm_miss_momentum\": \x7b\x7d,\n", "  \"pending_prewarms\": [],\n",
    "  \"last_updated_window_id\": null,\n", "  \"recent\": []\n", "\x7d"].flatMap ascii

def textWith (summary : String) : List UInt8 := textBefore ++ (ascii summary ++ textAfter)

theorem textWith_not_prefix {summary other : String} {x y : UInt8} {l l' : List UInt8}
    (hsummary : ascii summary = x :: l) (hother : ascii other = y :: l') (hne : x ≠ y) :
    ¬textWith summary <+: textWith other := by
  rw [textWith, textWith, List.prefix_append_right_inj, hsummary, hother, List.cons_append,
    List.cons_append, List.cons_prefix_cons]
  exact fun h => hne h.1

theorem ascii_null : ascii "null" = 110 :: ascii "ull" := by decide +kernel

theorem ascii_quoted : ascii "\"likes chat\"" = 34 :: ascii "likes chat\"" := by
  decide +kernel

theorem null_not_prefix : ¬textWith "null" <+: textWith "\"likes chat\"" :=
  textWith_not_prefix ascii_null ascii_quoted (by decide)

theorem quoted_not_prefix : ¬textWith "\"likes chat\"" <+: textWith "null" :=
  textWith_not_prefix ascii_quoted ascii_null (by decide)

theorem textWith_length : (textWith "\"likes chat\"").length < 8192 := by decide +kernel

def jsonWith (freshText summarizedText : List UInt8) : StoreJson ℚ where
  pieces m := (if m.llmSummary.isSome then summarizedText else freshText).map ([·])
  fromReader bytes :=
    if bytes = freshText then .ok fresh
    else if bytes = summarizedText then .ok summarized
    else .error "EOF while parsing an object"

section
variable {freshText summarizedText : List UInt8}

theorem text_fresh : (jsonWith freshText summarizedText).text fresh = freshText :=
  List.flatMap_def.symm.trans (List.flatMap_singleton' _)

theorem text_summarized :
    (jsonWith freshText summarizedText).text summarized = summarizedText :=
  List.flatMap_def.symm.trans (List.flatMap_singleton' _)

theorem roundTrips_fresh (h : ¬summarizedText <+: freshText) :
    (jsonWith freshText summarizedText).RoundTrips fresh := by
  refine ⟨?_, fun bytes hstart hne => ⟨"EOF while parsing an object", ?_⟩⟩
  · rw [text_fresh]
    exact if_pos rfl
  · rw [text_fresh] at hstart hne
    refine (if_neg hne).trans (if_neg ?_)
    rintro rfl
    exact h hstart

theorem roundTrips_summarized (h : ¬freshText <+: summarizedText) :
    (jsonWith freshText summarizedText).RoundTrips summarized := by
  refine ⟨?_, fun bytes hstart hne => ⟨"EOF while parsing an object", ?_⟩⟩
  · rw [text_summarized]
    exact (if_neg fun heq : summarizedText = freshText => h (heq ▸ List.prefix_rfl)).trans
      (if_pos rfl)
  · rw [text_summarized] at hstart hne
    refine (if_neg ?_).trans (if_neg hne)
    rintro rfl
    exact h hstart

end

def json : StoreJson ℚ := jsonWith (textWith "null") (textWith "\"likes chat\"")

def path : StorePath := ⟨"/data/memory.json", some "/data"⟩

def diskFull : SaveFaults :=
  ⟨false, none, none, [(0, "No space left on device (os error 28)")], none⟩

end PersistenceSample

namespace ModelMemoryStore

open PersistenceSample

theorem keeps_iff_complete : Keeps json path .none fresh summarized :=
  (keeps_iff (roundTrips_fresh quoted_not_prefix)
    (roundTrips_summarized null_not_prefix)).mpr (.inr ⟨nofun, nofun⟩)

/-- On a full disk the save reports success, and the memory is gone. -/
theorem saveToPath_loses :
    (saveToPath json path diskFull (some (json.text fresh)) summarized).2 = some (.ok ()) ∧
      ¬Keeps json path diskFull fresh summarized := by
  have htext : json.text summarized = textWith "\"likes chat\"" := text_summarized
  have hopened : ¬diskFull.Untouched path := by simp [SaveFaults.Untouched, diskFull]
  refine ⟨saveToPath_ok_of_small hopened rfl _ (htext ▸ textWith_length), not_keeps_of_cut
    (roundTrips_summarized null_not_prefix) hopened fun hcompletes => ?_⟩
  have hfits : (textWith "\"likes chat\"").length ≤ 0 :=
    htext ▸ hcompletes.1 (0, "No space left on device (os error 28)") rfl
  rw [textWith, List.length_append] at hfits
  exact absurd (Nat.le_trans (Nat.le_add_right _ _) hfits) (by decide +kernel)

end ModelMemoryStore

end Dipecs.Core
