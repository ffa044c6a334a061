import Dipecs.Device.RawEventWire

/-! What the collectors hand to the mapper comes out as an object that the Rust side decodes. -/

namespace Dipecs.Device

open Dipecs.Spec Dipecs.Library EventStore

namespace AndroidRawEventMapper

/-- The objects built of what the collectors hand to the mapper: the names of the variants, a
level of the battery that a byte holds, and texts no longer than a Kotlin string. -/
inductive Collected (lowercase : KString → KString) : JSONObject → Prop
  | appTransition (timestampMs : I64) (packageName : KString) (activityClass : Option KString)
    (transition : String) (h : transition ∈ ["Foreground", "Background"]) :
    Collected lowercase (appTransition timestampMs packageName activityClass (kstr transition))
  | notificationPosted (timestampMs : I64) (packageName : KString)
    (category channelId title : Option KString) (textItems : List KString)
    (isOngoing hasPicture : Bool) (htitle : (title.getD []).length < 2 ^ 31)
    (htext : (joinToString textItems).length < 2 ^ 31) :
    Collected lowercase (tagged "NotificationPosted"
      (notificationPosted lowercase timestampMs.val packageName category channelId title textItems
        isOngoing hasPicture).toJson)
  | notificationInteraction (timestampMs : I64) (packageName : KString) (action : String)
    (h : action ∈ ["Tapped", "Dismissed", "Cancelled", "Seen"]) :
    Collected lowercase (notificationInteraction timestampMs packageName (kstr action))
  | screenState (timestampMs : I64) (state : String)
    (h : state ∈ ["Interactive", "NonInteractive", "KeyguardShown", "KeyguardHidden"]) :
    Collected lowercase (screenState timestampMs (kstr state))
  | systemState (timestampMs : I64) (context : DeviceContext)
    (h : ∀ percent ∈ context.batteryPercent, 0 ≤ percent.toInt ∧ percent.toInt < 2 ^ 8) :
    Collected lowercase (systemState lowercase timestampMs context)

theorem Collected.built {lowercase : KString → KString} {o : JSONObject}
    (h : Collected lowercase o) : Built lowercase o := by
  cases h with
  | appTransition => exact .appTransition ..
  | notificationPosted => exact .notificationPosted ..
  | notificationInteraction => exact .notificationInteraction ..
  | screenState => exact .screenState ..
  | systemState => exact .systemState ..

end AndroidRawEventMapper

namespace RawEventWire

open AndroidRawEventMapper

/-! ### Values that are written and read -/

@[simp] theorem readString_string (s : KString) : readString (.string s) = some (replaced s) := rfl

@[simp] theorem readBool_bool (b : Bool) : readBool (.bool b) = some b := rfl

theorem readInt_wrap {lo hi n : Int} (hn : -2 ^ 63 ≤ n ∧ n < 2 ^ 63) (h : lo ≤ n ∧ n < hi) :
    readInt lo hi (.long (I64.wrap n)) = some n := by
  have hwrap : (I64.wrap n).val = n := i64_of_range hn.1 hn.2
  rw [readInt, hwrap, if_pos h]

@[simp] theorem readI64_long (n : I64) : readI64 (.long n) = some n.val := if_pos n.property

theorem readVariant_kstr {α : Type} (variants : List (String × α)) {name : String}
    (h : name ∈ variants.map Prod.fst) :
    ∃ x, readVariant variants (.string (kstr name)) = some x := by
  rw [readVariant, replaced_kstr, ← Option.isSome_iff_exists, List.lookup_isSome_iff]
  obtain ⟨entry, hentry, rfl⟩ := List.mem_map.mp h
  exact ⟨entry, hentry, beq_self_eq_true _⟩

section
variable {α : Type} (o : JSONObject) (key name : String) (v : JsonValue)
  (read : JsonValue → Option α)

@[simp] theorem field_cons : field ((kstr key, v) :: o) name read =
    if key = name then read v else field o name read := by
  rw [field, opt_cons]
  split <;> rfl

@[simp] theorem optField_skip (h : key ≠ name) :
    optField ((kstr key, v) :: o) name read = optField o name read := by
  rw [optField, opt_cons, if_neg h]
  rfl

theorem optField_head : optField ((kstr name, v) :: o) name read =
    match v with
    | .null => some none
    | v => (read v).map some := by
  rw [optField, opt_cons, if_pos rfl]
  cases v <;> rfl

@[simp] theorem optField_stringOrNull (s : Option KString) :
    optField ((kstr name, stringOrNull s) :: o) name readString = some (s.map replaced) := by
  rw [optField_head]
  cases s <;> rfl

@[simp] theorem optField_textHint (h : TextHintJson) :
    optField ((kstr name, h.toJson) :: o) name readTextHint =
      (readTextHint h.toJson).map some := by
  rw [optField_head]
  rfl

end

theorem readAppTransition_built (timestampMs : I64) (packageName : KString)
    (activityClass : Option KString) {transition : String}
    (h : transition ∈ ["Foreground", "Background"]) :
    ∃ e, readRawEvent (appTransition timestampMs packageName activityClass (kstr transition)) =
      some e := by
  obtain ⟨t, ht⟩ := readVariant_kstr [("Foreground", AppTransition.foreground),
    ("Background", .background)] h
  simp [readRawEvent, appTransition, tagged, readers, readAppTransition, readTransition, ht]

theorem readNotificationInteraction_built (timestampMs : I64) (packageName : KString)
    {action : String} (h : action ∈ ["Tapped", "Dismissed", "Cancelled", "Seen"]) :
    ∃ e, readRawEvent (notificationInteraction timestampMs packageName (kstr action)) =
      some e := by
  obtain ⟨a, ha⟩ := readVariant_kstr [("Tapped", NotificationAction.tapped),
    ("Dismissed", .dismissed), ("Cancelled", .cancelled), ("Seen", .seen)] h
  simp [readRawEvent, notificationInteraction, tagged, readers, List.lookup_cons,
    readNotificationInteraction, readNotificationAction, ha]

theorem readScreenState_built (timestampMs : I64) {state : String}
    (h : state ∈ ["Interactive", "NonInteractive", "KeyguardShown", "KeyguardHidden"]) :
    ∃ e, readRawEvent (screenState timestampMs (kstr state)) = some e := by
  obtain ⟨a, ha⟩ := readVariant_kstr [("Interactive", ScreenState.interactive),
    ("NonInteractive", .nonInteractive), ("KeyguardShown", .keyguardShown),
    ("KeyguardHidden", .keyguardHidden)] h
  simp [readRawEvent, screenState, tagged, readers, List.lookup_cons,
    readScreenStateEvent, readScreenState, ha]

theorem rustNetwork_mem (networkType : KString) :
    rustNetwork networkType ∈ ["Wifi", "Cellular", "Offline", "Unknown"] := by
  unfold rustNetwork
  repeat' split
  all_goals simp

theorem rustRingerMode_mem (ringerMode : KString) :
    rustRingerMode ringerMode ∈ ["Normal", "Vibrate", "Silent"] := by
  unfold rustRingerMode
  repeat' split
  all_goals simp

theorem rustLocationType_mem (lowercase : KString → KString) (locationType : KString) :
    rustLocationType lowercase locationType ∈ ["Home", "Work", "Commute", "Unknown"] := by
  unfold rustLocationType
  repeat' split
  all_goals simp

theorem readBattery {percent : Option Int32}
    (h : ∀ p ∈ percent, 0 ≤ p.toInt ∧ p.toInt < 2 ^ 8) :
    ∃ x, ∀ o : JSONObject, optField ((kstr "battery_pct", match percent with
      | some percent => .long (I64.wrap percent.toInt)
      | none => .null) :: o) "battery_pct" readU8 = some x := by
  simp only [optField_head]
  cases percent with
  | none => exact ⟨none, fun _ => rfl⟩
  | some p =>
    have hp := h p rfl
    have hread : readU8 (.long (I64.wrap p.toInt)) = some (.ofNat p.toInt.toNat) :=
      congrArg (Option.map _) (readInt_wrap ⟨by omega, by omega⟩ hp)
    exact ⟨_, fun _ => congrArg (Option.map some) hread⟩

theorem readSystemState_built (lowercase : KString → KString) (timestampMs : I64)
    {context : DeviceContext}
    (h : ∀ percent ∈ context.batteryPercent, 0 ≤ percent.toInt ∧ percent.toInt < 2 ^ 8) :
    ∃ e, readRawEvent (systemState lowercase timestampMs context) = some e := by
  obtain ⟨network, hnetwork⟩ := readVariant_kstr [("Wifi", NetworkType.wifi),
    ("Cellular", .cellular), ("Offline", .offline), ("Unknown", .unknown)]
    (rustNetwork_mem context.networkType)
  obtain ⟨ringer, hringer⟩ := readVariant_kstr [("Normal", RingerMode.normal),
    ("Vibrate", .vibrate), ("Silent", .silent)] (rustRingerMode_mem context.ringerMode)
  obtain ⟨location, hlocation⟩ := readVariant_kstr [("Home", LocationType.home),
    ("Work", .work), ("Commute", .commute), ("Unknown", .unknown)]
    (rustLocationType_mem lowercase context.locationType)
  obtain ⟨battery, hbattery⟩ := readBattery h
  simp [readRawEvent, systemState, tagged, readers, List.lookup_cons, readSystemState,
    readNetwork, readRingerMode, readLocation, hnetwork, hringer, hlocation]
  exact ⟨_, congrArg (Option.bind · _) (hbattery _)⟩

/-! ### Notifications -/

theorem scriptHint_mem (text : KString) :
    scriptHint text ∈ ["Latin", "Hanzi", "Cyrillic", "Arabic", "Mixed", "Unknown"] := by
  unfold scriptHint
  dsimp only
  repeat' split
  all_goals simp

theorem codePoints_length_le (text : List UInt16) :
    (Utf16.codePoints text).length ≤ text.length := by
  unfold Utf16.codePoints
  fun_induction Utf16.scan with
  | case1 | case2 => simp
  | case3 _ _ _ _ ih =>
    simp only [List.length_cons]
    omega
  | case4 _ _ _ _ ih =>
    simp only [List.length_cons] at ih ⊢
    omega

theorem readUsize_long {n : Nat} (h : n < 2 ^ 31) :
    readUsize (.long (I64.wrap n)) = some n :=
  congrArg (Option.map Int.toNat) (readInt_wrap ⟨by omega, by omega⟩ ⟨by omega, by omega⟩)

theorem readTextHint_built {text : KString} (h : text.length < 2 ^ 31) :
    ∃ x, readTextHint (textHint text).toJson = some x := by
  obtain ⟨script, hscript⟩ := readVariant_kstr [("Latin", ScriptHint.latin),
    ("Hanzi", .hanzi), ("Cyrillic", .cyrillic), ("Arabic", .arabic), ("Mixed", .mixed),
    ("Unknown", .unknown)] (scriptHint_mem text)
  have hchars := readUsize_long ((codePoints_length_le text).trans_lt h)
  simp [readTextHint, TextHintJson.toJson, textHint, readScript, hscript, hchars]

theorem semanticHints_subset (lowercase : KString → KString) (title : KString)
    (textItems : List KString) (hasPicture : Bool) :
    semanticHints lowercase title textItems hasPicture ⊆ keywordGroups.map Prod.fst := by
  unfold semanticHints
  exact List.map_subset _ List.filter_sublist.subset

theorem readSemanticHints_built {names : List String}
    (h : ∀ name ∈ names, name ∈ keywordGroups.map Prod.fst) :
    ∃ hints, readList readSemanticHint
      (.array (names.map fun name => .string (kstr name))) = some hints := by
  rw [readList]
  induction names with
  | nil => exact ⟨[], rfl⟩
  | cons name names ih =>
    rw [List.forall_mem_cons] at h
    obtain ⟨hint, hhint⟩ := readVariant_kstr [("FileMention", SemanticHint.fileMention),
      ("ImageMention", .imageMention), ("AudioMessage", .audioMessage),
      ("LinkAttachment", .linkAttachment), ("UserMentioned", .userMentioned),
      ("CalendarInvitation", .calendarInvitation), ("FinancialContext", .financialContext),
      ("VerificationCode", .verificationCode)] h.1
    obtain ⟨hints, hhints⟩ := ih h.2
    refine ⟨hint :: hints, ?_⟩
    rw [List.map_cons, List.mapM_cons, readSemanticHint, hhint]
    rw [readSemanticHint] at hhints
    simp [hhints]

theorem readNotificationPosted_built (lowercase : KString → KString) (timestampMs : I64)
    (packageName : KString) (category channelId : Option KString) {title : Option KString}
    {textItems : List KString} (isOngoing hasPicture : Bool)
    (htitle : (title.getD []).length < 2 ^ 31) (htext : (joinToString textItems).length < 2 ^ 31) :
    ∃ e, readRawEvent (tagged "NotificationPosted"
      (notificationPosted lowercase timestampMs.val packageName category channelId title textItems
        isOngoing hasPicture).toJson) = some e := by
  obtain ⟨titleHint, htitleHint⟩ := readTextHint_built htitle
  obtain ⟨textHint, htextHint⟩ := readTextHint_built htext
  obtain ⟨hints, hhints⟩ := readSemanticHints_built
    fun _ hname => semanticHints_subset lowercase (title.getD []) textItems hasPicture hname
  have hwrap : (I64.wrap timestampMs.val) = timestampMs :=
    Subtype.ext (i64_of_range timestampMs.property.1 timestampMs.property.2)
  simp [readRawEvent, tagged, readers, List.lookup_cons, readNotificationPosted,
    NotificationPosted.toJson, notificationPosted, listField, hwrap, htitleHint, htextHint, hhints]

theorem readRawEvent_collected {lowercase : KString → KString} {o : JSONObject}
    (h : Collected lowercase o) : ∃ e, readRawEvent o = some e := by
  cases h with
  | appTransition _ _ _ _ h => exact readAppTransition_built _ _ _ h
  | notificationPosted _ _ _ _ _ _ _ _ htitle htext =>
    exact readNotificationPosted_built _ _ _ _ _ _ _ htitle htext
  | notificationInteraction _ _ _ h => exact readNotificationInteraction_built _ _ h
  | screenState _ _ h => exact readScreenState_built _ h
  | systemState _ _ h => exact readSystemState_built _ _ h

end RawEventWire

end Dipecs.Device
