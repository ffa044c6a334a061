import Dipecs.Device.AndroidRawEventMapper
import Dipecs.Device.TraceRedaction

/-! The wire format of raw events: the objects that the mapper builds, and the derived decoder
of the Rust side on the forms that are written, a struct as a map and a variant as a string.
Redaction takes nothing from a raw event but its private strings. -/

namespace Dipecs.Device

open Dipecs.Spec Dipecs.Library

namespace AndroidRawEventMapper

def stringOrNull : Option KString → JsonValue
  | some s => .string s
  | none => .null

def tagged (kind : String) (payload : JSONObject) : JSONObject := [(kstr kind, .object payload)]

def appTransition (timestampMs : I64) (packageName : KString) (activityClass : Option KString)
    (transition : KString) : JSONObject :=
  tagged "AppTransition"
    [(kstr "timestamp_ms", .long timestampMs), (kstr "package_name", .string packageName),
      (kstr "activity_class", stringOrNull activityClass), (kstr "transition", .string transition)]

def TextHintJson.toJson (h : TextHintJson) : JsonValue :=
  .object [(kstr "length_chars", .long (I64.wrap h.lengthChars)),
    (kstr "script", .string (kstr h.script)), (kstr "is_emoji_only", .bool h.isEmojiOnly)]

def NotificationPosted.toJson (e : NotificationPosted) : JSONObject :=
  [(kstr "timestamp_ms", .long (I64.wrap e.timestampMs)),
    (kstr "package_name", .string e.packageName), (kstr "category", stringOrNull e.category),
    (kstr "channel_id", stringOrNull e.channelId), (kstr "raw_title", .string e.rawTitle),
    (kstr "raw_text", .string e.rawText), (kstr "title_hint", e.titleHint.toJson),
    (kstr "text_hint", e.textHint.toJson),
    (kstr "semantic_hints", .array (e.semanticHints.map fun hint => .string (kstr hint))),
    (kstr "is_ongoing", .bool e.isOngoing), (kstr "group_key", stringOrNull e.groupKey),
    (kstr "has_picture", .bool e.hasPicture)]

def notificationInteraction (timestampMs : I64) (packageName action : KString) : JSONObject :=
  tagged "NotificationInteraction"
    [(kstr "timestamp_ms", .long timestampMs), (kstr "package_name", .string packageName),
      (kstr "notification_key", .string []), (kstr "action", .string action)]

def screenState (timestampMs : I64) (state : KString) : JSONObject :=
  tagged "ScreenState" [(kstr "timestamp_ms", .long timestampMs), (kstr "state", .string state)]

structure DeviceContext where
  batteryPercent : Option Int32
  isCharging : Option Bool
  networkType : KString
  ringerMode : KString
  locationType : KString
  headphoneConnected : Bool
  bluetoothConnected : Bool

def rustNetwork (networkType : KString) : String :=
  if networkType ∈ [kstr "wifi", kstr "ethernet", kstr "bluetooth", kstr "vpn"] then "Wifi"
  else if networkType = kstr "cellular" then "Cellular"
  else if networkType = kstr "offline" then "Offline"
  else "Unknown"

def rustRingerMode (ringerMode : KString) : String :=
  if ringerMode = kstr "normal" then "Normal"
  else if ringerMode = kstr "vibrate" then "Vibrate"
  else if ringerMode = kstr "silent" then "Silent"
  else "Normal"

def rustLocationType (lowercase : KString → KString) (locationType : KString) : String :=
  if lowercase locationType = kstr "home" then "Home"
  else if lowercase locationType = kstr "work" then "Work"
  else if lowercase locationType = kstr "commute" then "Commute"
  else "Unknown"

def systemState (lowercase : KString → KString) (timestampMs : I64) (context : DeviceContext) :
    JSONObject :=
  tagged "SystemState"
    [(kstr "timestamp_ms", .long timestampMs),
      (kstr "battery_pct",
        match context.batteryPercent with
        | some percent => .long (I64.wrap percent.toInt)
        | none => .null),
      (kstr "is_charging", .bool (context.isCharging.getD false)),
      (kstr "network", .string (kstr (rustNetwork context.networkType))),
      (kstr "ringer_mode", .string (kstr (rustRingerMode context.ringerMode))),
      (kstr "location_type", .string (kstr (rustLocationType lowercase context.locationType))),
      (kstr "headphone_connected", .bool context.headphoneConnected),
      (kstr "bluetooth_connected", .bool context.bluetoothConnected)]

/-- The objects that the mapper builds. -/
inductive Built (lowercase : KString → KString) : JSONObject → Prop
  | appTransition (timestampMs : I64) (packageName : KString) (activityClass : Option KString)
    (transition : KString) :
    Built lowercase (appTransition timestampMs packageName activityClass transition)
  | notificationPosted (timestampMs : I64) (packageName : KString)
    (category channelId title : Option KString) (textItems : List KString)
    (isOngoing hasPicture : Bool) :
    Built lowercase (tagged "NotificationPosted"
      (notificationPosted lowercase timestampMs.val packageName category channelId title textItems
        isOngoing hasPicture).toJson)
  | notificationInteraction (timestampMs : I64) (packageName action : KString) :
    Built lowercase (notificationInteraction timestampMs packageName action)
  | screenState (timestampMs : I64) (state : KString) :
    Built lowercase (screenState timestampMs state)
  | systemState (timestampMs : I64) (context : DeviceContext) :
    Built lowercase (systemState lowercase timestampMs context)

end AndroidRawEventMapper

/-! ### The decoder -/

namespace RawEventWire

def readString : JsonValue → Option String
  | .string s => some (replaced s)
  | _ => none

def readBool : JsonValue → Option Bool
  | .bool b => some b
  | _ => none

def readInt (lo hi : Int) : JsonValue → Option Int
  | .long n => if lo ≤ n.val ∧ n.val < hi then some n.val else none
  | _ => none

def readI64 : JsonValue → Option Int := readInt (-2 ^ 63) (2 ^ 63)

def readI32 : JsonValue → Option Int := readInt (-2 ^ 31) (2 ^ 31)

def readU8 (v : JsonValue) : Option UInt8 := (readInt 0 (2 ^ 8) v).map fun n => .ofNat n.toNat

def readU32 (v : JsonValue) : Option UInt32 := (readInt 0 (2 ^ 32) v).map fun n => .ofNat n.toNat

def readU64 (v : JsonValue) : Option UInt64 := (readInt 0 (2 ^ 64) v).map fun n => .ofNat n.toNat

def readUsize (v : JsonValue) : Option Nat := (readInt 0 (2 ^ 64) v).map Int.toNat

def readVariant {α : Type} (variants : List (String × α)) : JsonValue → Option α
  | .string s => variants.lookup (replaced s)
  | _ => none

def readList {α : Type} (read : JsonValue → Option α) : JsonValue → Option (List α)
  | .array items => items.mapM read
  | _ => none

section
variable {α : Type}

def field (o : JSONObject) (name : String) (read : JsonValue → Option α) : Option α :=
  (JSONObject.opt o name).bind read

def optField (o : JSONObject) (name : String) (read : JsonValue → Option α) :
    Option (Option α) :=
  match JSONObject.opt o name with
  | none | some .null => some none
  | some v => (read v).map some

def listField (o : JSONObject) (name : String) (read : JsonValue → Option α) : Option (List α) :=
  match JSONObject.opt o name with
  | none => some []
  | some v => readList read v

end

def readTransition : JsonValue → Option AppTransition :=
  readVariant [("Foreground", .foreground), ("Background", .background)]

def readProcState : JsonValue → Option ProcState :=
  readVariant [("Running", .running), ("Sleeping", .sleeping), ("Zombie", .zombie),
    ("Unknown", .unknown)]

def readAccessType : JsonValue → Option FsAccessType :=
  readVariant [("OpenRead", .openRead), ("OpenWrite", .openWrite), ("Create", .create),
    ("Delete", .delete)]

def readScript : JsonValue → Option ScriptHint :=
  readVariant [("Latin", .latin), ("Hanzi", .hanzi), ("Cyrillic", .cyrillic),
    ("Arabic", .arabic), ("Mixed", .mixed), ("Unknown", .unknown)]

def readSemanticHint : JsonValue → Option SemanticHint :=
  readVariant [("FileMention", .fileMention), ("ImageMention", .imageMention),
    ("AudioMessage", .audioMessage), ("LinkAttachment", .linkAttachment),
    ("UserMentioned", .userMentioned), ("CalendarInvitation", .calendarInvitation),
    ("FinancialContext", .financialContext), ("VerificationCode", .verificationCode)]

def readNotificationAction : JsonValue → Option NotificationAction :=
  readVariant [("Tapped", .tapped), ("Dismissed", .dismissed), ("Cancelled", .cancelled),
    ("Seen", .seen)]

def readScreenState : JsonValue → Option ScreenState :=
  readVariant [("Interactive", .interactive), ("NonInteractive", .nonInteractive),
    ("KeyguardShown", .keyguardShown), ("KeyguardHidden", .keyguardHidden)]

def readNetwork : JsonValue → Option NetworkType :=
  readVariant [("Wifi", .wifi), ("Cellular", .cellular), ("Offline", .offline),
    ("Unknown", .unknown)]

def readRingerMode : JsonValue → Option RingerMode :=
  readVariant [("Normal", .normal), ("Vibrate", .vibrate), ("Silent", .silent)]

def readLocation : JsonValue → Option LocationType :=
  readVariant [("Home", .home), ("Work", .work), ("Commute", .commute), ("Unknown", .unknown)]

def readTextHint : JsonValue → Option TextHint
  | .object o =>
    (field o "length_chars" readUsize).bind fun lengthChars =>
    (field o "script" readScript).bind fun script =>
    (field o "is_emoji_only" readBool).bind fun isEmojiOnly =>
    some ⟨lengthChars, script, isEmojiOnly⟩
  | _ => none

def readAppTransition (o : JSONObject) : Option RawEvent :=
  (field o "timestamp_ms" readI64).bind fun timestampMs =>
  (field o "package_name" readString).bind fun packageName =>
  (optField o "activity_class" readString).bind fun activityClass =>
  (field o "transition" readTransition).bind fun transition =>
  some (.appTransition ⟨timestampMs, packageName, activityClass, transition⟩)

def readBinderTransaction (o : JSONObject) : Option RawEvent :=
  (field o "timestamp_ms" readI64).bind fun timestampMs =>
  (field o "source_pid" readU32).bind fun sourcePid =>
  (field o "source_uid" readU32).bind fun sourceUid =>
  (field o "target_service" readString).bind fun targetService =>
  (field o "target_method" readString).bind fun targetMethod =>
  (field o "is_oneway" readBool).bind fun isOneway =>
  (field o "payload_size" readU32).bind fun payloadSize =>
  some (.binderTransaction
    ⟨timestampMs, sourcePid, sourceUid, targetService, targetMethod, isOneway, payloadSize⟩)

def readProcStateChange (o : JSONObject) : Option RawEvent :=
  (field o "timestamp_ms" readI64).bind fun timestampMs =>
  (field o "pid" readU32).bind fun pid =>
  (field o "uid" readU32).bind fun uid =>
  (optField o "package_name" readString).bind fun packageName =>
  (field o "vm_rss_kb" readU64).bind fun vmRssKb =>
  (field o "vm_swap_kb" readU64).bind fun vmSwapKb =>
  (field o "threads" readU32).bind fun threads =>
  (field o "oom_score" readI32).bind fun oomScore =>
  (field o "io_read_mb" readU64).bind fun ioReadMb =>
  (field o "io_write_mb" readU64).bind fun ioWriteMb =>
  (field o "state" readProcState).bind fun state =>
  some (.procStateChange ⟨timestampMs, pid, uid, packageName, vmRssKb, vmSwapKb, threads,
    oomScore, ioReadMb, ioWriteMb, state⟩)

def readFileSystemAccess (o : JSONObject) : Option RawEvent :=
  (field o "timestamp_ms" readI64).bind fun timestampMs =>
  (field o "pid" readU32).bind fun pid =>
  (field o "uid" readU32).bind fun uid =>
  (field o "file_path" readString).bind fun filePath =>
  (field o "access_type" readAccessType).bind fun accessType =>
  (optField o "bytes_transferred" readU64).bind fun bytesTransferred =>
  some (.fileSystemAccess ⟨timestampMs, pid, uid, filePath, accessType, bytesTransferred⟩)

def readNotificationPosted (o : JSONObject) : Option RawEvent :=
  (field o "timestamp_ms" readI64).bind fun timestampMs =>
  (field o "package_name" readString).bind fun packageName =>
  (optField o "category" readString).bind fun category =>
  (optField o "channel_id" readString).bind fun channelId =>
  (field o "raw_title" readString).bind fun rawTitle =>
  (field o "raw_text" readString).bind fun rawText =>
  (optField o "title_hint" readTextHint).bind fun titleHint =>
  (optField o "text_hint" readTextHint).bind fun textHint =>
  (listField o "semantic_hints" readSemanticHint).bind fun semanticHints =>
  (field o "is_ongoing" readBool).bind fun isOngoing =>
  (optField o "group_key" readString).bind fun groupKey =>
  (field o "has_picture" readBool).bind fun hasPicture =>
  some (.notificationPosted ⟨timestampMs, packageName, category, channelId, rawTitle, rawText,
    titleHint, textHint, semanticHints, isOngoing, groupKey, hasPicture⟩)

def readNotificationInteraction (o : JSONObject) : Option RawEvent :=
  (field o "timestamp_ms" readI64).bind fun timestampMs =>
  (field o "package_name" readString).bind fun packageName =>
  (field o "notification_key" readString).bind fun notificationKey =>
  (field o "action" readNotificationAction).bind fun action =>
  some (.notificationInteraction ⟨timestampMs, packageName, notificationKey, action⟩)

def readScreenStateEvent (o : JSONObject) : Option RawEvent :=
  (field o "timestamp_ms" readI64).bind fun timestampMs =>
  (field o "state" readScreenState).bind fun state =>
  some (.screenState ⟨timestampMs, state⟩)

def readSystemState (o : JSONObject) : Option RawEvent :=
  (field o "timestamp_ms" readI64).bind fun timestampMs =>
  (optField o "battery_pct" readU8).bind fun batteryPct =>
  (field o "is_charging" readBool).bind fun isCharging =>
  (field o "network" readNetwork).bind fun network =>
  (field o "ringer_mode" readRingerMode).bind fun ringerMode =>
  (field o "location_type" readLocation).bind fun locationType =>
  (field o "headphone_connected" readBool).bind fun headphoneConnected =>
  (field o "bluetooth_connected" readBool).bind fun bluetoothConnected =>
  some (.systemState ⟨timestampMs, batteryPct, isCharging, network, ringerMode, locationType,
    headphoneConnected, bluetoothConnected⟩)

def readers : List (String × (JSONObject → Option RawEvent)) :=
  [("AppTransition", readAppTransition), ("BinderTransaction", readBinderTransaction),
    ("ProcStateChange", readProcStateChange), ("FileSystemAccess", readFileSystemAccess),
    ("NotificationPosted", readNotificationPosted),
    ("NotificationInteraction", readNotificationInteraction),
    ("ScreenState", readScreenStateEvent), ("SystemState", readSystemState)]

/-- An event is tagged by the one name of its object. -/
def readRawEvent : JSONObject → Option RawEvent
  | [(tag, .object payload)] =>
    (readers.lookup (replaced tag)).bind fun read => read payload
  | _ => none

def blankPrivate : RawEvent → RawEvent
  | .notificationPosted e =>
    .notificationPosted { e with rawTitle := "", rawText := "", groupKey := none }
  | .notificationInteraction e => .notificationInteraction { e with notificationKey := "" }
  | e => e

end RawEventWire

end Dipecs.Device
