import Dipecs.Library.Json
import Dipecs.Spec.Governance

/-! The derived serializers: structures become objects under their field names, enumerations
their variants' names. -/

namespace Dipecs.Spec

open Dipecs.Library

def SourceTier.debug : SourceTier → String
  | .publicApi => "PublicApi"
  | .daemon => "Daemon"
  | .privilegedDaemon => "PrivilegedDaemon"
  | .systemImage => "SystemImage"

def AppTransition.debug : AppTransition → String
  | .foreground => "Foreground"
  | .background => "Background"

def InteractionType.debug : InteractionType → String
  | .notifyPost => "NotifyPost"
  | .activityLaunch => "ActivityLaunch"
  | .shareIntent => "ShareIntent"
  | .serviceBind => "ServiceBind"

def ScriptHint.debug : ScriptHint → String
  | .latin => "Latin"
  | .hanzi => "Hanzi"
  | .cyrillic => "Cyrillic"
  | .arabic => "Arabic"
  | .mixed => "Mixed"
  | .unknown => "Unknown"

def FsActivityType.debug : FsActivityType → String
  | .read => "Read"
  | .write => "Write"
  | .create => "Create"
  | .delete => "Delete"

def ScreenState.debug : ScreenState → String
  | .interactive => "Interactive"
  | .nonInteractive => "NonInteractive"
  | .keyguardShown => "KeyguardShown"
  | .keyguardHidden => "KeyguardHidden"

def NetworkType.debug : NetworkType → String
  | .wifi => "Wifi"
  | .cellular => "Cellular"
  | .offline => "Offline"
  | .unknown => "Unknown"

def RingerMode.debug : RingerMode → String
  | .normal => "Normal"
  | .vibrate => "Vibrate"
  | .silent => "Silent"

def LocationType.debug : LocationType → String
  | .home => "Home"
  | .work => "Work"
  | .commute => "Commute"
  | .unknown => "Unknown"

def RiskLevel.debug : RiskLevel → String
  | .low => "Low"
  | .medium => "Medium"
  | .high => "High"

def ActionUrgency.debug : ActionUrgency → String
  | .immediate => "Immediate"
  | .idleTime => "IdleTime"
  | .deferred => "Deferred"

def EffectClass.debug : EffectClass → String
  | .pureRead => "PureRead"
  | .localCacheWrite => "LocalCacheWrite"
  | .localStateChange => "LocalStateChange"

/-- A number of at most 64 bits. -/
def natJson (n : Nat) : Json := .posInt (UInt64.ofNat n)

def intJson (n : Int) : Json := if n < 0 then .negInt n else natJson n.toNat

def optionJson {α : Type} (toJson : α → Json) : Option α → Json
  | some x => toJson x
  | none => .null

def TextHint.toJson (h : TextHint) : Json :=
  .obj [("length_chars", natJson h.lengthChars), ("script", .str h.script.debug),
    ("is_emoji_only", .bool h.isEmojiOnly)]

def SanitizedEventType.toJson : SanitizedEventType → Json
  | .appTransition package cls transition =>
    .obj [("AppTransition", .obj [("package_name", .str package),
      ("activity_class", optionJson .str cls), ("transition", .str transition.debug)])]
  | .interAppInteraction source service type =>
    .obj [("InterAppInteraction", .obj [("source_package", optionJson .str source),
      ("target_service", .str service), ("interaction_type", .str type.debug)])]
  | .notification package category channel title text hints ongoing group =>
    .obj [("Notification", .obj [("source_package", .str package),
      ("category", optionJson .str category), ("channel_id", optionJson .str channel),
      ("title_hint", title.toJson), ("text_hint", text.toJson),
      ("semantic_hints", .arr (hints.map fun h => .str h.debug)), ("is_ongoing", .bool ongoing),
      ("group_key", optionJson .str group)])]
  | .processResource pid package rss swap threads oom =>
    .obj [("ProcessResource", .obj [("pid", natJson pid.toNat),
      ("package_name", optionJson .str package), ("vm_rss_mb", natJson rss.toNat),
      ("vm_swap_mb", natJson swap.toNat), ("thread_count", natJson threads.toNat),
      ("oom_score", intJson oom)])]
  | .fileActivity package category activity hot =>
    .obj [("FileActivity", .obj [("package_name", optionJson .str package),
      ("extension_category", .str category.debug), ("activity_type", .str activity.debug),
      ("is_hot_file", .bool hot)])]
  | .screen state => .obj [("Screen", .obj [("state", .str state.debug)])]
  | .systemStatus battery charging network ringer location headphone =>
    .obj [("SystemStatus", .obj [("battery_pct", optionJson (fun n => natJson n.toNat) battery),
      ("is_charging", .bool charging), ("network", .str network.debug),
      ("ringer_mode", .str ringer.debug), ("location_type", .str location.debug),
      ("headphone_connected", .bool headphone)])]

def SanitizedEvent.toJson (e : SanitizedEvent) : Json :=
  .obj [("event_id", .str e.eventId), ("timestamp_ms", intJson e.timestampMs),
    ("event_type", e.eventType.toJson), ("source_tier", .str e.sourceTier.debug),
    ("app_package", optionJson .str e.appPackage),
    ("uid", optionJson (fun n => natJson n.toNat) e.uid)]

def SystemStatusSnapshot.toJson (s : SystemStatusSnapshot) : Json :=
  .obj [("battery_pct", optionJson (fun n => natJson n.toNat) s.batteryPct),
    ("is_charging", .bool s.isCharging), ("network", .str s.network.debug),
    ("ringer_mode", .str s.ringerMode.debug), ("location_type", .str s.locationType.debug),
    ("headphone_connected", .bool s.headphoneConnected)]

def fileCountJson (entry : ExtensionCategory × UInt32) : Json :=
  .arr [.str entry.1.debug, natJson entry.2.toNat]

def ContextSummary.toJson (s : ContextSummary) : Json :=
  .obj [("foreground_apps", .arr (s.foregroundApps.map .str)),
    ("notified_apps", .arr (s.notifiedApps.map .str)),
    ("all_semantic_hints", .arr (s.allSemanticHints.map fun h => .str h.debug)),
    ("file_activity", .arr (s.fileActivity.map fileCountJson)),
    ("latest_system_status", optionJson SystemStatusSnapshot.toJson s.latestSystemStatus),
    ("source_tier", .str s.sourceTier.debug)]

def SuggestedAction.toJson (a : SuggestedAction) : Json :=
  .obj [("action_type", .str a.actionType.debug), ("target", optionJson .str a.target),
    ("urgency", .str a.urgency.debug)]

def ActionCoord.toJson (c : ActionCoord) : Json :=
  .obj [("window_ordinal", natJson c.windowOrdinal.toNat),
    ("intent_ordinal", natJson c.intentOrdinal.toNat),
    ("action_ordinal", natJson c.actionOrdinal.toNat)]

def AuthorizedAction.fields (a : AuthorizedAction) : List (String × Json) :=
  [("intent_id", .str a.intentId), ("coord", a.coord.toJson), ("action", a.action.toJson),
    ("effect", .str a.effect.debug), ("authorized_at_ms", intJson a.authorizedAtMs)]

def ActionOutcomeSummary.toJson (o : ActionOutcomeSummary) : Json :=
  .obj [("action_type", .str o.actionType), ("target", optionJson .str o.target),
    ("summary", .str o.summary)]

def AuditRecord.toJson (r : AuditRecord) : Json :=
  .obj [("coord", r.coord.toJson), ("intent_id", .str r.intentId),
    ("action_type", .str r.actionType.debug), ("target", optionJson .str r.target),
    ("effect", .str r.effect.debug), ("route", .str r.route.debug),
    ("backend_error", optionJson .str r.backendError),
    ("transitions", .arr (r.transitions.map fun s => .str s.debug)),
    ("terminal", .str r.terminal.debug),
    ("outcome", optionJson ActionOutcomeSummary.toJson r.outcome),
    ("denial_reason", optionJson (fun d => .str d.debug) r.denialReason),
    ("error", optionJson .str r.error), ("source_tier", .str r.sourceTier.debug)]

end Dipecs.Spec
