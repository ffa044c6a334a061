import Dipecs.Core.TextAnalysis

/-! The privacy air-gap: every raw event becomes a sanitized one.  The event's random
identifier is drawn outside and passed in as `eventId`. -/

namespace Dipecs.Core

open Dipecs.Spec Dipecs.Library

namespace PrivacyAirGap

def sanitizeAppTransition (eventId : String) (e : AppTransitionRawEvent) : SanitizedEvent where
  eventId := eventId
  timestampMs := e.timestampMs
  eventType := .appTransition e.packageName e.activityClass e.transition
  sourceTier := .publicApi
  appPackage := some e.packageName
  uid := none

def interactionOf (method : String) : InteractionType :=
  if Text.contains "enqueueNotification" method then .notifyPost
  else if Text.contains "startActivity" method || Text.contains "startActivityAsUser" method then
    .activityLaunch
  else if Text.contains "share" method || Text.contains "sendIntent" method then .shareIntent
  else .serviceBind

/-- An unrecognised method counts as a service bind, as `bindService` does. -/
def sanitizeBinder (eventId : String) (e : BinderTxEvent) : SanitizedEvent where
  eventId := eventId
  timestampMs := e.timestampMs
  eventType := .interAppInteraction none e.targetService (interactionOf e.targetMethod)
  sourceTier := .daemon
  appPackage := none
  uid := some e.sourceUid

def sanitizeProc (eventId : String) (e : ProcStateEvent) : SanitizedEvent where
  eventId := eventId
  timestampMs := e.timestampMs
  eventType := .processResource e.pid e.packageName (e.vmRssKb / 1024).toUInt32
    (e.vmSwapKb / 1024).toUInt32 e.threads e.oomScore
  sourceTier := .daemon
  appPackage := e.packageName
  uid := some e.uid

def activityOf : FsAccessType → FsActivityType
  | .openRead => .read
  | .openWrite => .write
  | .create => .create
  | .delete => .delete

def sanitizeFs (toLowercase : String → String) (eventId : String) (e : FsAccessEvent) :
    SanitizedEvent where
  eventId := eventId
  timestampMs := e.timestampMs
  eventType := .fileActivity none (TextAnalysis.classifyExtension toLowercase e.filePath)
    (activityOf e.accessType) false
  sourceTier := .daemon
  appPackage := none
  uid := some e.uid

/-- Hints supplied by the collector win over the text. -/
def sanitizeNotification (toLowercase : String → String) (eventId : String)
    (e : NotificationRawEvent) : SanitizedEvent where
  eventId := eventId
  timestampMs := e.timestampMs
  eventType := .notification e.packageName e.category e.channelId
    (e.titleHint.getD (TextAnalysis.analyzeText e.rawTitle))
    (e.textHint.getD (TextAnalysis.analyzeText e.rawText))
    (if e.semanticHints.isEmpty then
      TextAnalysis.extractSemanticHints toLowercase e.rawTitle e.rawText
    else e.semanticHints)
    e.isOngoing none
  sourceTier := .publicApi
  appPackage := some e.packageName
  uid := none

def noText : TextHint := ⟨0, .unknown, false⟩

def sanitizeInteraction (eventId : String) (e : NotificationInteractionRawEvent) :
    SanitizedEvent where
  eventId := eventId
  timestampMs := e.timestampMs
  eventType := .notification e.packageName none none noText noText [] false none
  sourceTier := .publicApi
  appPackage := some e.packageName
  uid := none

def sanitize (toLowercase : String → String) (eventId : String) : RawEvent → SanitizedEvent
  | .appTransition e => sanitizeAppTransition eventId e
  | .binderTransaction e => sanitizeBinder eventId e
  | .procStateChange e => sanitizeProc eventId e
  | .fileSystemAccess e => sanitizeFs toLowercase eventId e
  | .notificationPosted e => sanitizeNotification toLowercase eventId e
  | .notificationInteraction e => sanitizeInteraction eventId e
  | .screenState e => ⟨eventId, e.timestampMs, .screen e.state, .publicApi, none, none⟩
  | .systemState e =>
    ⟨eventId, e.timestampMs, .systemStatus e.batteryPct e.isCharging e.network e.ringerMode
      e.locationType e.headphoneConnected, .publicApi, none, none⟩

def sanitizeWithTier (toLowercase : String → String) (eventId : String) (raw : RawEvent)
    (tier : SourceTier) : SanitizedEvent :=
  { sanitize toLowercase eventId raw with sourceTier := tier }

end PrivacyAirGap

end Dipecs.Core
