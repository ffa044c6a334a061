import Mathlib.Data.List.Basic

/-! Event types of the collection boundary: raw events as the collectors produce
them, and the sanitized events that replace them behind the privacy air-gap. -/

namespace Dipecs.Spec

inductive SourceTier
  | publicApi | daemon | privilegedDaemon | systemImage
  deriving DecidableEq

inductive AppTransition
  | foreground | background
  deriving DecidableEq

inductive InteractionType
  | notifyPost | activityLaunch | shareIntent | serviceBind
  deriving DecidableEq

inductive ScriptHint
  | latin | hanzi | cyrillic | arabic | mixed | unknown
  deriving DecidableEq

structure TextHint where
  lengthChars : Nat
  script : ScriptHint
  isEmojiOnly : Bool
  deriving DecidableEq

inductive SemanticHint
  | fileMention | imageMention | audioMessage | linkAttachment
  | userMentioned | calendarInvitation | financialContext | verificationCode
  deriving DecidableEq

def SemanticHint.debug : SemanticHint → String
  | .fileMention => "FileMention"
  | .imageMention => "ImageMention"
  | .audioMessage => "AudioMessage"
  | .linkAttachment => "LinkAttachment"
  | .userMentioned => "UserMentioned"
  | .calendarInvitation => "CalendarInvitation"
  | .financialContext => "FinancialContext"
  | .verificationCode => "VerificationCode"

inductive ExtensionCategory
  | document | image | video | audio | archive | code | other | unknown
  deriving DecidableEq

def ExtensionCategory.debug : ExtensionCategory → String
  | .document => "Document"
  | .image => "Image"
  | .video => "Video"
  | .audio => "Audio"
  | .archive => "Archive"
  | .code => "Code"
  | .other => "Other"
  | .unknown => "Unknown"

theorem ExtensionCategory.debug_injective : Function.Injective ExtensionCategory.debug := by
  intro a b h
  cases a <;> cases b <;> first | rfl | (simp [debug] at h)

inductive FsActivityType
  | read | write | create | delete
  deriving DecidableEq

inductive ScreenState
  | interactive | nonInteractive | keyguardShown | keyguardHidden
  deriving DecidableEq

inductive NetworkType
  | wifi | cellular | offline | unknown
  deriving DecidableEq

inductive RingerMode
  | normal | vibrate | silent
  deriving DecidableEq

inductive LocationType
  | home | work | commute | unknown
  deriving DecidableEq

inductive ProcState
  | running | sleeping | zombie | unknown
  deriving DecidableEq

inductive FsAccessType
  | openRead | openWrite | create | delete
  deriving DecidableEq

inductive NotificationAction
  | tapped | dismissed | cancelled | seen
  deriving DecidableEq

structure AppTransitionRawEvent where
  timestampMs : Int
  packageName : String
  activityClass : Option String
  transition : AppTransition
  deriving DecidableEq

structure BinderTxEvent where
  timestampMs : Int
  sourcePid : UInt32
  sourceUid : UInt32
  targetService : String
  targetMethod : String
  isOneway : Bool
  payloadSize : UInt32
  deriving DecidableEq

structure ProcStateEvent where
  timestampMs : Int
  pid : UInt32
  uid : UInt32
  packageName : Option String
  vmRssKb : UInt64
  vmSwapKb : UInt64
  threads : UInt32
  oomScore : Int
  ioReadMb : UInt64
  ioWriteMb : UInt64
  state : ProcState
  deriving DecidableEq

structure FsAccessEvent where
  timestampMs : Int
  pid : UInt32
  uid : UInt32
  filePath : String
  accessType : FsAccessType
  bytesTransferred : Option UInt64
  deriving DecidableEq

structure NotificationRawEvent where
  timestampMs : Int
  packageName : String
  category : Option String
  channelId : Option String
  rawTitle : String
  rawText : String
  titleHint : Option TextHint
  textHint : Option TextHint
  semanticHints : List SemanticHint
  isOngoing : Bool
  groupKey : Option String
  hasPicture : Bool
  deriving DecidableEq

structure NotificationInteractionRawEvent where
  timestampMs : Int
  packageName : String
  notificationKey : String
  action : NotificationAction
  deriving DecidableEq

structure ScreenStateEvent where
  timestampMs : Int
  state : ScreenState
  deriving DecidableEq

structure SystemStateEvent where
  timestampMs : Int
  batteryPct : Option UInt8
  isCharging : Bool
  network : NetworkType
  ringerMode : RingerMode
  locationType : LocationType
  headphoneConnected : Bool
  bluetoothConnected : Bool
  deriving DecidableEq

inductive RawEvent
  | appTransition (e : AppTransitionRawEvent)
  | binderTransaction (e : BinderTxEvent)
  | procStateChange (e : ProcStateEvent)
  | fileSystemAccess (e : FsAccessEvent)
  | notificationPosted (e : NotificationRawEvent)
  | notificationInteraction (e : NotificationInteractionRawEvent)
  | screenState (e : ScreenStateEvent)
  | systemState (e : SystemStateEvent)
  deriving DecidableEq

structure CollectorEnvelope where
  schemaVersion : String
  source : String
  sourceTier : SourceTier
  deviceTraceId : Option String
  capturedAtMs : Int
  receivedAtMs : Option Int
  rawEvent : RawEvent
  deriving DecidableEq

/-- The authoritative ingest output: the ingress decides the tier. -/
structure IngestedRawEvent where
  rawEvent : RawEvent
  sourceTier : SourceTier
  deriving DecidableEq

inductive SanitizedEventType
  | appTransition (packageName : String) (activityClass : Option String)
      (transition : AppTransition)
  | interAppInteraction (sourcePackage : Option String) (targetService : String)
      (interactionType : InteractionType)
  | notification (sourcePackage : String) (category channelId : Option String)
      (titleHint textHint : TextHint) (semanticHints : List SemanticHint)
      (isOngoing : Bool) (groupKey : Option String)
  | processResource (pid : UInt32) (packageName : Option String)
      (vmRssMb vmSwapMb threadCount : UInt32) (oomScore : Int)
  | fileActivity (packageName : Option String) (extensionCategory : ExtensionCategory)
      (activityType : FsActivityType) (isHotFile : Bool)
  | screen (state : ScreenState)
  | systemStatus (batteryPct : Option UInt8) (isCharging : Bool) (network : NetworkType)
      (ringerMode : RingerMode) (locationType : LocationType) (headphoneConnected : Bool)
  deriving DecidableEq

structure SanitizedEvent where
  eventId : String
  timestampMs : Int
  eventType : SanitizedEventType
  sourceTier : SourceTier
  appPackage : Option String
  uid : Option UInt32
  deriving DecidableEq

namespace SanitizedEvent

def notifiedBy (e : SanitizedEvent) : Option String :=
  match e.eventType with
  | .notification package _ _ _ _ _ _ _ => some package
  | _ => none

def hints (e : SanitizedEvent) : List SemanticHint :=
  match e.eventType with
  | .notification _ _ _ _ _ hints _ _ => hints
  | _ => []

def openedBy (e : SanitizedEvent) : Option String :=
  match e.eventType with
  | .appTransition package _ .foreground => some package
  | _ => none

/-- The app that the event only shows to be running. -/
def runningBy (e : SanitizedEvent) : Option String :=
  match e.eventType with
  | .processResource _ package _ _ _ _ => package
  | .interAppInteraction package _ _ => package
  | _ => none

def fileCategory (e : SanitizedEvent) : Option ExtensionCategory :=
  match e.eventType with
  | .fileActivity _ category _ _ => some category
  | _ => none

def isNotification (e : SanitizedEvent) : Bool := e.notifiedBy.isSome

theorem hints_of_not_isNotification {e : SanitizedEvent} (h : e.isNotification = false) :
    e.hints = [] := by
  unfold isNotification notifiedBy at h
  unfold hints
  split
  · rename_i heq
    rw [heq] at h
    cases h
  · rfl

end SanitizedEvent

end Dipecs.Spec
