import Dipecs.Agent.PrefetchTarget
import Dipecs.Library.Checks
import Dipecs.Library.Ieee
import Dipecs.Spec.Intent

/-! Translation of what the cloud model answers into intents.  Names are compared by their
letters and digits alone.  A confidence was read from JSON, which writes numbers only. -/

namespace Dipecs.Agent

open Dipecs.Spec Dipecs.Library PrefetchTarget

namespace CloudLlm

/-- An `f32` that JSON can write: any but `nan`. -/
abbrev Number : Type := {x : Ieee // x.isNan = false}

structure ModelAction where
  actionType : String
  target : Option String
  urgency : Option String
  deriving DecidableEq

structure ModelIntent where
  intentType : String
  target : Option String
  extensionCategory : Option String
  confidence : Number
  riskLevel : String
  actions : List ModelAction
  rationaleTags : List String
  deriving DecidableEq

def normalizeEnumName (raw : String) : String :=
  String.ofList ((raw.toList.filter Char.isAlphanum).map Char.toLower)

def parseName {α : Type} (field : String) (table : List (String × α)) (raw : String) :
    Except String α :=
  match table.lookup (normalizeEnumName raw) with
  | some value => .ok value
  | none => .error s!"unsupported {field}: {raw}"

def riskLevels : List (String × RiskLevel) :=
  [("low", .low), ("medium", .medium), ("high", .high)]

def actionTypes : List (String × ActionType) :=
  [("prewarmprocess", .preWarmProcess), ("prefetchfile", .prefetchFile),
   ("keepalive", .keepAlive), ("releasememory", .releaseMemory), ("noop", .noOp)]

def actionUrgencies : List (String × ActionUrgency) :=
  [("immediate", .immediate), ("idletime", .idleTime), ("idle", .idleTime),
   ("deferred", .deferred)]

def extensionCategories : List (String × ExtensionCategory) :=
  [("document", .document), ("image", .image), ("video", .video), ("audio", .audio),
   ("archive", .archive), ("code", .code), ("other", .other), ("unknown", .unknown)]

def parseRiskLevel : String → Except String RiskLevel := parseName "risk_level" riskLevels

def parseActionType : String → Except String ActionType := parseName "action_type" actionTypes

def parseActionUrgency : String → Except String ActionUrgency :=
  parseName "urgency" actionUrgencies

def parseExtensionCategory : String → Except String ExtensionCategory :=
  parseName "extension_category" extensionCategories

def intentTypes : List (String × (Option String → Option String → Except String IntentType)) :=
  [("openapp", fun target _ => .ok (.openApp (target.getD ""))),
   ("switchtoapp", fun target _ => .ok (.switchToApp (target.getD ""))),
   ("checknotification", fun target _ => .ok (.checkNotification (target.getD ""))),
   ("handlefile", fun _ extensionCategory =>
     (parseExtensionCategory (extensionCategory.getD "Unknown")).map .handleFile),
   ("entercontext", fun target _ => .ok (.enterContext (target.getD ""))),
   ("idle", fun _ _ => .ok .idle)]

def parseIntentType (raw : String) (target extensionCategory : Option String) :
    Except String IntentType := do
  let build ← parseName "intent_type" intentTypes raw
  build target extensionCategory

/-- An unreadable category counts as unknown. -/
def inferPrefetchCategory (intent : ModelIntent) : Option ExtensionCategory :=
  if normalizeEnumName intent.intentType ≠ "handlefile" then none
  else some ((intent.extensionCategory.bind fun raw =>
    (parseExtensionCategory raw).toOption).getD .unknown)

def inferPrefetchTarget (intent : ModelIntent) (category : Option ExtensionCategory) :
    Option String :=
  if normalizeEnumName intent.intentType ≠ "handlefile" then none
  else some (defaultPrefetchTarget (category.getD .unknown) intent.target)

def trim (s : String) : String := Text.trim Text.isWhiteSpace s

/-- The forms of a target, tried in this order; a package needs a category for its page. -/
def resolveTarget (category : Option ExtensionCategory) (value : String) : Option String :=
  if Text.startsWith "url:" value || Text.startsWith "uri:" value then some value
  else if Text.startsWith "http://" value || Text.startsWith "https://" value then
    some ("url:" ++ value)
  else if Text.startsWith "content://" value then some ("uri:" ++ value)
  else
    match Text.stripPrefix "pkg:" value with
    | some packageName => category.map fun c => defaultPrefetchTarget c (some (trim packageName))
    | none =>
      if looksLikePackageName value then
        category.map fun c => defaultPrefetchTarget c (some value)
      else none

def normalizePrefetchTarget (target fallback : Option String)
    (category : Option ExtensionCategory) : Option String :=
  (((target.map trim).filter (· ≠ "")).bind (resolveTarget category)).or fallback

def translateAction (action : ModelAction) (fallback : Option String)
    (category : Option ExtensionCategory) : Except String SuggestedAction := do
  let actionType ← parseActionType action.actionType
  let given := action.target.filter fun value => trim value ≠ ""
  let urgency ← (action.urgency.map parseActionUrgency).getD (.ok .idleTime)
  return {
    actionType := actionType
    target :=
      if actionType = .prefetchFile then normalizePrefetchTarget given fallback category
      else given
    urgency := urgency }

def noOpAction : SuggestedAction := ⟨.noOp, none, .idleTime⟩

def clamp (x low high : Ieee) : Ieee :=
  if x.lt low then low else if high.lt x then high else x

def translateActions (intent : ModelIntent) : Except String (List SuggestedAction) :=
  let category := inferPrefetchCategory intent
  let fallback := inferPrefetchTarget intent category
  if intent.actions.isEmpty then .ok [noOpAction]
  else intent.actions.mapM fun action => translateAction action fallback category

def translateIntent (newId : String) (intent : ModelIntent) : Except String (Intent Ieee) := do
  let intentType ← parseIntentType intent.intentType intent.target intent.extensionCategory
  let suggestedActions ← translateActions intent
  let riskLevel ← parseRiskLevel intent.riskLevel
  return {
    intentId := newId
    intentType := intentType
    confidence := clamp intent.confidence (.finite 0) (.finite 1)
    riskLevel := riskLevel
    suggestedActions := suggestedActions
    rationaleTags :=
      if intent.rationaleTags.isEmpty then ["cloud_llm"] else intent.rationaleTags }

def idleIntent (newId : String) : Intent Ieee :=
  ⟨newId, .idle, .finite (1 / 2), .low, [noOpAction], ["cloud_llm_idle_fallback"]⟩

/-- The identifier drawn for the `i`-th intent is `newId i`. -/
def translateIntents (newId : Nat → String) (intents : List ModelIntent) :
    Except String (List (Intent Ieee)) :=
  if intents.isEmpty then .ok [idleIntent (newId 0)]
  else intents.zipIdx.mapM fun p => translateIntent (newId p.2) p.1

end CloudLlm

end Dipecs.Agent
