import Dipecs.Device.OrgJson

/-! Raw events as the collector app writes them.  The text of a notification stays on the
device; what is computed of it goes out under the names that the Rust side reads. -/

namespace Dipecs.Device.AndroidRawEventMapper

open Dipecs.Spec Dipecs.Library

structure TextHintJson where
  lengthChars : Nat
  script : String
  isEmojiOnly : Bool
  deriving DecidableEq

structure NotificationPosted where
  timestampMs : Int
  packageName : KString
  category : Option KString
  channelId : Option KString
  rawTitle : KString
  rawText : KString
  titleHint : TextHintJson
  textHint : TextHintJson
  semanticHints : List String
  isOngoing : Bool
  groupKey : Option KString
  hasPicture : Bool

def joinToString (items : List KString) : KString := [0x20].intercalate items

def inRange (lo hi : Nat) (ch : UInt16) : Bool := decide (lo ≤ ch.toNat ∧ ch.toNat ≤ hi)

def isLatin (ch : UInt16) : Bool := inRange 0x41 0x7A ch || inRange 0xC0 0x24F ch

def isHanzi (ch : UInt16) : Bool :=
  inRange 0x4E00 0x9FFF ch || inRange 0x3400 0x4DBF ch || inRange 0x3000 0x303F ch ||
    inRange 0xFF00 0xFFEF ch

def isCyrillic (ch : UInt16) : Bool := inRange 0x400 0x4FF ch || inRange 0x500 0x52F ch

def isArabic (ch : UInt16) : Bool :=
  inRange 0x600 0x6FF ch || inRange 0x750 0x77F ch || inRange 0xFB50 0xFDFF ch ||
    inRange 0xFE70 0xFEFF ch

def scriptHint (text : KString) : String :=
  if text.isEmpty then "Unknown"
  else
    let hasLatin := text.any isLatin
    let hasHanzi := text.any isHanzi
    let hasCyrillic := text.any isCyrillic
    let hasArabic := text.any isArabic
    let count := [hasLatin, hasHanzi, hasCyrillic, hasArabic].count true
    if count == 0 then "Unknown"
    else if count == 1 && hasLatin then "Latin"
    else if count == 1 && hasHanzi then "Hanzi"
    else if count == 1 && hasCyrillic then "Cyrillic"
    else if count == 1 && hasArabic then "Arabic"
    else "Mixed"

def isEmojiCodePoint (codePoint : Nat) : Bool :=
  decide (0x1F600 ≤ codePoint ∧ codePoint ≤ 0x1F64F) ||
    decide (0x1F300 ≤ codePoint ∧ codePoint ≤ 0x1F5FF) ||
    decide (0x1F680 ≤ codePoint ∧ codePoint ≤ 0x1F6FF) ||
    decide (0x1F900 ≤ codePoint ∧ codePoint ≤ 0x1F9FF) ||
    decide (0x2600 ≤ codePoint ∧ codePoint ≤ 0x26FF) ||
    decide (0x2700 ≤ codePoint ∧ codePoint ≤ 0x27BF) ||
    decide (0xFE00 ≤ codePoint ∧ codePoint ≤ 0xFE0F) || codePoint == 0x200D ||
    decide (0x1F1E0 ≤ codePoint ∧ codePoint ≤ 0x1F1FF)

def textHint (text : KString) : TextHintJson where
  lengthChars := (Utf16.codePoints text).length
  script := scriptHint text
  isEmojiOnly := !text.isEmpty && (Utf16.codePoints text).all isEmojiCodePoint

def containsAny (text : KString) (keywords : List String) : Bool :=
  keywords.any fun keyword => decide (kstr keyword <:+: text)

def keywordGroups : List (String × List String) :=
  [("FileMention", ["文件", "file", "pdf", "doc", "docx", "xls", "xlsx", "ppt", "pptx",
     "zip", "rar", "attachment", "附件"]),
   ("ImageMention", ["图片", "照片", "截图", "image", "photo", "screenshot", "jpg", "jpeg",
     "png", "gif", "webp", "相册"]),
   ("AudioMessage", ["语音", "voice", "audio", "mp3", "wav", "aac", "录音", "通话"]),
   ("LinkAttachment", ["http", "https", "www.", "链接", "link", "url"]),
   ("UserMentioned", ["@你", "@所有人", "提到了你", "mentioned you", "@"]),
   ("CalendarInvitation", ["会议", "meeting", "calendar", "日历", "invitation", "邀请",
     "schedule", "日程"]),
   ("FinancialContext", ["支付", "付款", "转账", "payment", "transaction", "红包", "balance",
     "余额"]),
   ("VerificationCode", ["验证码", "code", "otp", "验证", "verification", "captcha"])]

/-- A picture counts as the mention of an image. -/
def semanticHints (lowercase : KString → KString) (title : KString) (textItems : List KString)
    (hasPicture : Bool) : List String :=
  let combined := lowercase (joinToString (title :: textItems))
  (keywordGroups.filter fun (name, keywords) =>
    (name == "ImageMention" && hasPicture) || containsAny combined keywords).map Prod.fst

def notificationPosted (lowercase : KString → KString) (timestampMs : Int) (packageName : KString)
    (category channelId title : Option KString) (textItems : List KString)
    (isOngoing hasPicture : Bool) : NotificationPosted where
  timestampMs := timestampMs
  packageName := packageName
  category := category
  channelId := channelId
  rawTitle := []
  rawText := []
  titleHint := textHint (title.getD [])
  textHint := textHint (joinToString textItems)
  semanticHints := semanticHints lowercase (title.getD []) textItems hasPicture
  isOngoing := isOngoing
  groupKey := none
  hasPicture := hasPicture

/-! ### What the Rust side reads -/

def readScript (name : String) : Option ScriptHint :=
  [ScriptHint.latin, .hanzi, .cyrillic, .arabic, .mixed, .unknown].find? (·.debug == name)

def readSemanticHint (name : String) : Option SemanticHint :=
  [SemanticHint.fileMention, .imageMention, .audioMessage, .linkAttachment, .userMentioned,
    .calendarInvitation, .financialContext, .verificationCode].find? (·.debug == name)

def readTextHint (h : TextHintJson) : Option TextHint :=
  (readScript h.script).map fun script => ⟨h.lengthChars, script, h.isEmojiOnly⟩

/-- The derived decoder, which refuses a name that it does not know. -/
def readNotification (e : NotificationPosted) : Option NotificationRawEvent :=
  (readTextHint e.titleHint).bind fun titleHint =>
    (readTextHint e.textHint).bind fun textHint =>
      (e.semanticHints.mapM readSemanticHint).map fun semanticHints =>
        { timestampMs := e.timestampMs
          packageName := replaced e.packageName
          category := e.category.map replaced
          channelId := e.channelId.map replaced
          rawTitle := replaced e.rawTitle
          rawText := replaced e.rawText
          titleHint := some titleHint
          textHint := some textHint
          semanticHints := semanticHints
          isOngoing := e.isOngoing
          groupKey := e.groupKey.map replaced
          hasPicture := e.hasPicture }

end Dipecs.Device.AndroidRawEventMapper
