import Dipecs.Library.Text
import Dipecs.Spec.Event

/-! Text and path analysis: what the air-gap keeps of a notification's text and of a
file's path.  `toLowercase` is Rust's `str::to_lowercase`, of which nothing is assumed. -/

namespace Dipecs.Core

open Dipecs.Spec Dipecs.Library

namespace TextAnalysis

def inRange (lo hi : Nat) (c : Char) : Bool := decide (lo ≤ c.toNat ∧ c.toNat ≤ hi)

def isLatin (c : Char) : Bool := inRange 0x41 0x7A c || inRange 0xC0 0x24F c

def isHanzi (c : Char) : Bool :=
  inRange 0x4E00 0x9FFF c || inRange 0x3400 0x4DBF c || inRange 0x3000 0x303F c ||
    inRange 0xFF00 0xFFEF c

def isCyrillic (c : Char) : Bool := inRange 0x400 0x4FF c || inRange 0x500 0x52F c

def isArabic (c : Char) : Bool :=
  inRange 0x600 0x6FF c || inRange 0x750 0x77F c || inRange 0xFB50 0xFDFF c ||
    inRange 0xFE70 0xFEFF c

def isEmoji (c : Char) : Bool :=
  inRange 0x1F600 0x1F64F c || inRange 0x1F300 0x1F5FF c || inRange 0x1F680 0x1F6FF c ||
    inRange 0x1F900 0x1F9FF c || inRange 0x2600 0x26FF c || inRange 0x2700 0x27BF c ||
    inRange 0xFE00 0xFE0F c || c.toNat == 0x200D || inRange 0x1F1E0 0x1F1FF c

/-- The scripts are disjoint, so the order of the arms does not matter. -/
def scriptOf (text : String) : ScriptHint :=
  let hasLatin := text.toList.any isLatin
  let hasHanzi := text.toList.any isHanzi
  let hasCyrillic := text.toList.any isCyrillic
  let hasArabic := text.toList.any isArabic
  match [hasLatin, hasHanzi, hasCyrillic, hasArabic].count true with
  | 0 => .unknown
  | 1 =>
    if hasLatin then .latin else if hasHanzi then .hanzi
    else if hasCyrillic then .cyrillic else .arabic
  | _ => .mixed

def analyzeText (text : String) : TextHint where
  lengthChars := text.toList.length
  script := scriptOf text
  isEmojiOnly := text != "" && text.toList.all isEmoji

def keywords : List (SemanticHint × List String) :=
  [(.fileMention, ["文件", "file", "pdf", "doc", "docx", "xls", "xlsx", "ppt", "pptx", "zip",
     "rar", "attachment", "附件"]),
   (.imageMention, ["图片", "照片", "截图", "image", "photo", "screenshot", "jpg", "jpeg",
     "png", "gif", "webp", "相册"]),
   (.audioMessage, ["语音", "voice", "audio", "mp3", "wav", "aac", "录音", "通话"]),
   (.linkAttachment, ["http", "https", "www.", "链接", "link", "url"]),
   (.userMentioned, ["@你", "@所有人", "提到了你", "mentioned you", "@"]),
   (.calendarInvitation, ["会议", "meeting", "calendar", "日历", "invitation", "邀请",
     "schedule", "日程"]),
   (.financialContext, ["支付", "付款", "转账", "payment", "transaction", "红包", "balance",
     "余额"]),
   (.verificationCode, ["验证码", "code", "otp", "验证", "verification", "captcha"])]

def containsAny (text : String) (words : List String) : Bool :=
  words.any fun w => Text.contains w text

def extractSemanticHints (toLowercase : String → String) (title text : String) :
    List SemanticHint :=
  let combined := toLowercase (title ++ " " ++ text)
  (keywords.filter fun (_, words) => containsAny combined words).map Prod.fst

/-- The last component of a path, unless it is `..`. -/
def fileName (path : String) : Option (List Char) :=
  match ((path.toList.splitOn '/').filter fun part => part != [] && part != ['.']).getLast? with
  | some part => if part == ['.', '.'] then none else some part
  | none => none

/-- `Path::extension`: what follows the last dot, unless that dot starts the name. -/
def extension (path : String) : Option String :=
  (fileName path).bind fun name =>
    match name.reverse.span (· ≠ '.') with
    | (_, []) | (_, [_]) => none
    | (ext, _) => some (String.ofList ext.reverse)

def extensions : List (ExtensionCategory × List String) :=
  [(.document, ["pdf", "doc", "docx", "xls", "xlsx", "ppt", "pptx", "txt", "md", "csv", "odt",
     "ods", "odp"]),
   (.image, ["jpg", "jpeg", "png", "gif", "webp", "heic", "heif", "bmp", "svg", "tiff"]),
   (.video, ["mp4", "mov", "avi", "mkv", "webm", "flv", "wmv", "3gp"]),
   (.audio, ["mp3", "wav", "aac", "flac", "ogg", "wma", "m4a", "opus"]),
   (.archive, ["zip", "rar", "7z", "tar", "gz", "bz2", "xz", "apk", "aab"]),
   (.code, ["py", "js", "ts", "rs", "cpp", "c", "h", "java", "kt", "swift", "go", "so",
     "dylib", "dll"]),
   (.unknown, [""])]

def classifyExtension (toLowercase : String → String) (path : String) : ExtensionCategory :=
  let ext := (extension (toLowercase path)).getD ""
  ((extensions.find? fun (_, exts) => exts.contains ext).map Prod.fst).getD .other

example : extension "/sdcard/a.tar.gz" = some "gz" := by decide +kernel

end TextAnalysis

end Dipecs.Core
