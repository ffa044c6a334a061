import Dipecs.Core.PrivacyAirgap
import Dipecs.Device.AndroidRawEventMapper
import Dipecs.Library.Lowercase

/-! One analysis of notifications written twice: over code units on the device, over
characters behind the air-gap. -/

namespace Dipecs.Device.AndroidRawEventMapper

open Dipecs.Spec Dipecs.Core Dipecs.Library

/-! ### Text hints -/

theorem any_ranges {p : UInt16 → Bool} {q : Char → Bool} (ranges : List (Nat × Nat))
    (h : ∀ r ∈ ranges, r.2 < 0xD800 ∨ 0xDFFF < r.1 ∧ r.2 < 0x10000)
    (hp : ∀ u, p u = ranges.any fun r => inRange r.1 r.2 u)
    (hq : ∀ c, q c = ranges.any fun r => TextAnalysis.inRange r.1 r.2 c) (s : String) :
    (kstr s).any p = s.toList.any q := by
  refine Utf16.any_encode (fun u c heq => ?_) (fun u hu => ?_) (fun u hu => ?_) (fun c hc => ?_) _
  · simp only [hp, hq, inRange, TextAnalysis.inRange, heq]
  · rw [Utf16.isHigh, decide_eq_true_eq] at hu
    rw [hp, List.any_eq_false]
    intro r hr
    have hrange := h r hr
    rw [inRange, decide_eq_true_eq]
    omega
  · rw [Utf16.isLow, decide_eq_true_eq] at hu
    rw [hp, List.any_eq_false]
    intro r hr
    have hrange := h r hr
    rw [inRange, decide_eq_true_eq]
    omega
  · rw [hq, List.any_eq_false]
    intro r hr
    have hrange := h r hr
    rw [TextAnalysis.inRange, decide_eq_true_eq]
    omega

theorem any_isLatin (s : String) : (kstr s).any isLatin = s.toList.any TextAnalysis.isLatin :=
  any_ranges [(0x41, 0x7A), (0xC0, 0x24F)] (by decide) (fun u => by simp [isLatin])
    (fun c => by simp [TextAnalysis.isLatin]) s

theorem any_isHanzi (s : String) : (kstr s).any isHanzi = s.toList.any TextAnalysis.isHanzi :=
  any_ranges [(0x4E00, 0x9FFF), (0x3400, 0x4DBF), (0x3000, 0x303F), (0xFF00, 0xFFEF)]
    (by decide) (fun u => by simp [isHanzi, Bool.or_assoc])
    (fun c => by simp [TextAnalysis.isHanzi, Bool.or_assoc]) s

theorem any_isCyrillic (s : String) :
    (kstr s).any isCyrillic = s.toList.any TextAnalysis.isCyrillic :=
  any_ranges [(0x400, 0x4FF), (0x500, 0x52F)] (by decide) (fun u => by simp [isCyrillic])
    (fun c => by simp [TextAnalysis.isCyrillic]) s

theorem any_isArabic (s : String) :
    (kstr s).any isArabic = s.toList.any TextAnalysis.isArabic :=
  any_ranges [(0x600, 0x6FF), (0x750, 0x77F), (0xFB50, 0xFDFF), (0xFE70, 0xFEFF)]
    (by decide) (fun u => by simp [isArabic, Bool.or_assoc])
    (fun c => by simp [TextAnalysis.isArabic, Bool.or_assoc]) s

theorem isEmpty_kstr (s : String) : (kstr s).isEmpty = (s == "") := by
  by_cases h : s = ""
  · rw [h]
    rfl
  · have hne : kstr s ≠ [] := fun hnil => h (kstr_injective (hnil.trans rfl))
    rw [beq_eq_false_iff_ne.mpr h, List.isEmpty_eq_false_iff]
    exact hne

theorem scriptHint_kstr (s : String) : scriptHint (kstr s) = (TextAnalysis.scriptOf s).debug := by
  rw [scriptHint, isEmpty_kstr]
  by_cases hempty : s = ""
  · rw [hempty]
    rfl
  · rw [beq_eq_false_iff_ne.mpr hempty, if_neg Bool.false_ne_true, any_isLatin, any_isHanzi,
      any_isCyrillic, any_isArabic, TextAnalysis.scriptOf]
    generalize s.toList.any TextAnalysis.isLatin = hasLatin
    generalize s.toList.any TextAnalysis.isHanzi = hasHanzi
    generalize s.toList.any TextAnalysis.isCyrillic = hasCyrillic
    generalize s.toList.any TextAnalysis.isArabic = hasArabic
    revert hasLatin hasHanzi hasCyrillic hasArabic
    decide

theorem readScript_debug (script : ScriptHint) : readScript script.debug = some script := by
  cases script <;> decide

theorem readTextHint_kstr (s : String) :
    readTextHint (textHint (kstr s)) = some (TextAnalysis.analyzeText s) := by
  have hpoints : Utf16.codePoints (kstr s) = s.toList.map Char.toNat := Utf16.codePoints_encode _
  rw [readTextHint, textHint, scriptHint_kstr, readScript_debug, Option.map_some, hpoints,
    List.length_map, isEmpty_kstr, List.all_map]
  rfl

/-! ### Keywords -/

theorem joinToString_kstr (items : List String) :
    joinToString (items.map kstr) = kstr (" ".intercalate items) := by
  rw [kstr, String.toList_intercalate, Utf16.encode_intercalate, List.map_map]
  rfl

theorem containsAny_kstr (s : String) (keywords : List String) :
    containsAny (kstr s) keywords = TextAnalysis.containsAny s keywords := by
  unfold containsAny TextAnalysis.containsAny
  congr 1
  funext keyword
  exact decide_eq_decide.mpr Utf16.encode_infix_iff

theorem readSemanticHint_debug (hint : SemanticHint) :
    readSemanticHint hint.debug = some hint := by
  cases hint <;> decide

theorem mapM_readSemanticHint (hints : List SemanticHint) :
    (hints.map SemanticHint.debug).mapM readSemanticHint = some hints := by
  induction hints with
  | nil => rfl
  | cons hint hints ih =>
    rw [List.map_cons, List.mapM_cons, readSemanticHint_debug, ih]
    rfl

theorem keywordGroups_eq :
    keywordGroups = TextAnalysis.keywords.map fun entry => (entry.1.debug, entry.2) := rfl

theorem contains_space {word s : String} (h : word.toList.getLast?.any (· ≠ ' ') = true) :
    Text.contains word (s ++ " ") = Text.contains word s := by
  have hspace : (" " : String).toList = [' '] := rfl
  rw [Text.contains, Text.contains, String.toList_append, hspace, decide_eq_decide,
    List.infix_concat_iff, List.suffix_concat_iff]
  refine or_iff_right ?_
  rintro (hnil | ⟨before, hbefore, -⟩)
  · rw [hnil] at h
    cases h
  · rw [hbefore, List.getLast?_append] at h
    simp at h

theorem containsAny_space {s : String} {keywords : List String}
    (h : (keywords.all fun word => word.toList.getLast?.any (· ≠ ' ')) = true) :
    TextAnalysis.containsAny (s ++ " ") keywords = TextAnalysis.containsAny s keywords := by
  unfold TextAnalysis.containsAny
  rw [Bool.eq_iff_iff, List.any_eq_true, List.any_eq_true]
  refine exists_congr fun word => and_congr_right fun hword => ?_
  rw [contains_space (List.all_eq_true.mp h word hword)]

theorem keywords_last : ∀ entry ∈ TextAnalysis.keywords,
    (entry.2.all fun word => word.toList.getLast?.any (· ≠ ' ')) = true := by
  decide +kernel

variable {t : CaseTable} {lowercase : KString → KString}

theorem containsAny_combined (halike : ∀ s, lowercase (kstr s) = kstr (t.toLowercase s))
    (title : String) (textItems : List String) {entry : SemanticHint × List String}
    (hentry : entry ∈ TextAnalysis.keywords) :
    containsAny (lowercase (joinToString (kstr title :: textItems.map kstr))) entry.2 =
      TextAnalysis.containsAny (t.toLowercase (title ++ " " ++ " ".intercalate textItems))
        entry.2 := by
  rw [← List.map_cons, joinToString_kstr, halike, containsAny_kstr]
  cases textItems with
  | nil =>
    have hall := keywords_last entry hentry
    rw [String.intercalate_nil, String.append_empty, t.toLowercase_space, containsAny_space hall]
    rw [String.intercalate_singleton]
  | cons item items =>
    rw [String.intercalate_cons_cons]

def hintsWith (hasPicture : Bool) (lowered : String) : List SemanticHint :=
  (TextAnalysis.keywords.filter fun entry =>
    (entry.1 == .imageMention && hasPicture) || TextAnalysis.containsAny lowered entry.2).map
      Prod.fst

theorem semanticHints_kstr (halike : ∀ s, lowercase (kstr s) = kstr (t.toLowercase s))
    (title : String) (textItems : List String) (hasPicture : Bool) :
    semanticHints lowercase (kstr title) (textItems.map kstr) hasPicture =
      (hintsWith hasPicture
        (t.toLowercase (title ++ " " ++ " ".intercalate textItems))).map SemanticHint.debug := by
  have hname : ∀ hint : SemanticHint,
      (hint.debug == "ImageMention") = (hint == SemanticHint.imageMention) := by
    intro hint
    cases hint <;> decide
  rw [semanticHints, keywordGroups_eq, List.filter_map, List.map_map, hintsWith, List.map_map]
  refine congrArg (List.map _) (List.filter_congr fun entry hentry => ?_)
  simp only [Function.comp_apply, hname, containsAny_combined halike title textItems hentry]

theorem extractSemanticHints_eq (toLowercase : String → String) (title text : String) :
    TextAnalysis.extractSemanticHints toLowercase title text =
      hintsWith false (toLowercase (title ++ " " ++ text)) := by
  simp only [TextAnalysis.extractSemanticHints, hintsWith, Bool.and_false, Bool.false_or]

theorem extractSemanticHints_empty :
    TextAnalysis.extractSemanticHints t.toLowercase "" "" = [] := by
  have hlower : t.toLowercase ("" ++ " " ++ "") = " " := by
    rw [String.append_empty, t.toLowercase_space]
    rfl
  rw [TextAnalysis.extractSemanticHints, hlower]
  decide +kernel

def imageKeywords : List String :=
  ["图片", "照片", "截图", "image", "photo", "screenshot", "jpg", "jpeg", "png", "gif", "webp",
    "相册"]

theorem imageMention_mem_hintsWith {hasPicture : Bool} {lowered : String} :
    .imageMention ∈ hintsWith hasPicture lowered ↔
      hasPicture = true ∨ TextAnalysis.containsAny lowered imageKeywords = true := by
  simp [hintsWith, TextAnalysis.keywords, imageKeywords]

theorem hintsWith_eq_iff {hasPicture : Bool} {lowered : String} :
    hintsWith hasPicture lowered = hintsWith false lowered ↔
      hasPicture = false ∨ TextAnalysis.containsAny lowered imageKeywords = true := by
  constructor
  · intro h
    cases hasPicture with
    | false => exact .inl rfl
    | true =>
      have hmem : .imageMention ∈ hintsWith true lowered :=
        imageMention_mem_hintsWith.mpr (.inl rfl)
      rw [h] at hmem
      exact .inr ((imageMention_mem_hintsWith.mp hmem).resolve_left Bool.false_ne_true)
  · rintro (rfl | hcontains)
    · rfl
    · have hentry : ∀ entry ∈ TextAnalysis.keywords, entry.1 = .imageMention →
          entry.2 = imageKeywords := by decide
      refine congrArg (List.map _) (List.filter_congr fun entry hmem => ?_)
      by_cases himage : entry.1 = .imageMention
      · rw [hentry entry hmem himage, hcontains, Bool.or_true, Bool.or_true]
      · rw [beq_eq_false_iff_ne.mpr himage, Bool.false_and, Bool.false_and]

/-! ### Agreement -/

def hintsOf (e : SanitizedEvent) : Option (TextHint × TextHint × List SemanticHint) :=
  match e.eventType with
  | .notification _ _ _ titleHint textHint semanticHints _ _ =>
    some (titleHint, textHint, semanticHints)
  | _ => none

structure CarriesText (title : Option String) (textItems : List String) (hasPicture : Bool)
    (raw : NotificationRawEvent) : Prop where
  rawTitle : raw.rawTitle = title.getD ""
  rawText : raw.rawText = " ".intercalate textItems
  titleHint : raw.titleHint = none
  textHint : raw.textHint = none
  semanticHints : raw.semanticHints = []
  hasPicture : raw.hasPicture = hasPicture

theorem hintsOf_raw {toLowercase : String → String} {eventId : String} {title : Option String}
    {textItems : List String} {hasPicture : Bool} {raw : NotificationRawEvent}
    (h : CarriesText title textItems hasPicture raw) :
    hintsOf (PrivacyAirGap.sanitize toLowercase eventId (.notificationPosted raw)) =
      some (TextAnalysis.analyzeText (title.getD ""),
        TextAnalysis.analyzeText (" ".intercalate textItems),
        hintsWith false (toLowercase (title.getD "" ++ " " ++ " ".intercalate textItems))) := by
  simp only [PrivacyAirGap.sanitize, PrivacyAirGap.sanitizeNotification, hintsOf, h.rawTitle,
    h.rawText, h.titleHint, h.textHint, h.semanticHints, Option.getD_none, List.isEmpty_nil,
    if_true, extractSemanticHints_eq]

theorem readNotification_posted (halike : ∀ s, lowercase (kstr s) = kstr (t.toLowercase s))
    (title : Option String) (textItems : List String) (hasPicture : Bool) (timestampMs : Int)
    (packageName : KString) (category channelId : Option KString) (isOngoing : Bool) :
    readNotification (notificationPosted lowercase timestampMs packageName category channelId
        (title.map kstr) (textItems.map kstr) isOngoing hasPicture) =
      some { timestampMs := timestampMs
             packageName := replaced packageName
             category := category.map replaced
             channelId := channelId.map replaced
             rawTitle := ""
             rawText := ""
             titleHint := some (TextAnalysis.analyzeText (title.getD ""))
             textHint := some (TextAnalysis.analyzeText (" ".intercalate textItems))
             semanticHints := hintsWith hasPicture
               (t.toLowercase (title.getD "" ++ " " ++ " ".intercalate textItems))
             isOngoing := isOngoing
             groupKey := none
             hasPicture := hasPicture } := by
  have htitle : (title.map kstr).getD [] = kstr (title.getD "") := by
    cases title <;> rfl
  rw [readNotification, notificationPosted, htitle, joinToString_kstr,
    semanticHints_kstr halike, mapM_readSemanticHint, readTextHint_kstr, readTextHint_kstr]
  rfl

theorem hintsOf_redacted (halike : ∀ s, lowercase (kstr s) = kstr (t.toLowercase s))
    (title : Option String) (textItems : List String) (hasPicture : Bool) (timestampMs : Int)
    (packageName : KString) (category channelId : Option KString) (isOngoing : Bool)
    (eventId : String) :
    ∃ redacted, readNotification (notificationPosted lowercase timestampMs packageName category
        channelId (title.map kstr) (textItems.map kstr) isOngoing hasPicture) = some redacted ∧
      hintsOf (PrivacyAirGap.sanitize t.toLowercase eventId (.notificationPosted redacted)) =
        some (TextAnalysis.analyzeText (title.getD ""),
          TextAnalysis.analyzeText (" ".intercalate textItems),
          hintsWith hasPicture
            (t.toLowercase (title.getD "" ++ " " ++ " ".intercalate textItems))) := by
  refine ⟨_, readNotification_posted halike title textItems hasPicture timestampMs packageName
    category channelId isOngoing, ?_⟩
  simp only [PrivacyAirGap.sanitize, PrivacyAirGap.sanitizeNotification, hintsOf,
    Option.getD_some, extractSemanticHints_empty]
  split
  · rename_i hempty
    rw [List.isEmpty_iff.mp hempty]
  · rfl

/-- A picture is an image to the device alone. -/
theorem notification_analysis_agrees_iff
    (halike : ∀ s, lowercase (kstr s) = kstr (t.toLowercase s)) {title : Option String}
    {textItems : List String} {hasPicture : Bool} {raw : NotificationRawEvent}
    (hraw : CarriesText title textItems hasPicture raw) (timestampMs : Int)
    (packageName : KString) (category channelId : Option KString) (isOngoing : Bool)
    (eventId eventId' : String) :
    (∃ redacted, readNotification (notificationPosted lowercase timestampMs packageName category
        channelId (title.map kstr) (textItems.map kstr) isOngoing hasPicture) = some redacted ∧
      hintsOf (PrivacyAirGap.sanitize t.toLowercase eventId (.notificationPosted redacted)) =
        hintsOf (PrivacyAirGap.sanitize t.toLowercase eventId' (.notificationPosted raw))) ↔
    hasPicture = false ∨ TextAnalysis.containsAny
      (t.toLowercase (title.getD "" ++ " " ++ " ".intercalate textItems)) imageKeywords = true := by
  obtain ⟨redacted, hread, hredacted⟩ := hintsOf_redacted halike title textItems hasPicture
    timestampMs packageName category channelId isOngoing eventId
  rw [← hintsWith_eq_iff, hintsOf_raw hraw, hread]
  constructor
  · rintro ⟨other, hother, hagree⟩
    obtain rfl := Option.some.inj hother
    simpa [hredacted] using hagree
  · intro hagree
    exact ⟨redacted, rfl, by rw [hredacted, hagree]⟩

/-! A table of ASCII letters, and a photo without a word about it. -/

def asciiTable : CaseTable where
  lower c := [c.toLower]
  cased c := c.isAlpha
  caseIgnorable c := c == '.'
  lower_space := rfl
  cased_space := rfl
  caseIgnorable_space := rfl

def asciiLowercase (s : KString) : KString := kstr (asciiTable.toLowercase (replaced s))

theorem asciiLowercase_alike (s : String) :
    asciiLowercase (kstr s) = kstr (asciiTable.toLowercase s) := by
  rw [asciiLowercase, replaced_kstr]

def rawNotification (title text : String) (hasPicture : Bool) : NotificationRawEvent where
  timestampMs := 1000
  packageName := "com.chat"
  category := some "msg"
  channelId := none
  rawTitle := title
  rawText := text
  titleHint := none
  textHint := none
  semanticHints := []
  isOngoing := false
  groupKey := none
  hasPicture := hasPicture

theorem rawNotification_carries (title text : String) (hasPicture : Bool) :
    CarriesText (some title) [text] hasPicture (rawNotification title text hasPicture) :=
  ⟨rfl, String.intercalate_singleton.symm, rfl, rfl, rfl, rfl⟩

theorem notification_analysis_agrees_iff_photo :
    ∃ redacted, readNotification (notificationPosted asciiLowercase 1000 (kstr "com.chat")
        (some (kstr "msg")) none ((some "Alice").map kstr) (["sent a Photo"].map kstr) false true) =
      some redacted ∧
    hintsOf (PrivacyAirGap.sanitize asciiTable.toLowercase "a" (.notificationPosted redacted)) =
      hintsOf (PrivacyAirGap.sanitize asciiTable.toLowercase "b"
        (.notificationPosted (rawNotification "Alice" "sent a Photo" true))) :=
  (notification_analysis_agrees_iff asciiLowercase_alike
    (rawNotification_carries "Alice" "sent a Photo" true) 1000 (kstr "com.chat")
    (some (kstr "msg")) none false "a" "b").mpr (.inr (by decide +kernel))

theorem notification_analysis_differs_picture :
    ∃ redacted, readNotification (notificationPosted asciiLowercase 1000 (kstr "com.chat")
        (some (kstr "msg")) none ((some "Alice").map kstr) (["hello"].map kstr) false true) =
      some redacted ∧
    hintsOf (PrivacyAirGap.sanitize asciiTable.toLowercase "a" (.notificationPosted redacted)) =
      some (⟨5, .latin, false⟩, ⟨5, .latin, false⟩, [.imageMention]) ∧
    hintsOf (PrivacyAirGap.sanitize asciiTable.toLowercase "b"
        (.notificationPosted (rawNotification "Alice" "hello" true))) =
      some (⟨5, .latin, false⟩, ⟨5, .latin, false⟩, []) := by
  obtain ⟨redacted, hread, hredacted⟩ := hintsOf_redacted asciiLowercase_alike (some "Alice")
    ["hello"] true 1000 (kstr "com.chat") (some (kstr "msg")) none false "a"
  refine ⟨redacted, hread, hredacted.trans (by decide +kernel), by decide +kernel⟩

end Dipecs.Device.AndroidRawEventMapper
