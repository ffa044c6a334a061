import Dipecs.Library.Text
import Dipecs.Spec.Event

/-! Prefetch targets: the page of a known app's service, or a fallback by file category. -/

namespace Dipecs.Agent

open Dipecs.Spec Dipecs.Library

namespace PrefetchTarget

def toAsciiLowercase (s : String) : String := String.ofList (s.toList.map Char.toLower)

def services : List (List String × (ExtensionCategory → String)) :=
  [(["lark", "feishu"], fun category =>
      if category = .document then "https://www.feishu.cn/docx/" else "https://www.feishu.cn/"),
   (["drive"], fun category =>
      if category = .image ∨ category = .video then "https://photos.google.com/"
      else "https://drive.google.com/drive/my-drive"),
   (["dropbox"], fun _ => "https://www.dropbox.com/home"),
   (["skydrive", "onedrive"], fun _ => "https://onedrive.live.com/"),
   (["slack"], fun _ => "https://app.slack.com/client"),
   (["telegram"], fun _ => "https://web.telegram.org/"),
   (["whatsapp"], fun _ => "https://www.whatsapp.com/"),
   (["tencent.mm", "wechat"], fun _ => "https://weixin.qq.com/"),
   (["tencent.mobileqq", "mobileqq"], fun _ => "https://im.qq.com/"),
   (["chrome", "browser"], fun _ => "https://www.google.com/")]

/-- One package of the drive service goes by its full name. -/
def matchesService (package : String) (names : List String) : Bool :=
  names.any (Text.contains · package) ||
    (names == ["drive"] && package == "com.google.android.apps.docs")

def knownPackageUrl (packageName : String) (category : ExtensionCategory) : Option String :=
  let package := toAsciiLowercase (Text.trim Text.isWhiteSpace packageName)
  (services.find? fun (names, _) => matchesService package names).map fun (_, url) => url category

def fallbackUrl : ExtensionCategory → String
  | .document => "https://www.w3.org/WAI/ER/tests/xhtml/testfiles/resources/pdf/dummy.pdf"
  | .image => "https://httpbin.org/image/png"
  | .video => "https://www.w3schools.com/html/mov_bbb.mp4"
  | .audio => "https://www.w3schools.com/html/horse.mp3"
  | .archive => "https://github.com/114August514/DiPECS/archive/refs/heads/main.zip"
  | .code => "https://raw.githubusercontent.com/114August514/DiPECS/main/README.md"
  | .other | .unknown => "https://httpbin.org/json"

def defaultPrefetchTarget (category : ExtensionCategory) (packageName : Option String) : String :=
  "url:" ++ (packageName.bind (knownPackageUrl · category)).getD (fallbackUrl category)

def looksLikePackageName (raw : String) : Bool :=
  raw.toList.contains '.' && !raw.toList.contains '/' && !raw.toList.contains ':' &&
    raw.toList.all fun c => c.isAlphanum || c == '.' || c == '_' || c == '-'

/-! A default target is an address of the `url:` form with no space in it. -/

theorem noSpace_ofList {l : List Char} (h : l.all fun c => !Text.isWhiteSpace c) :
    ∀ c ∈ (String.ofList l).toList, Text.isWhiteSpace c = false := by
  intro c hc
  rw [String.toList_ofList] at hc
  simpa using List.all_eq_true.mp h c hc

theorem fallbackUrl_noSpace (category : ExtensionCategory) :
    ∀ c ∈ (fallbackUrl category).toList, Text.isWhiteSpace c = false := by
  cases category <;> exact noSpace_ofList (by decide +kernel)

theorem services_noSpace (category : ExtensionCategory) {service}
    (h : service ∈ services) :
    ∀ c ∈ (service.2 category).toList, Text.isWhiteSpace c = false := by
  simp only [services, List.mem_cons, List.not_mem_nil, or_false] at h
  rcases h with rfl | rfl | rfl | rfl | rfl | rfl | rfl | rfl | rfl | rfl
  · dsimp only
    split <;> exact noSpace_ofList (by decide +kernel)
  · dsimp only
    split <;> exact noSpace_ofList (by decide +kernel)
  all_goals exact noSpace_ofList (by decide +kernel)

theorem defaultPrefetchTarget_noSpace (category : ExtensionCategory)
    (packageName : Option String) :
    ∀ c ∈ (defaultPrefetchTarget category packageName).toList, Text.isWhiteSpace c = false := by
  have hurl : ∀ c ∈ "url:".toList, Text.isWhiteSpace c = false :=
    noSpace_ofList (by decide +kernel)
  intro c hc
  rw [defaultPrefetchTarget, String.toList_append] at hc
  rcases List.mem_append.mp hc with hc | hc
  · exact hurl c hc
  · cases hknown : packageName.bind (knownPackageUrl · category) with
    | none =>
      rw [hknown] at hc
      exact fallbackUrl_noSpace category c hc
    | some url =>
      rw [hknown] at hc
      obtain ⟨package, -, hpackage⟩ := Option.bind_eq_some_iff.mp hknown
      rw [knownPackageUrl, Option.map_eq_some_iff] at hpackage
      obtain ⟨service, hfind, rfl⟩ := hpackage
      exact services_noSpace category (List.mem_of_find?_eq_some hfind) c hc

theorem startsWith_defaultPrefetchTarget (category : ExtensionCategory)
    (packageName : Option String) :
    Text.startsWith "url:" (defaultPrefetchTarget category packageName) := by
  rw [Text.startsWith_iff, defaultPrefetchTarget]
  exact ⟨_, rfl⟩

end PrefetchTarget

end Dipecs.Agent
