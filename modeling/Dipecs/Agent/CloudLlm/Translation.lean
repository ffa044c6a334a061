import Dipecs.Agent.CloudLlm.Translate

/-! What a translated answer is fit for.  Recognition is by name alone; a target is normal when
it has an address scheme and no space around it. -/

namespace Dipecs.Agent

open Dipecs.Spec Dipecs.Library PrefetchTarget

namespace CloudLlm

structure RecognisedAction (a : ModelAction) : Prop where
  actionType : normalizeEnumName a.actionType ∈ actionTypes.map Prod.fst
  urgency : ∀ u, a.urgency = some u → normalizeEnumName u ∈ actionUrgencies.map Prod.fst

structure Recognised (intent : ModelIntent) : Prop where
  intentType : normalizeEnumName intent.intentType ∈ intentTypes.map Prod.fst
  riskLevel : normalizeEnumName intent.riskLevel ∈ riskLevels.map Prod.fst
  actions : ∀ a ∈ intent.actions, RecognisedAction a
  category : normalizeEnumName intent.intentType = "handlefile" →
    ∀ c, intent.extensionCategory = some c →
      normalizeEnumName c ∈ extensionCategories.map Prod.fst

/-! Names. -/

theorem mem_of_lookup {α : Type} {table : List (String × α)} {name : String} {value : α}
    (h : table.lookup name = some value) : (name, value) ∈ table := by
  obtain ⟨l₁, l₂, rfl, -⟩ := List.lookup_eq_some_iff.mp h
  exact List.mem_append_right _ List.mem_cons_self

theorem mem_of_parseName {α : Type} {field : String} {table : List (String × α)} {raw : String}
    {value : α} (h : parseName field table raw = .ok value) :
    (normalizeEnumName raw, value) ∈ table := by
  unfold parseName at h
  split at h
  · rename_i found hfound
    obtain rfl := Except.ok.inj h
    exact mem_of_lookup hfound
  · cases h

theorem parseName_isOk {α : Type} {field : String} {table : List (String × α)} {raw : String} :
    (∃ value, parseName field table raw = .ok value) ↔
      normalizeEnumName raw ∈ table.map Prod.fst := by
  constructor
  · rintro ⟨value, h⟩
    exact List.mem_map_of_mem (f := Prod.fst) (mem_of_parseName h)
  · intro hmem
    rw [parseName]
    obtain ⟨p, hp, hname⟩ := List.mem_map.mp hmem
    cases hfound : table.lookup (normalizeEnumName raw) with
    | some value => exact ⟨value, rfl⟩
    | none =>
      have hne := List.lookup_eq_none_iff.mp hfound p hp
      simp [hname] at hne

theorem map_isOk {α β : Type} {x : Except String α} {f : α → β} :
    (∃ y, x.map f = .ok y) ↔ ∃ a, x = .ok a := by
  cases x with
  | error e => simp [Except.map]
  | ok a => simp [Except.map]

theorem parseExtensionCategory_isOk {extensionCategory : Option String} :
    (∃ category, parseExtensionCategory (extensionCategory.getD "Unknown") = .ok category) ↔
      ∀ c, extensionCategory = some c →
        normalizeEnumName c ∈ extensionCategories.map Prod.fst := by
  rw [parseExtensionCategory, parseName_isOk]
  cases extensionCategory with
  | none =>
    have hunknown : normalizeEnumName "Unknown" ∈ extensionCategories.map Prod.fst := by
      decide +kernel
    exact ⟨fun _ => nofun, fun _ => hunknown⟩
  | some c => exact ⟨fun h c' hc' => Option.some.inj hc' ▸ h, fun h => h c rfl⟩

theorem intentTypes_isOk {name : String} {build} (h : (name, build) ∈ intentTypes)
    (target extensionCategory : Option String) :
    (∃ type, build target extensionCategory = .ok type) ↔
      (name = "handlefile" → ∀ c, extensionCategory = some c →
        normalizeEnumName c ∈ extensionCategories.map Prod.fst) := by
  by_cases hfile : name = "handlefile"
  · subst hfile
    have hbuild : build = fun _ extensionCategory =>
        (parseExtensionCategory (extensionCategory.getD "Unknown")).map .handleFile := by
      simpa [intentTypes] using h
    subst hbuild
    rw [map_isOk, parseExtensionCategory_isOk]
    exact ⟨fun h _ => h, fun h => h rfl⟩
  · refine ⟨fun _ hname => absurd hname hfile, fun _ => ?_⟩
    simp only [intentTypes, List.mem_cons, Prod.mk.injEq, List.not_mem_nil, or_false, hfile,
      false_and, false_or] at h
    rcases h with ⟨-, rfl⟩ | ⟨-, rfl⟩ | ⟨-, rfl⟩ | ⟨-, rfl⟩ | ⟨-, rfl⟩ <;> exact ⟨_, rfl⟩

theorem parseIntentType_isOk {raw : String} {target extensionCategory : Option String} :
    (∃ type, parseIntentType raw target extensionCategory = .ok type) ↔
      normalizeEnumName raw ∈ intentTypes.map Prod.fst ∧
        (normalizeEnumName raw = "handlefile" → ∀ c, extensionCategory = some c →
          normalizeEnumName c ∈ extensionCategories.map Prod.fst) := by
  simp only [parseIntentType, bind_eq_ok_iff]
  constructor
  · rintro ⟨type, build, hbuild, htype⟩
    have hmem := mem_of_parseName hbuild
    exact ⟨parseName_isOk.mp ⟨build, hbuild⟩,
      (intentTypes_isOk hmem target extensionCategory).mp ⟨type, htype⟩⟩
  · rintro ⟨hname, hcategory⟩
    obtain ⟨build, hbuild⟩ := parseName_isOk.mpr hname
    obtain ⟨type, htype⟩ :=
      (intentTypes_isOk (mem_of_parseName hbuild) target extensionCategory).mpr hcategory
    exact ⟨type, build, hbuild, htype⟩

/-! Targets. -/

def Normal (v : String) : Prop :=
  trim v = v ∧ (Text.startsWith "url:" v ∨ Text.startsWith "uri:" v)

theorem Normal.ne_empty {v : String} (h : Normal v) : v ≠ "" := by
  rintro rfl
  rcases h.2 with h | h <;> exact absurd h (by decide +kernel)

theorem scheme_noSpace : ∀ c ∈ "url:".toList, Text.isWhiteSpace c = false :=
  noSpace_ofList (by decide +kernel)

theorem uri_noSpace : ∀ c ∈ "uri:".toList, Text.isWhiteSpace c = false :=
  noSpace_ofList (by decide +kernel)

theorem normal_defaultPrefetchTarget (category : ExtensionCategory)
    (packageName : Option String) : Normal (defaultPrefetchTarget category packageName) :=
  ⟨Text.trim_eq_self (defaultPrefetchTarget_noSpace category packageName),
    .inl (startsWith_defaultPrefetchTarget category packageName)⟩

theorem normal_resolveTarget {category : Option ExtensionCategory} {value v : String}
    (htrim : trim value = value) (h : resolveTarget category value = some v) : Normal v := by
  have hdefault : ∀ {package : String},
      category.map (fun c => defaultPrefetchTarget c (some package)) = some v → Normal v := by
    intro package hmap
    obtain ⟨c, -, rfl⟩ := Option.map_eq_some_iff.mp hmap
    exact normal_defaultPrefetchTarget c _
  unfold resolveTarget at h
  split at h
  · rename_i hscheme
    obtain rfl := Option.some.inj h
    exact ⟨htrim, by simpa using hscheme⟩
  split at h
  · obtain rfl := Option.some.inj h
    exact ⟨Text.trim_append scheme_noSpace htrim, .inl (Text.startsWith_iff.mpr ⟨_, rfl⟩)⟩
  split at h
  · obtain rfl := Option.some.inj h
    exact ⟨Text.trim_append uri_noSpace htrim, .inr (Text.startsWith_iff.mpr ⟨_, rfl⟩)⟩
  split at h
  · exact hdefault h
  split at h
  · exact hdefault h
  · cases h

theorem normalizePrefetchTarget_normal {target fallback : Option String}
    {category : Option ExtensionCategory} (hfallback : ∀ f, fallback = some f → Normal f)
    {v : String} (h : normalizePrefetchTarget target fallback category = some v) : Normal v := by
  rcases Option.or_eq_some_iff.mp h with h | ⟨-, h⟩
  · obtain ⟨value, hvalue, h⟩ := Option.bind_eq_some_iff.mp h
    obtain ⟨hvalue, -⟩ := Option.filter_eq_some_iff.mp hvalue
    obtain ⟨raw, -, rfl⟩ := Option.map_eq_some_iff.mp hvalue
    exact normal_resolveTarget (Text.trim_trim _ raw) h
  · exact hfallback v h

theorem Normal.normalize {v : String} (h : Normal v) (fallback : Option String)
    (category : Option ExtensionCategory) :
    normalizePrefetchTarget (some v) fallback category = some v := by
  have hresolve : resolveTarget category v = some v := by
    rw [resolveTarget, if_pos (by simpa using h.2)]
  rw [normalizePrefetchTarget, Option.map_some, h.1, Option.filter_some,
    if_pos (decide_eq_true h.ne_empty), Option.bind_some, hresolve, Option.some_or]

theorem normalizePrefetchTarget_idem {target fallback : Option String}
    {category : Option ExtensionCategory} (hfallback : ∀ f, fallback = some f → Normal f) :
    normalizePrefetchTarget (normalizePrefetchTarget target fallback category) fallback
      category = normalizePrefetchTarget target fallback category := by
  cases hnormal : normalizePrefetchTarget target fallback category with
  | none =>
    obtain ⟨-, rfl⟩ := Option.or_eq_none_iff.mp hnormal
    rfl
  | some v => exact (normalizePrefetchTarget_normal hfallback hnormal).normalize fallback category

theorem inferPrefetchTarget_normal {intent : ModelIntent} {category : Option ExtensionCategory}
    {f : String} (h : inferPrefetchTarget intent category = some f) : Normal f := by
  unfold inferPrefetchTarget at h
  split at h
  · cases h
  · obtain rfl := Option.some.inj h
    exact normal_defaultPrefetchTarget _ _

/-! Actions and intents. -/

/-- No action aims at a blank, and what is prefetched is at an address. -/
structure SafeAction (a : SuggestedAction) : Prop where
  notBlank : ∀ t, a.target = some t → trim t ≠ ""
  address : a.actionType = .prefetchFile → ∀ t, a.target = some t →
    Text.startsWith "url:" t ∨ Text.startsWith "uri:" t

structure WellFormed (intent : Intent Ieee) : Prop where
  confidence : Ieee.le (.finite 0) intent.confidence ∧ intent.confidence.le (.finite 1)
  actions : intent.suggestedActions ≠ []
  tags : intent.rationaleTags ≠ []
  safe : ∀ a ∈ intent.suggestedActions, SafeAction a

def Stable (source : ModelIntent) (a : SuggestedAction) : Prop :=
  a.actionType = .prefetchFile →
    let category := inferPrefetchCategory source
    normalizePrefetchTarget a.target (inferPrefetchTarget source category) category = a.target

/-- What an action keeps of the one that was asked for: of its target only a blank one is
dropped, unless a file is to be prefetched. -/
structure KeepsAction (action : ModelAction) (a : SuggestedAction) : Prop where
  actionType : parseActionType action.actionType = .ok a.actionType
  urgency : (action.urgency.map parseActionUrgency).getD (.ok .idleTime) = .ok a.urgency
  target : a.actionType ≠ .prefetchFile →
    a.target = action.target.filter fun value => trim value ≠ ""

structure Translates (source : ModelIntent) (intent : Intent Ieee) : Prop where
  translated : ∃ newId, translateIntent newId source = .ok intent
  intentType : parseIntentType source.intentType source.target source.extensionCategory =
    .ok intent.intentType
  confidence : intent.confidence = clamp source.confidence (.finite 0) (.finite 1)
  riskLevel : parseRiskLevel source.riskLevel = .ok intent.riskLevel
  rationaleTags : intent.rationaleTags =
    if source.rationaleTags = [] then ["cloud_llm"] else source.rationaleTags
  actions : if source.actions = [] then intent.suggestedActions = [noOpAction]
    else List.Forall₂ KeepsAction source.actions intent.suggestedActions
  stable : ∀ a ∈ intent.suggestedActions, Stable source a

theorem parseUrgency_isOk {urgency : Option String} :
    (∃ u, (urgency.map parseActionUrgency).getD (.ok .idleTime) = .ok u) ↔
      ∀ u, urgency = some u → normalizeEnumName u ∈ actionUrgencies.map Prod.fst := by
  cases urgency with
  | none => exact ⟨fun _ => nofun, fun _ => ⟨_, rfl⟩⟩
  | some u =>
    rw [Option.map_some, Option.getD_some, parseActionUrgency, parseName_isOk]
    exact ⟨fun h u' hu' => Option.some.inj hu' ▸ h, fun h => h u rfl⟩

section
variable {fallback : Option String} {category : Option ExtensionCategory}

theorem translateAction_isOk {action : ModelAction} :
    (∃ a, translateAction action fallback category = .ok a) ↔ RecognisedAction action := by
  simp only [translateAction, bind_eq_ok_iff]
  constructor
  · rintro ⟨a, type, htype, urgency, hurgency, -⟩
    exact ⟨parseName_isOk.mp ⟨type, htype⟩, parseUrgency_isOk.mp ⟨urgency, hurgency⟩⟩
  · rintro ⟨htype, hurgency⟩
    obtain ⟨type, htype⟩ := parseName_isOk.mpr htype
    obtain ⟨urgency, hurgency⟩ := parseUrgency_isOk.mpr hurgency
    exact ⟨_, type, htype, urgency, hurgency, rfl⟩

theorem target_of_translateAction {action : ModelAction} {a : SuggestedAction}
    (h : translateAction action fallback category = .ok a) :
    a.target =
      if a.actionType = .prefetchFile then
        normalizePrefetchTarget (action.target.filter fun value => trim value ≠ "") fallback
          category
      else action.target.filter fun value => trim value ≠ "" := by
  simp only [translateAction, bind_eq_ok_iff] at h
  obtain ⟨type, -, urgency, -, h⟩ := h
  obtain rfl := Except.ok.inj h
  rfl

theorem keepsAction_of_translateAction {action : ModelAction} {a : SuggestedAction}
    (h : translateAction action fallback category = .ok a) : KeepsAction action a := by
  have htarget := target_of_translateAction h
  simp only [translateAction, bind_eq_ok_iff] at h
  obtain ⟨type, htype, urgency, hurgency, h⟩ := h
  obtain rfl := Except.ok.inj h
  exact ⟨htype, hurgency, fun hother => htarget.trans (if_neg hother)⟩

theorem safeAction_of_translateAction (hfallback : ∀ f, fallback = some f → Normal f)
    {action : ModelAction} {a : SuggestedAction}
    (h : translateAction action fallback category = .ok a) : SafeAction a := by
  have htarget := target_of_translateAction h
  split at htarget
  · rename_i hprefetch
    have hnormal : ∀ t, a.target = some t → Normal t := fun t ht =>
      normalizePrefetchTarget_normal hfallback (htarget.symm.trans ht)
    refine ⟨fun t ht => ?_, fun _ t ht => (hnormal t ht).2⟩
    rw [(hnormal t ht).1]
    exact (hnormal t ht).ne_empty
  · rename_i hother
    refine ⟨fun t ht => ?_, fun hprefetch => absurd hprefetch hother⟩
    rw [htarget, Option.filter_eq_some_iff] at ht
    simpa using ht.2

end

theorem stable_of_translateAction {source : ModelIntent} {action : ModelAction}
    {a : SuggestedAction}
    (h : translateAction action (inferPrefetchTarget source (inferPrefetchCategory source))
      (inferPrefetchCategory source) = .ok a) : Stable source a := by
  intro hprefetch
  have htarget := target_of_translateAction h
  rw [if_pos hprefetch] at htarget
  rw [htarget]
  exact normalizePrefetchTarget_idem fun f hf => inferPrefetchTarget_normal hf

theorem clamp_between {x low high : Ieee} (hx : x.isNan = false) (hlow : low.isNan = false)
    (hhigh : high.isNan = false) (h : low.le high) :
    low.le (clamp x low high) ∧ (clamp x low high).le high := by
  have hrefl : ∀ {y : Ieee}, y.isNan = false → y.le y := fun hy =>
    Bool.or_eq_true_iff.mpr (.inr (Ieee.eq_iff.mpr ⟨hy, rfl⟩))
  unfold clamp
  split
  · exact ⟨hrefl hlow, h⟩
  · rename_i hbelow
    split
    · exact ⟨h, hrefl hhigh⟩
    · rename_i habove
      exact ⟨(Ieee.le_or_lt hlow hx).resolve_right hbelow,
        (Ieee.le_or_lt hx hhigh).resolve_right habove⟩

theorem safeAction_noOp : SafeAction noOpAction := ⟨nofun, nofun⟩

theorem wellFormed_idleIntent (newId : String) : WellFormed (idleIntent newId) where
  confidence := by
    show Ieee.le (.finite 0) (.finite (1 / 2)) ∧ Ieee.le (.finite (1 / 2)) (.finite 1)
    decide +kernel
  actions := List.cons_ne_nil _ _
  tags := List.cons_ne_nil _ _
  safe a ha := List.mem_singleton.mp ha ▸ safeAction_noOp

theorem translateActions_eq_ok {source : ModelIntent} {actions : List SuggestedAction} :
    translateActions source = .ok actions ↔
      (source.actions = [] ∧ actions = [noOpAction]) ∨
      (source.actions ≠ [] ∧ List.Forall₂ (fun action a =>
        translateAction action (inferPrefetchTarget source (inferPrefetchCategory source))
          (inferPrefetchCategory source) = .ok a) source.actions actions) := by
  by_cases hnil : source.actions = []
  · simp [translateActions, hnil, eq_comm]
  · simp [translateActions, hnil, mapM_eq_ok_iff]

theorem translateActions_isOk {source : ModelIntent} :
    (∃ actions, translateActions source = .ok actions) ↔
      ∀ a ∈ source.actions, RecognisedAction a := by
  constructor
  · rintro ⟨actions, h⟩ a ha
    rcases translateActions_eq_ok.mp h with ⟨hnil, -⟩ | ⟨-, hall⟩
    · rw [hnil] at ha
      cases ha
    · obtain ⟨translated, -, heq⟩ := forall₂_of_mem_left hall ha
      exact translateAction_isOk.mp ⟨translated, heq⟩
  · intro h
    by_cases hnil : source.actions = []
    · exact ⟨_, translateActions_eq_ok.mpr (.inl ⟨hnil, rfl⟩)⟩
    · obtain ⟨actions, hactions, -⟩ := mapM_forall₂ (R := fun _ _ => True) fun a ha =>
        (translateAction_isOk.mpr (h a ha)).imp fun _ heq => ⟨heq, trivial⟩
      exact ⟨actions, translateActions_eq_ok.mpr (.inr ⟨hnil, mapM_eq_ok_iff.mp hactions⟩)⟩

theorem of_mem_translateActions {source : ModelIntent} {actions : List SuggestedAction}
    (h : translateActions source = .ok actions) :
    actions ≠ [] ∧ ∀ a ∈ actions, SafeAction a ∧ Stable source a := by
  rcases translateActions_eq_ok.mp h with ⟨-, rfl⟩ | ⟨hne, hall⟩
  · refine ⟨List.cons_ne_nil _ _, fun a ha => ?_⟩
    obtain rfl := List.mem_singleton.mp ha
    exact ⟨safeAction_noOp, nofun⟩
  · refine ⟨fun hnil => ?_, fun a ha => ?_⟩
    · rw [hnil] at hall
      exact hne (List.forall₂_nil_right_iff.mp hall)
    · obtain ⟨action, -, heq⟩ := forall₂_of_mem_right hall ha
      exact ⟨safeAction_of_translateAction (fun f hf => inferPrefetchTarget_normal hf) heq,
        stable_of_translateAction heq⟩

theorem translateIntent_isOk {newId : String} {source : ModelIntent} :
    (∃ intent, translateIntent newId source = .ok intent) ↔ Recognised source := by
  simp only [translateIntent, bind_eq_ok_iff]
  constructor
  · rintro ⟨intent, type, htype, actions, hactions, risk, hrisk, -⟩
    obtain ⟨hname, hcategory⟩ := parseIntentType_isOk.mp ⟨type, htype⟩
    exact ⟨hname, parseName_isOk.mp ⟨risk, hrisk⟩, translateActions_isOk.mp ⟨actions, hactions⟩,
      hcategory⟩
  · rintro ⟨hname, hrisk, hactions, hcategory⟩
    obtain ⟨type, htype⟩ := parseIntentType_isOk.mpr ⟨hname, hcategory⟩
    obtain ⟨actions, hactions⟩ := translateActions_isOk.mpr hactions
    obtain ⟨risk, hrisk⟩ := parseName_isOk.mpr hrisk
    exact ⟨_, type, htype, actions, hactions, risk, hrisk, rfl⟩

theorem keeps_of_translateActions {source : ModelIntent} {actions : List SuggestedAction}
    (h : translateActions source = .ok actions) :
    if source.actions = [] then actions = [noOpAction]
    else List.Forall₂ KeepsAction source.actions actions := by
  rcases translateActions_eq_ok.mp h with ⟨hnil, rfl⟩ | ⟨hne, hall⟩
  · rw [if_pos hnil]
  · rw [if_neg hne]
    exact hall.imp fun _ _ => keepsAction_of_translateAction

theorem of_translateIntent {newId : String} {source : ModelIntent} {intent : Intent Ieee}
    (h : translateIntent newId source = .ok intent) :
    WellFormed intent ∧ Translates source intent := by
  have hsource := h
  simp only [translateIntent, bind_eq_ok_iff] at h
  obtain ⟨type, htype, actions, hactions, risk, hrisk, h⟩ := h
  obtain rfl := Except.ok.inj h
  obtain ⟨hne, hall⟩ := of_mem_translateActions hactions
  refine ⟨⟨?_, hne, ?_, fun a ha => (hall a ha).1⟩,
    ⟨⟨newId, hsource⟩, htype, rfl, hrisk, by simp [List.isEmpty_iff],
      keeps_of_translateActions hactions, fun a ha => (hall a ha).2⟩⟩
  · exact clamp_between source.confidence.property rfl rfl (by decide +kernel)
  · dsimp only
    split
    · exact List.cons_ne_nil _ _
    · rename_i htags
      exact fun hnil => htags (List.isEmpty_iff.mpr hnil)

theorem translateIntents_nil (newId : Nat → String) :
    translateIntents newId [] = .ok [idleIntent (newId 0)] := rfl

theorem translateIntents_eq_mapM {newId : Nat → String} {sources : List ModelIntent}
    (hne : sources ≠ []) : translateIntents newId sources =
      sources.zipIdx.mapM fun p => translateIntent (newId p.2) p.1 := by
  rw [translateIntents, if_neg (by simpa using hne)]

theorem translateIntents_forall₂ {newId : Nat → String} {sources : List ModelIntent}
    {intents : List (Intent Ieee)} (hne : sources ≠ [])
    (h : translateIntents newId sources = .ok intents) :
    List.Forall₂ (fun source intent => ∃ id, translateIntent id source = .ok intent) sources
      intents := by
  rw [translateIntents_eq_mapM hne, mapM_eq_ok_iff] at h
  rw [← List.zipIdx_map_fst 0 sources, List.forall₂_map_left_iff]
  exact h.imp fun p _ heq => ⟨newId p.2, heq⟩

theorem translateIntents_of_recognised (newId : Nat → String) {sources : List ModelIntent}
    (h : ∀ source ∈ sources, Recognised source) :
    ∃ intents, translateIntents newId sources = .ok intents := by
  by_cases hnil : sources = []
  · exact ⟨_, hnil ▸ translateIntents_nil newId⟩
  · rw [translateIntents_eq_mapM hnil]
    obtain ⟨intents, hintents, -⟩ := mapM_forall₂ (R := fun _ _ => True)
      (f := fun p : ModelIntent × Nat => translateIntent (newId p.2) p.1) fun p hp =>
        (translateIntent_isOk.mpr (h p.1 (List.fst_mem_of_mem_zipIdx hp))).imp
          fun _ heq => ⟨heq, trivial⟩
    exact ⟨intents, hintents⟩

/-- Translation fails at a name that is not recognised and nowhere else, and what it returns
is fit to be judged by the policy, intent by intent. -/
theorem translateIntents_wellFormed (newId : Nat → String) (sources : List ModelIntent) :
    (match translateIntents newId sources with
      | .error _ => ∃ source ∈ sources, ¬ Recognised source
      | .ok intents =>
        (∀ source ∈ sources, Recognised source) ∧ intents ≠ [] ∧
          (∀ intent ∈ intents, WellFormed intent) ∧
          if sources = [] then intents = [idleIntent (newId 0)]
          else List.Forall₂ Translates sources intents) ∧
    ∀ source : ModelIntent, ∀ target,
      let category := inferPrefetchCategory source
      let fallback := inferPrefetchTarget source category
      normalizePrefetchTarget (normalizePrefetchTarget target fallback category) fallback
        category = normalizePrefetchTarget target fallback category := by
  refine ⟨?_, fun source target =>
    normalizePrefetchTarget_idem fun f hf => inferPrefetchTarget_normal hf⟩
  cases htranslate : translateIntents newId sources with
  | error e =>
    by_contra hnone
    obtain ⟨intents, hintents⟩ := translateIntents_of_recognised newId fun source hsource =>
      by_contra fun h => hnone ⟨source, hsource, h⟩
    rw [htranslate] at hintents
    cases hintents
  | ok intents =>
    by_cases hnil : sources = []
    · subst hnil
      obtain rfl := Except.ok.inj ((translateIntents_nil newId).symm.trans htranslate)
      refine ⟨fun _ h => absurd h List.not_mem_nil, List.cons_ne_nil _ _, fun intent h => ?_,
        rfl⟩
      obtain rfl := List.mem_singleton.mp h
      exact wellFormed_idleIntent _
    · have hall := translateIntents_forall₂ hnil htranslate
      refine ⟨fun source hsource => ?_, fun h => ?_, fun intent hintent => ?_, ?_⟩
      · obtain ⟨intent, -, id, heq⟩ := forall₂_of_mem_left hall hsource
        exact translateIntent_isOk.mp ⟨_, heq⟩
      · rw [h] at hall
        exact hnil (List.forall₂_nil_right_iff.mp hall)
      · obtain ⟨source, -, id, heq⟩ := forall₂_of_mem_right hall hintent
        exact (of_translateIntent heq).1
      · rw [if_neg hnil]
        exact hall.imp fun _ _ ⟨_, heq⟩ => (of_translateIntent heq).2

end CloudLlm

end Dipecs.Agent
