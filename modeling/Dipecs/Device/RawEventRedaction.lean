import Dipecs.Device.RawEventDecoding
import Mathlib.Data.List.Nodup

/-! A redacted raw event decodes as the event without its private strings. -/

namespace Dipecs.Device.RawEventWire

open Dipecs.Spec Dipecs.Library EventStore

/-! ### Readers of values -/

section
variable {α : Type} {read : JsonValue → Option α}

def Stable (read : JsonValue → Option α) : Prop :=
  ∀ v x, v.Distinct → read v = some x → read (sanitizeItem v) = some x

theorem stable_of_scalar (harray : ∀ items, read (.array items) = none)
    (hobject : ∀ entries, read (.object entries) = none) : Stable read := by
  intro v x _ h
  cases v with
  | array items => rw [harray] at h; cases h
  | object entries => rw [hobject] at h; cases h
  | _ => exact h

theorem readString_stable : Stable readString := stable_of_scalar (fun _ => rfl) fun _ => rfl

theorem readBool_stable : Stable readBool := stable_of_scalar (fun _ => rfl) fun _ => rfl

theorem readI64_stable : Stable readI64 := stable_of_scalar (fun _ => rfl) fun _ => rfl

theorem readI32_stable : Stable readI32 := stable_of_scalar (fun _ => rfl) fun _ => rfl

theorem readU8_stable : Stable readU8 := stable_of_scalar (fun _ => rfl) fun _ => rfl

theorem readU32_stable : Stable readU32 := stable_of_scalar (fun _ => rfl) fun _ => rfl

theorem readU64_stable : Stable readU64 := stable_of_scalar (fun _ => rfl) fun _ => rfl

theorem readUsize_stable : Stable readUsize := stable_of_scalar (fun _ => rfl) fun _ => rfl

theorem readVariant_stable (variants : List (String × α)) : Stable (readVariant variants) :=
  stable_of_scalar (fun _ => rfl) fun _ => rfl

theorem mapM_sanitizeItem (hread : Stable read) {items : List JsonValue} (h : DistinctItems items)
    {xs : List α} (hxs : items.mapM read = some xs) :
    (items.map sanitizeItem).mapM read = some xs := by
  induction items generalizing xs with
  | nil => exact hxs
  | cons item rest ih =>
    rw [DistinctItems] at h
    simp only [List.mapM_cons, Option.bind_eq_bind, Option.bind_eq_some_iff] at hxs
    obtain ⟨x, hx, ys, hys, hpure⟩ := hxs
    rw [List.map_cons, List.mapM_cons, hread item x h.1 hx]
    simpa [ih h.2 hys] using hpure

theorem readList_stable (hread : Stable read) : Stable (readList read) := by
  intro v xs h hxs
  cases v with
  | array items =>
    rw [JsonValue.Distinct] at h
    rw [sanitizeItem, sanitizeArray_eq]
    exact mapM_sanitizeItem hread h hxs
  | _ => cases hxs

/-! ### Fields -/

variable {o : JSONObject} {name : String}

theorem opt_distinct (h : DistinctEntries o) {v : JsonValue}
    (hv : JSONObject.opt o name = some v) : v.Distinct := by
  obtain ⟨entry, hentry, rfl⟩ := Option.map_eq_some_iff.mp hv
  exact h.of_mem (List.mem_of_find?_eq_some hentry)

theorem opt_harmless (hname : isSensitive (kstr name) = false) :
    JSONObject.opt (o.map sanitizeEntry) name = (JSONObject.opt o name).map sanitizeItem := by
  simp [opt_map_sanitizeEntry, sanitizeEntry, hname]

theorem opt_sensitive (hname : isSensitive (kstr name) = true) :
    JSONObject.opt (o.map sanitizeEntry) name =
      (JSONObject.opt o name).map fun _ => blank (kstr name) := by
  simp [opt_map_sanitizeEntry, sanitizeEntry, hname]

theorem field_kept (hread : Stable read) (h : DistinctEntries o)
    (hname : isSensitive (kstr name) = false) (x : α) (hx : field o name read = some x) :
    field (o.map sanitizeEntry) name read = some x := by
  obtain ⟨v, hv, hvx⟩ := Option.bind_eq_some_iff.mp hx
  rw [field, opt_harmless hname, hv]
  exact hread v x (opt_distinct h hv) hvx

theorem optField_kept (hread : Stable read) (h : DistinctEntries o)
    (hname : isSensitive (kstr name) = false) (x : Option α) (hx : optField o name read = some x) :
    optField (o.map sanitizeEntry) name read = some x := by
  rw [optField] at hx ⊢
  rw [opt_harmless hname]
  cases hv : JSONObject.opt o name with
  | none =>
    rw [hv] at hx
    exact hx
  | some v =>
    rw [hv] at hx
    have hstable := hread v
    cases v with
    | null => exact hx
    | _ =>
      obtain ⟨y, hy, rfl⟩ := Option.map_eq_some_iff.mp hx
      exact congrArg (Option.map some) (hstable y (opt_distinct h hv) hy)

theorem listField_kept (hread : Stable read) (h : DistinctEntries o)
    (hname : isSensitive (kstr name) = false) (xs : List α)
    (hxs : listField o name read = some xs) :
    listField (o.map sanitizeEntry) name read = some xs := by
  rw [listField] at hxs ⊢
  rw [opt_harmless hname]
  cases hv : JSONObject.opt o name with
  | none =>
    rw [hv] at hxs
    exact hxs
  | some v =>
    rw [hv] at hxs
    exact readList_stable hread v xs (opt_distinct h hv) hxs

end

theorem field_blanked {o : JSONObject} {name : String} (hname : isSensitive (kstr name) = true)
    (hblank : blank (kstr name) = .string []) {s : String}
    (hs : field o name readString = some s) :
    field (o.map sanitizeEntry) name readString = some "" := by
  obtain ⟨v, hv, -⟩ := Option.bind_eq_some_iff.mp hs
  rw [field, opt_sensitive hname, hv, Option.map_some, hblank]
  rfl

theorem optField_blanked {α : Type} {read : JsonValue → Option α} {o : JSONObject} {name : String}
    (hname : isSensitive (kstr name) = true) (hblank : blank (kstr name) = .null) :
    optField (o.map sanitizeEntry) name read = some none := by
  rw [optField, opt_sensitive hname]
  cases JSONObject.opt o name with
  | none => rfl
  | some v => rw [Option.map_some, hblank]

/-! ### Events -/

theorem isIn_kstr (keys : List String) (name : String) :
    isIn keys (kstr name) = keys.contains name := by
  rw [isIn, List.contains_eq_any_beq]
  refine List.any_congr rfl fun key => ?_
  rw [Bool.eq_iff_iff, beq_iff_eq, beq_iff_eq]
  exact ⟨fun h => kstr_injective h, congrArg kstr⟩

theorem harmless : ∀ name ∈ ["timestamp_ms", "package_name", "activity_class", "transition",
    "source_pid", "source_uid", "target_service", "target_method", "is_oneway", "payload_size",
    "pid", "uid", "vm_rss_kb", "vm_swap_kb", "threads", "oom_score", "io_read_mb", "io_write_mb",
    "state", "file_path", "access_type", "bytes_transferred", "category", "channel_id",
    "title_hint", "text_hint", "semantic_hints", "is_ongoing", "has_picture", "length_chars",
    "script", "is_emoji_only", "action", "battery_pct", "is_charging", "network", "ringer_mode",
    "location_type", "headphone_connected", "bluetooth_connected", "AppTransition",
    "BinderTransaction", "ProcStateChange", "FileSystemAccess", "NotificationPosted",
    "NotificationInteraction", "ScreenState", "SystemState"],
    isSensitive (kstr name) = false := by
  simp only [isSensitive, isIn_kstr]
  decide +kernel

theorem blanked_names : ∀ name ∈ sensitiveStringKeys,
    isSensitive (kstr name) = true ∧ isIn sensitiveNullKeys (kstr name) = false := by
  decide +kernel

theorem blank_string {name : String} (h : name ∈ sensitiveStringKeys) :
    blank (kstr name) = .string [] :=
  if_neg (by simp [(blanked_names name h).2])

theorem groupKey_sensitive : isSensitive (kstr "group_key") = true := by decide +kernel

theorem blank_groupKey : blank (kstr "group_key") = .null := if_pos (by decide +kernel)

/-! One field after the other. -/

section
variable {α β : Type} {o : JSONObject} {name : String} {y y' : β}

theorem bind_preserves {p p' : Option α} {k k' : α → Option β} {f : α → α}
    (hp : ∀ x, p = some x → p' = some (f x)) (hk : ∀ x, k x = some y → k' (f x) = some y')
    (h : p.bind k = some y) : p'.bind k' = some y' := by
  obtain ⟨x, hx, hkx⟩ := Option.bind_eq_some_iff.mp h
  rw [hp x hx]
  exact hk x hkx

theorem kept_bind {p p' : Option α} {k k' : α → Option β}
    (hp : ∀ x, p = some x → p' = some x) (hk : ∀ x, k x = some y → k' x = some y')
    (h : p.bind k = some y) : p'.bind k' = some y' :=
  bind_preserves (f := id) hp hk h

variable {read : JsonValue → Option α}

theorem blanked_bind (hname : name ∈ sensitiveStringKeys) {k k' : String → Option β}
    (hk : ∀ x, k x = some y → k' "" = some y') (hy : (field o name readString).bind k = some y) :
    (field (o.map sanitizeEntry) name readString).bind k' = some y' := by
  exact bind_preserves (f := fun _ => "")
    (fun _ => field_blanked (blanked_names name hname).1 (blank_string hname)) hk hy

theorem groupKey_bind {k k' : Option α → Option β} (hk : ∀ x, k x = some y → k' none = some y')
    (hy : (optField o "group_key" read).bind k = some y) :
    (optField (o.map sanitizeEntry) "group_key" read).bind k' = some y' := by
  exact bind_preserves (f := fun _ => none)
    (fun _ _ => optField_blanked groupKey_sensitive blank_groupKey) hk hy

end

theorem readTextHint_stable : Stable readTextHint := by
  intro v x h hx
  cases v with
  | object o =>
    rw [JsonValue.Distinct] at h
    rw [sanitizeItem_object h.1]
    refine kept_bind (field_kept readUsize_stable h.2 (harmless _ (by simp))) (fun _ => ?_) hx
    refine kept_bind (field_kept (readVariant_stable _) h.2 (harmless _ (by simp))) (fun _ => ?_)
    exact kept_bind (field_kept readBool_stable h.2 (harmless _ (by simp))) (fun _ hx => hx)
  | _ => cases hx

theorem readAppTransition_kept {o : JSONObject} (h : DistinctEntries o) {e : RawEvent}
    (he : readAppTransition o = some e) :
    readAppTransition (o.map sanitizeEntry) = some (blankPrivate e) := by
  refine kept_bind (field_kept readI64_stable h (harmless _ (by simp))) (fun _ => ?_) he
  refine kept_bind (field_kept readString_stable h (harmless _ (by simp))) (fun _ => ?_)
  refine kept_bind (optField_kept readString_stable h (harmless _ (by simp))) (fun _ => ?_)
  refine kept_bind (field_kept (readVariant_stable _) h (harmless _ (by simp))) (fun _ => ?_)
  intro he
  cases he
  rfl

theorem readBinderTransaction_kept {o : JSONObject} (h : DistinctEntries o) {e : RawEvent}
    (he : readBinderTransaction o = some e) :
    readBinderTransaction (o.map sanitizeEntry) = some (blankPrivate e) := by
  refine kept_bind (field_kept readI64_stable h (harmless _ (by simp))) (fun _ => ?_) he
  refine kept_bind (field_kept readU32_stable h (harmless _ (by simp))) (fun _ => ?_)
  refine kept_bind (field_kept readU32_stable h (harmless _ (by simp))) (fun _ => ?_)
  refine kept_bind (field_kept readString_stable h (harmless _ (by simp))) (fun _ => ?_)
  refine kept_bind (field_kept readString_stable h (harmless _ (by simp))) (fun _ => ?_)
  refine kept_bind (field_kept readBool_stable h (harmless _ (by simp))) (fun _ => ?_)
  refine kept_bind (field_kept readU32_stable h (harmless _ (by simp))) (fun _ => ?_)
  intro he
  cases he
  rfl

theorem readProcStateChange_kept {o : JSONObject} (h : DistinctEntries o) {e : RawEvent}
    (he : readProcStateChange o = some e) :
    readProcStateChange (o.map sanitizeEntry) = some (blankPrivate e) := by
  refine kept_bind (field_kept readI64_stable h (harmless _ (by simp))) (fun _ => ?_) he
  refine kept_bind (field_kept readU32_stable h (harmless _ (by simp))) (fun _ => ?_)
  refine kept_bind (field_kept readU32_stable h (harmless _ (by simp))) (fun _ => ?_)
  refine kept_bind (optField_kept readString_stable h (harmless _ (by simp))) (fun _ => ?_)
  refine kept_bind (field_kept readU64_stable h (harmless _ (by simp))) (fun _ => ?_)
  refine kept_bind (field_kept readU64_stable h (harmless _ (by simp))) (fun _ => ?_)
  refine kept_bind (field_kept readU32_stable h (harmless _ (by simp))) (fun _ => ?_)
  refine kept_bind (field_kept readI32_stable h (harmless _ (by simp))) (fun _ => ?_)
  refine kept_bind (field_kept readU64_stable h (harmless _ (by simp))) (fun _ => ?_)
  refine kept_bind (field_kept readU64_stable h (harmless _ (by simp))) (fun _ => ?_)
  refine kept_bind (field_kept (readVariant_stable _) h (harmless _ (by simp))) (fun _ => ?_)
  intro he
  cases he
  rfl

theorem readFileSystemAccess_kept {o : JSONObject} (h : DistinctEntries o) {e : RawEvent}
    (he : readFileSystemAccess o = some e) :
    readFileSystemAccess (o.map sanitizeEntry) = some (blankPrivate e) := by
  refine kept_bind (field_kept readI64_stable h (harmless _ (by simp))) (fun _ => ?_) he
  refine kept_bind (field_kept readU32_stable h (harmless _ (by simp))) (fun _ => ?_)
  refine kept_bind (field_kept readU32_stable h (harmless _ (by simp))) (fun _ => ?_)
  refine kept_bind (field_kept readString_stable h (harmless _ (by simp))) (fun _ => ?_)
  refine kept_bind (field_kept (readVariant_stable _) h (harmless _ (by simp))) (fun _ => ?_)
  refine kept_bind (optField_kept readU64_stable h (harmless _ (by simp))) (fun _ => ?_)
  intro he
  cases he
  rfl

theorem readNotificationPosted_kept {o : JSONObject} (h : DistinctEntries o) {e : RawEvent}
    (he : readNotificationPosted o = some e) :
    readNotificationPosted (o.map sanitizeEntry) = some (blankPrivate e) := by
  refine kept_bind (field_kept readI64_stable h (harmless _ (by simp))) (fun _ => ?_) he
  refine kept_bind (field_kept readString_stable h (harmless _ (by simp))) (fun _ => ?_)
  refine kept_bind (optField_kept readString_stable h (harmless _ (by simp))) (fun _ => ?_)
  refine kept_bind (optField_kept readString_stable h (harmless _ (by simp))) (fun _ => ?_)
  refine blanked_bind (by simp [sensitiveStringKeys]) (fun _ => ?_)
  refine blanked_bind (by simp [sensitiveStringKeys]) (fun _ => ?_)
  refine kept_bind (optField_kept readTextHint_stable h (harmless _ (by simp))) (fun _ => ?_)
  refine kept_bind (optField_kept readTextHint_stable h (harmless _ (by simp))) (fun _ => ?_)
  refine kept_bind (listField_kept (readVariant_stable _) h (harmless _ (by simp))) (fun _ => ?_)
  refine kept_bind (field_kept readBool_stable h (harmless _ (by simp))) (fun _ => ?_)
  refine groupKey_bind (fun _ => ?_)
  refine kept_bind (field_kept readBool_stable h (harmless _ (by simp))) (fun _ => ?_)
  intro he
  cases he
  rfl

theorem readNotificationInteraction_kept {o : JSONObject} (h : DistinctEntries o) {e : RawEvent}
    (he : readNotificationInteraction o = some e) :
    readNotificationInteraction (o.map sanitizeEntry) = some (blankPrivate e) := by
  refine kept_bind (field_kept readI64_stable h (harmless _ (by simp))) (fun _ => ?_) he
  refine kept_bind (field_kept readString_stable h (harmless _ (by simp))) (fun _ => ?_)
  refine blanked_bind (by simp [sensitiveStringKeys]) (fun _ => ?_)
  refine kept_bind (field_kept (readVariant_stable _) h (harmless _ (by simp))) (fun _ => ?_)
  intro he
  cases he
  rfl

theorem readScreenStateEvent_kept {o : JSONObject} (h : DistinctEntries o) {e : RawEvent}
    (he : readScreenStateEvent o = some e) :
    readScreenStateEvent (o.map sanitizeEntry) = some (blankPrivate e) := by
  refine kept_bind (field_kept readI64_stable h (harmless _ (by simp))) (fun _ => ?_) he
  refine kept_bind (field_kept (readVariant_stable _) h (harmless _ (by simp))) (fun _ => ?_)
  intro he
  cases he
  rfl

theorem readSystemState_kept {o : JSONObject} (h : DistinctEntries o) {e : RawEvent}
    (he : readSystemState o = some e) :
    readSystemState (o.map sanitizeEntry) = some (blankPrivate e) := by
  refine kept_bind (field_kept readI64_stable h (harmless _ (by simp))) (fun _ => ?_) he
  refine kept_bind (optField_kept readU8_stable h (harmless _ (by simp))) (fun _ => ?_)
  refine kept_bind (field_kept readBool_stable h (harmless _ (by simp))) (fun _ => ?_)
  refine kept_bind (field_kept (readVariant_stable _) h (harmless _ (by simp))) (fun _ => ?_)
  refine kept_bind (field_kept (readVariant_stable _) h (harmless _ (by simp))) (fun _ => ?_)
  refine kept_bind (field_kept (readVariant_stable _) h (harmless _ (by simp))) (fun _ => ?_)
  refine kept_bind (field_kept readBool_stable h (harmless _ (by simp))) (fun _ => ?_)
  refine kept_bind (field_kept readBool_stable h (harmless _ (by simp))) (fun _ => ?_)
  intro he
  cases he
  rfl

theorem readers_kept {payload : JSONObject} (h : DistinctEntries payload) {e : RawEvent} :
    ∀ r ∈ readers, r.2 payload = some e →
      r.2 (payload.map sanitizeEntry) = some (blankPrivate e) := by
  simp only [readers, List.forall_mem_cons]
  exact ⟨readAppTransition_kept h, readBinderTransaction_kept h, readProcStateChange_kept h,
    readFileSystemAccess_kept h, readNotificationPosted_kept h, readNotificationInteraction_kept h,
    readScreenStateEvent_kept h, readSystemState_kept h,
    List.forall_mem_nil _⟩

theorem tags_harmless : ∀ tag ∈ readers.map Prod.fst, isSensitive (kstr tag) = false := by
  simp only [isSensitive, isIn_kstr]
  decide +kernel

theorem tag_harmless {tag : KString} (h : replaced tag ∈ readers.map Prod.fst) :
    isSensitive tag = false := by
  by_contra hsensitive
  rw [Bool.not_eq_false] at hsensitive
  have hname : ∃ name, tag = kstr name := by
    rcases Bool.or_eq_true_iff.mp hsensitive with hin | hin <;>
      exact (List.any_eq_true.mp hin).imp fun name hname => eq_of_beq hname.2
  obtain ⟨name, rfl⟩ := hname
  rw [replaced_kstr] at h
  rw [tags_harmless name h] at hsensitive
  cases hsensitive

/-- Whatever decodes still does, as the event without its private strings. -/
theorem readRawEvent_sanitizeForTrace {o : JSONObject} (h : (JsonValue.object o).Distinct)
    {e : RawEvent} (he : readRawEvent o = some e) :
    readRawEvent (sanitizeForTrace o) = some (blankPrivate e) := by
  unfold readRawEvent at he
  split at he
  · rename_i tag payload
    obtain ⟨read, hread, he⟩ := Option.bind_eq_some_iff.mp he
    obtain ⟨before, after, hreaders, -⟩ := List.lookup_eq_some_iff.mp hread
    have hmem : (replaced tag, read) ∈ readers := by simp [hreaders]
    have htag : isSensitive tag = false := tag_harmless (List.mem_map_of_mem hmem)
    simp only [JsonValue.Distinct, DistinctEntries] at h
    obtain ⟨htags, ⟨hnames, hpayload⟩, -⟩ := h
    have hsanitized : sanitizeForTrace [(tag, .object payload)] =
        [(tag, .object (payload.map sanitizeEntry))] := by
      rw [sanitizeForTrace_eq htags]
      simp [sanitizeEntry, htag, sanitizeItem_object hnames]
    rw [hsanitized, readRawEvent, hread]
    exact readers_kept hpayload _ hmem he
  · cases he

/-! ### What the mapper builds -/

open AndroidRawEventMapper

structure Fixed (v : JsonValue) : Prop where
  kept : sanitizeItem v = v
  distinct : v.Distinct

def Clean (entry : KString × JsonValue) : Prop :=
  sanitizeEntry entry = entry ∧ entry.2.Distinct

theorem clean_harmless {name : String} {v : JsonValue} (hname : isSensitive (kstr name) = false)
    (hv : Fixed v) : Clean (kstr name, v) :=
  ⟨by simp [sanitizeEntry, hname, hv.kept], hv.distinct⟩

theorem clean_blanked {name : String} (h : name ∈ sensitiveStringKeys) :
    Clean (kstr name, .string []) :=
  ⟨by simp [sanitizeEntry, (blanked_names name h).1, blank_string h], trivial⟩

theorem clean_groupKey : Clean (kstr "group_key", .null) :=
  ⟨by simp [sanitizeEntry, groupKey_sensitive, blank_groupKey], trivial⟩

theorem fixed_long (n : I64) : Fixed (.long n) := ⟨rfl, trivial⟩

theorem fixed_bool (b : Bool) : Fixed (.bool b) := ⟨rfl, trivial⟩

theorem fixed_string (s : KString) : Fixed (.string s) := ⟨rfl, trivial⟩

theorem fixed_stringOrNull (s : Option KString) : Fixed (stringOrNull s) := by
  cases s <;> exact ⟨rfl, trivial⟩

theorem distinctItems_of_forall {items : List JsonValue} (h : ∀ item ∈ items, item.Distinct) :
    DistinctItems items := by
  induction items with
  | nil => trivial
  | cons item rest ih =>
    rw [List.forall_mem_cons] at h
    exact ⟨h.1, ih h.2⟩

theorem distinctEntries_of_forall {entries : List (KString × JsonValue)}
    (h : ∀ entry ∈ entries, entry.2.Distinct) : DistinctEntries entries := by
  induction entries with
  | nil => trivial
  | cons entry rest ih =>
    rw [List.forall_mem_cons] at h
    exact ⟨h.1, ih h.2⟩

theorem nodup_keys (names : List String) {o : JSONObject}
    (hkeys : o.map Prod.fst = names.map kstr) (hnames : names.Nodup) : (o.map Prod.fst).Nodup :=
  hkeys ▸ List.Nodup.map kstr_injective hnames

theorem fixed_object {o : JSONObject} (names : List String)
    (hkeys : o.map Prod.fst = names.map kstr) (hnames : names.Nodup)
    (hclean : ∀ entry ∈ o, Clean entry) : Fixed (.object o) where
  kept := by
    rw [sanitizeItem_object (nodup_keys names hkeys hnames)]
    exact congrArg _
      ((List.map_congr_left fun entry h => (hclean entry h).1).trans (List.map_id' o))
  distinct :=
    ⟨nodup_keys names hkeys hnames, distinctEntries_of_forall fun entry h => (hclean entry h).2⟩

theorem fixed_textHint (h : TextHintJson) : Fixed h.toJson := by
  refine fixed_object ["length_chars", "script", "is_emoji_only"] rfl (by decide) ?_
  simp only [List.forall_mem_cons]
  exact ⟨clean_harmless (harmless _ (by simp)) (fixed_long _),
    clean_harmless (harmless _ (by simp)) (fixed_string _),
    clean_harmless (harmless _ (by simp)) (fixed_bool _), nofun⟩

theorem fixed_strings (names : List String) :
    Fixed (.array (names.map fun name => .string (kstr name))) where
  kept := by
    rw [sanitizeItem, sanitizeArray_eq, List.map_map]
    rfl
  distinct := distinctItems_of_forall fun item h => by
    obtain ⟨name, -, rfl⟩ := List.mem_map.mp h
    trivial

theorem fixed_tagged {kind : String} {payload : JSONObject}
    (hkind : isSensitive (kstr kind) = false) (h : Fixed (.object payload)) :
    Fixed (.object (tagged kind payload)) := by
  refine fixed_object [kind] rfl (by simp) ?_
  rw [tagged, List.forall_mem_singleton]
  exact clean_harmless hkind h

theorem fixed_percent (percent : Option Int32) :
    Fixed (match percent with
      | some percent => .long (I64.wrap percent.toInt)
      | none => .null) := by
  cases percent with
  | none => exact ⟨rfl, trivial⟩
  | some percent => exact ⟨rfl, trivial⟩

theorem fixed_built {lowercase : KString → KString} {o : JSONObject} (h : Built lowercase o) :
    Fixed (.object o) := by
  cases h with
  | appTransition timestampMs packageName activityClass transition =>
    refine fixed_tagged (harmless _ (by simp)) (fixed_object
      ["timestamp_ms", "package_name", "activity_class", "transition"] rfl (by decide) ?_)
    simp only [List.forall_mem_cons]
    exact ⟨clean_harmless (harmless _ (by simp)) (fixed_long _),
      clean_harmless (harmless _ (by simp)) (fixed_string _),
      clean_harmless (harmless _ (by simp)) (fixed_stringOrNull _),
      clean_harmless (harmless _ (by simp)) (fixed_string _), nofun⟩
  | notificationPosted timestampMs packageName category channelId title textItems isOngoing
      hasPicture =>
    refine fixed_tagged (harmless _ (by simp)) (fixed_object
      ["timestamp_ms", "package_name", "category", "channel_id", "raw_title", "raw_text",
        "title_hint", "text_hint", "semantic_hints", "is_ongoing", "group_key", "has_picture"]
      rfl (by decide) ?_)
    simp only [NotificationPosted.toJson, List.forall_mem_cons]
    exact ⟨clean_harmless (harmless _ (by simp)) (fixed_long _),
      clean_harmless (harmless _ (by simp)) (fixed_string _),
      clean_harmless (harmless _ (by simp)) (fixed_stringOrNull _),
      clean_harmless (harmless _ (by simp)) (fixed_stringOrNull _),
      clean_blanked (by simp [sensitiveStringKeys]), clean_blanked (by simp [sensitiveStringKeys]),
      clean_harmless (harmless _ (by simp)) (fixed_textHint _),
      clean_harmless (harmless _ (by simp)) (fixed_textHint _),
      clean_harmless (harmless _ (by simp)) (fixed_strings _),
      clean_harmless (harmless _ (by simp)) (fixed_bool _), clean_groupKey,
      clean_harmless (harmless _ (by simp)) (fixed_bool _), nofun⟩
  | notificationInteraction timestampMs packageName action =>
    refine fixed_tagged (harmless _ (by simp)) (fixed_object
      ["timestamp_ms", "package_name", "notification_key", "action"] rfl (by decide) ?_)
    simp only [List.forall_mem_cons]
    exact ⟨clean_harmless (harmless _ (by simp)) (fixed_long _),
      clean_harmless (harmless _ (by simp)) (fixed_string _),
      clean_blanked (by simp [sensitiveStringKeys]),
      clean_harmless (harmless _ (by simp)) (fixed_string _), nofun⟩
  | screenState timestampMs state =>
    refine fixed_tagged (harmless _ (by simp)) (fixed_object ["timestamp_ms", "state"] rfl
      (by decide) ?_)
    simp only [List.forall_mem_cons]
    exact ⟨clean_harmless (harmless _ (by simp)) (fixed_long _),
      clean_harmless (harmless _ (by simp)) (fixed_string _), nofun⟩
  | systemState timestampMs context =>
    refine fixed_tagged (harmless _ (by simp)) (fixed_object
      ["timestamp_ms", "battery_pct", "is_charging", "network", "ringer_mode", "location_type",
        "headphone_connected", "bluetooth_connected"] rfl (by decide) ?_)
    simp only [List.forall_mem_cons]
    exact ⟨clean_harmless (harmless _ (by simp)) (fixed_long _),
      clean_harmless (harmless _ (by simp)) (fixed_percent _),
      clean_harmless (harmless _ (by simp)) (fixed_bool _),
      clean_harmless (harmless _ (by simp)) (fixed_string _),
      clean_harmless (harmless _ (by simp)) (fixed_string _),
      clean_harmless (harmless _ (by simp)) (fixed_string _),
      clean_harmless (harmless _ (by simp)) (fixed_bool _),
      clean_harmless (harmless _ (by simp)) (fixed_bool _), nofun⟩

theorem readRawEvent_built {lowercase : KString → KString} {o : JSONObject}
    (h : Built lowercase o) :
    readRawEvent (sanitizeForTrace o) = (readRawEvent o).map blankPrivate := by
  have hfixed := fixed_built h
  cases he : readRawEvent o with
  | some e => exact readRawEvent_sanitizeForTrace hfixed.distinct he
  | none =>
    have hkept := hfixed.kept
    rw [sanitizeItem, JsonValue.object.injEq] at hkept
    rw [sanitizeForTrace, hkept, he]
    rfl

/-- Redaction blanks the sensitive keys at every depth and nothing else, once and for all,
and costs a raw event only its private strings. -/
theorem sanitizeForTrace_exact (lowercase : KString → KString) :
    (∀ o : JSONObject, (JsonValue.object o).Distinct →
      Redacted (.object o) (.object (sanitizeForTrace o)) ∧
        sanitizeForTrace (sanitizeForTrace o) = sanitizeForTrace o) ∧
    (∀ o : JSONObject, Built lowercase o →
      readRawEvent (sanitizeForTrace o) = (readRawEvent o).map blankPrivate) ∧
    ∀ o : JSONObject, Collected lowercase o →
      ∃ e, readRawEvent o = some e ∧ readRawEvent (sanitizeForTrace o) = some (blankPrivate e) := by
  refine ⟨fun _ h => ⟨redacted_sanitizeItem h, sanitizeForTrace_idem h⟩,
    fun _ h => readRawEvent_built h, fun o h => ?_⟩
  obtain ⟨e, he⟩ := readRawEvent_collected h
  exact ⟨e, he, by rw [readRawEvent_built h.built, he, Option.map_some]⟩

def nestedRow : JSONObject :=
  [(kstr "items", .array [.array [.object [(kstr "text", .string (kstr "hi"))]], .bool true])]

def postedRow : JSONObject :=
  tagged "NotificationPosted" (notificationPosted id 5 (kstr "com.chat") (some (kstr "msg")) none
    (some (kstr "Ann")) [kstr "the meeting"] false true).toJson

theorem sanitizeForTrace_exact_sample :
    Redacted (.object nestedRow) (.object (sanitizeForTrace nestedRow)) ∧
      readRawEvent (sanitizeForTrace postedRow) = (readRawEvent postedRow).map blankPrivate ∧
      (∃ e, readRawEvent postedRow = some e ∧
        readRawEvent (sanitizeForTrace postedRow) = some (blankPrivate e)) ∧
      readRawEvent postedRow = some (.notificationPosted ⟨5, "com.chat", some "msg", none, "", "",
        some ⟨3, .latin, false⟩, some ⟨11, .latin, false⟩, [.imageMention, .calendarInvitation],
        false, none, true⟩) := by
  obtain ⟨hredacts, hbuilt, hdecodes⟩ := sanitizeForTrace_exact id
  have hcollected : Collected id postedRow :=
    .notificationPosted ⟨5, by decide⟩ _ _ _ _ _ _ _ (by decide) (by decide)
  refine ⟨(hredacts nestedRow ?_).1, hbuilt _ hcollected.built, hdecodes _ hcollected, ?_⟩
  · simp [nestedRow, JsonValue.Distinct, DistinctItems, DistinctEntries]
  · decide +kernel

end Dipecs.Device.RawEventWire
