import Dipecs.Device.OrgJson

/-! The redaction of trace rows: an object is copied entry by entry, and what stands under a
sensitive key is blanked at every depth. -/

namespace Dipecs.Device

open Dipecs.Library

namespace JSONObject

def put (o : JSONObject) (name : KString) (value : JsonValue) : JSONObject :=
  if o.any fun entry => entry.1 == name then
    o.map fun entry => if entry.1 == name then (name, value) else entry
  else o ++ [(name, value)]

theorem put_of_not_mem {o : JSONObject} {name : KString} (h : name ∉ o.map Prod.fst)
    (value : JsonValue) : put o name value = o ++ [(name, value)] := by
  rw [put, if_neg]
  intro hany
  obtain ⟨entry, hentry, hname⟩ := List.any_eq_true.mp hany
  exact h (List.mem_map.mpr ⟨entry, hentry, by simpa using hname⟩)

end JSONObject

/-! ### Well-formed values -/

mutual

def JsonValue.Distinct : JsonValue → Prop
  | .array items => DistinctItems items
  | .object entries => (entries.map Prod.fst).Nodup ∧ DistinctEntries entries
  | _ => True

def DistinctItems : List JsonValue → Prop
  | [] => True
  | item :: rest => item.Distinct ∧ DistinctItems rest

def DistinctEntries : List (KString × JsonValue) → Prop
  | [] => True
  | (_, value) :: rest => value.Distinct ∧ DistinctEntries rest

end

theorem DistinctItems.of_mem {items : List JsonValue} (h : DistinctItems items) {item : JsonValue}
    (hmem : item ∈ items) : item.Distinct := by
  induction items with
  | nil => cases hmem
  | cons x rest ih =>
    rw [DistinctItems] at h
    rcases List.mem_cons.mp hmem with rfl | hmem
    · exact h.1
    · exact ih h.2 hmem

theorem DistinctEntries.of_mem {entries : List (KString × JsonValue)} (h : DistinctEntries entries)
    {entry : KString × JsonValue} (hmem : entry ∈ entries) : entry.2.Distinct := by
  induction entries with
  | nil => cases hmem
  | cons x rest ih =>
    rw [DistinctEntries] at h
    rcases List.mem_cons.mp hmem with rfl | hmem
    · exact h.1
    · exact ih h.2 hmem

namespace EventStore

def sensitiveNullKeys : List String :=
  ["group_key", "key", "tag", "payload", "responseBody", "sourceText", "sourceContentDescription",
    "textItems", "windowTitle", "text", "target", "cachePath"]

def sensitiveStringKeys : List String := ["raw_title", "raw_text", "notification_key"]

def isIn (keys : List String) (key : KString) : Bool := keys.any fun name => key == kstr name

mutual

def sanitizeObject (sanitized : JSONObject) : List (KString × JsonValue) → JSONObject
  | [] => sanitized
  | (key, original) :: rest =>
    sanitizeObject (JSONObject.put sanitized key
      (if isIn sensitiveNullKeys key then .null
      else if isIn sensitiveStringKeys key then .string []
      else sanitizeItem original)) rest

def sanitizeArray : List JsonValue → List JsonValue
  | [] => []
  | item :: rest => sanitizeItem item :: sanitizeArray rest

def sanitizeItem : JsonValue → JsonValue
  | .object entries => .object (sanitizeObject [] entries)
  | .array items => .array (sanitizeArray items)
  | item => item

end

def sanitizeForTrace (value : JSONObject) : JSONObject := sanitizeObject [] value

/-! ### Entry by entry -/

def isSensitive (key : KString) : Bool :=
  isIn sensitiveNullKeys key || isIn sensitiveStringKeys key

def blank (key : KString) : JsonValue :=
  if isIn sensitiveNullKeys key then .null else .string []

def sanitizeEntry (entry : KString × JsonValue) : KString × JsonValue :=
  (entry.1, if isSensitive entry.1 then blank entry.1 else sanitizeItem entry.2)

theorem sanitizeEntry_eq (key : KString) (original : JsonValue) :
    sanitizeEntry (key, original) = (key,
      if isIn sensitiveNullKeys key then .null
      else if isIn sensitiveStringKeys key then .string []
      else sanitizeItem original) := by
  by_cases h : isIn sensitiveNullKeys key = true <;> simp [sanitizeEntry, isSensitive, blank, h]

@[simp] theorem map_fst_sanitizeEntry (entries : List (KString × JsonValue)) :
    (entries.map sanitizeEntry).map Prod.fst = entries.map Prod.fst := by
  rw [List.map_map]
  rfl

@[simp] theorem sanitizeArray_eq (items : List JsonValue) :
    sanitizeArray items = items.map sanitizeItem := by
  induction items with
  | nil => rfl
  | cons item rest ih => rw [sanitizeArray, ih, List.map_cons]

theorem sanitizeObject_eq {sanitized entries : JSONObject}
    (h : ((sanitized ++ entries).map Prod.fst).Nodup) :
    sanitizeObject sanitized entries = sanitized ++ entries.map sanitizeEntry := by
  induction entries generalizing sanitized with
  | nil => rw [sanitizeObject, List.map_nil, List.append_nil]
  | cons entry rest ih =>
    obtain ⟨key, original⟩ := entry
    have hfresh : key ∉ sanitized.map Prod.fst := by
      rw [List.map_append, List.nodup_append] at h
      exact fun hmem => h.2.2 _ hmem _ List.mem_cons_self rfl
    rw [sanitizeObject, JSONObject.put_of_not_mem hfresh, ih, List.map_cons, sanitizeEntry_eq,
      List.append_assoc, List.singleton_append]
    simpa using h

theorem sanitizeForTrace_eq {o : JSONObject} (h : (o.map Prod.fst).Nodup) :
    sanitizeForTrace o = o.map sanitizeEntry :=
  sanitizeObject_eq (by simpa using h)

theorem sanitizeItem_object {o : JSONObject} (h : (o.map Prod.fst).Nodup) :
    sanitizeItem (.object o) = .object (o.map sanitizeEntry) := by
  rw [sanitizeItem, sanitizeObject_eq (by simpa using h), List.nil_append]

theorem find_map_sanitizeEntry (o : JSONObject) (name : KString) :
    ((o.map sanitizeEntry).find? fun entry => entry.1 == name).map Prod.snd =
      ((o.find? fun entry => entry.1 == name).map Prod.snd).map fun value =>
        (sanitizeEntry (name, value)).2 := by
  rw [List.find?_map]
  change ((o.find? fun entry => entry.1 == name).map sanitizeEntry).map Prod.snd = _
  cases hfind : o.find? fun entry => entry.1 == name with
  | none => rfl
  | some entry =>
    have hname : entry.1 = name := by simpa using List.find?_some hfind
    subst name
    rfl

theorem opt_map_sanitizeEntry (o : JSONObject) (name : String) :
    JSONObject.opt (o.map sanitizeEntry) name =
      (JSONObject.opt o name).map fun value => (sanitizeEntry (kstr name, value)).2 :=
  find_map_sanitizeEntry o (kstr name)

/-! ### Path by path -/

end EventStore

inductive Step
  | key (name : KString)
  | index (i : Nat)
  deriving DecidableEq

inductive Shape
  | scalar (value : JsonValue)
  | array (length : Nat)
  | object (keys : List KString)

namespace JsonValue

def child : JsonValue → Step → Option JsonValue
  | .object entries, .key name => (entries.find? fun entry => entry.1 == name).map Prod.snd
  | .array items, .index i => items[i]?
  | _, _ => none

def descend (v : JsonValue) : List Step → Option JsonValue
  | [] => some v
  | step :: path => (v.child step).bind fun c => c.descend path

def shape : JsonValue → Shape
  | .array items => .array items.length
  | .object entries => .object (entries.map Prod.fst)
  | v => .scalar v

theorem Distinct.child {v c : JsonValue} {step : Step} (h : v.Distinct)
    (hc : v.child step = some c) : c.Distinct := by
  cases v with
  | array items =>
    cases step with
    | key name => cases hc
    | index i =>
      rw [Distinct] at h
      exact h.of_mem (List.mem_of_getElem? hc)
  | object entries =>
    cases step with
    | index i => cases hc
    | key name =>
      rw [Distinct] at h
      obtain ⟨entry, hentry, rfl⟩ := Option.map_eq_some_iff.mp hc
      exact h.2.of_mem (List.mem_of_find?_eq_some hentry)
  | _ => cases step <;> cases hc

theorem Distinct.descend {v c : JsonValue} {path : List Step} (h : v.Distinct)
    (hc : v.descend path = some c) : c.Distinct := by
  induction path generalizing v with
  | nil =>
    cases hc
    exact h
  | cons step path ih =>
    obtain ⟨d, hd, hc⟩ := Option.bind_eq_some_iff.mp hc
    exact ih (h.child hd) hc

end JsonValue

namespace EventStore
open JsonValue

def Step.isSensitive : Step → Bool
  | .key name => EventStore.isSensitive name
  | .index _ => false

theorem shape_sanitizeItem {v : JsonValue} (h : v.Distinct) :
    (sanitizeItem v).shape = v.shape := by
  cases v with
  | array items => simp [sanitizeItem, shape]
  | object entries =>
    rw [Distinct] at h
    rw [sanitizeItem_object h.1, shape, map_fst_sanitizeEntry]
    rfl
  | _ => rfl

theorem child_sanitizeItem {v : JsonValue} (h : v.Distinct) (step : Step) :
    (sanitizeItem v).child step =
      (v.child step).map fun c =>
        match step with
        | .key name => if isSensitive name then blank name else sanitizeItem c
        | .index _ => sanitizeItem c := by
  cases v with
  | array items =>
    cases step with
    | key name => rfl
    | index i => simp [sanitizeItem, JsonValue.child]
  | object entries =>
    cases step with
    | index i => rfl
    | key name =>
      rw [Distinct] at h
      rw [sanitizeItem_object h.1]
      exact find_map_sanitizeEntry entries name
  | _ => cases step <;> rfl

theorem descend_sanitizeItem {v : JsonValue} (h : v.Distinct) {path : List Step}
    (hpath : path.any Step.isSensitive = false) :
    (sanitizeItem v).descend path = (v.descend path).map sanitizeItem := by
  induction path generalizing v with
  | nil => rfl
  | cons step path ih =>
    rw [List.any_cons, Bool.or_eq_false_iff] at hpath
    rw [descend, descend, child_sanitizeItem h]
    cases hchild : v.child step with
    | none => rfl
    | some c =>
      have hc := ih (h.child hchild) hpath.2
      cases step with
      | index i => exact hc
      | key name =>
        have hname : isSensitive name = false := hpath.1
        simp only [Option.map_some, Option.bind_some, hname]
        exact hc

theorem child_blank (key : KString) (step : Step) : (blank key).child step = none := by
  rw [blank]
  split <;> cases step <;> rfl

theorem descend_sensitive {v x : JsonValue} (h : v.Distinct) {path : List Step} {key : KString}
    (hkey : isSensitive key = true)
    (hx : (sanitizeItem v).descend (path ++ [.key key]) = some x) : x = blank key := by
  induction path generalizing v with
  | nil =>
    rw [List.nil_append, descend, child_sanitizeItem h] at hx
    cases hchild : v.child (.key key) with
    | none => simp [hchild] at hx
    | some c => simpa [hchild, hkey, descend, eq_comm] using hx
  | cons step path ih =>
    rw [List.cons_append, descend, child_sanitizeItem h] at hx
    cases hchild : v.child step with
    | none => simp [hchild] at hx
    | some c =>
      rw [hchild, Option.map_some, Option.bind_some] at hx
      cases step with
      | index i => exact ih (h.child hchild) hx
      | key name =>
        dsimp only at hx
        split at hx
        · -- nothing lies below a blank
          cases path <;> simp [descend, child_blank] at hx
        · exact ih (h.child hchild) hx

/-- What redaction does to a value: along harmless paths every object keeps its keys, every
array its length and everything else its value, and along any path a sensitive key leads to
its blank. -/
structure Redacted (v w : JsonValue) : Prop where
  kept : ∀ path : List Step, path.any Step.isSensitive = false →
    (w.descend path).map shape = (v.descend path).map shape
  clean : ∀ (path : List Step) (key : KString) (x : JsonValue), isSensitive key = true →
    w.descend (path ++ [.key key]) = some x → x = blank key

theorem redacted_sanitizeItem {v : JsonValue} (h : v.Distinct) : Redacted v (sanitizeItem v) where
  kept path hpath := by
    rw [descend_sanitizeItem h hpath, Option.map_map]
    cases hd : v.descend path with
    | none => rfl
    | some c => exact congrArg some (shape_sanitizeItem (h.descend hd))
  clean _ _ _ hkey hx := descend_sensitive h hkey hx

/-! ### Idempotence -/

theorem sanitizeEntry_idem {entry : KString × JsonValue}
    (h : sanitizeItem (sanitizeItem entry.2) = sanitizeItem entry.2) :
    sanitizeEntry (sanitizeEntry entry) = sanitizeEntry entry := by
  cases hkey : isSensitive entry.1 with
  | true => simp [sanitizeEntry, hkey]
  | false => simp [sanitizeEntry, hkey, h]

mutual

theorem sanitizeItem_idem : ∀ v : JsonValue, v.Distinct →
    sanitizeItem (sanitizeItem v) = sanitizeItem v
  | .array items, h => by
    rw [Distinct] at h
    rw [sanitizeItem, sanitizeItem, sanitizeArray_eq, sanitizeArray_eq,
      map_sanitizeItem_idem items h]
  | .object entries, h => by
    rw [Distinct] at h
    rw [sanitizeItem_object h.1,
      sanitizeItem_object ((map_fst_sanitizeEntry entries).symm ▸ h.1),
      map_sanitizeEntry_idem entries h.2]
  | .null, _ | .bool _, _ | .long _, _ | .double _, _ | .string _, _ => rfl

theorem map_sanitizeItem_idem : ∀ items : List JsonValue, DistinctItems items →
    (items.map sanitizeItem).map sanitizeItem = items.map sanitizeItem
  | [], _ => rfl
  | item :: rest, h => by
    rw [DistinctItems] at h
    rw [List.map_cons, List.map_cons, sanitizeItem_idem item h.1, map_sanitizeItem_idem rest h.2]

theorem map_sanitizeEntry_idem : ∀ entries : List (KString × JsonValue),
    DistinctEntries entries →
      (entries.map sanitizeEntry).map sanitizeEntry = entries.map sanitizeEntry
  | [], _ => rfl
  | (key, value) :: rest, h => by
    rw [DistinctEntries] at h
    rw [List.map_cons, List.map_cons, sanitizeEntry_idem (sanitizeItem_idem value h.1),
      map_sanitizeEntry_idem rest h.2]

end

theorem sanitizeForTrace_idem {o : JSONObject} (h : (JsonValue.object o).Distinct) :
    sanitizeForTrace (sanitizeForTrace o) = sanitizeForTrace o := by
  rw [Distinct] at h
  rw [sanitizeForTrace_eq h.1,
    sanitizeForTrace_eq ((map_fst_sanitizeEntry o).symm ▸ h.1), map_sanitizeEntry_idem o h.2]

end EventStore

end Dipecs.Device
