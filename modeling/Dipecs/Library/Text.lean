import Mathlib.Data.List.DropRight
import Mathlib.Data.List.Infix

/-! Text operations shared by the modelled languages: prefixes, substrings,
cutting at a delimiter and trimming.  Whitespace is a parameter, since the
languages disagree on it. -/

namespace Dipecs.Library.Text

def stripPrefix (pre s : String) : Option String :=
  (pre.toList.isPrefixOf? s.toList).map String.ofList

def startsWith (pre s : String) : Bool := pre.toList.isPrefixOf s.toList

def removePrefix (pre s : String) : String := (stripPrefix pre s).getD s

def contains (sub s : String) : Bool := decide (sub.toList <:+: s.toList)

def before (c : Char) (s : String) : String := String.ofList (s.toList.takeWhile (· ≠ c))

def rsplitOnce (c : Char) (s : String) : Option (String × String) :=
  if c ∈ s.toList then
    some (String.ofList (s.toList.rdropWhile (· ≠ c)).dropLast,
      String.ofList (s.toList.rtakeWhile (· ≠ c)))
  else none

/-- The Unicode property `White_Space`. -/
def isWhiteSpace (c : Char) : Bool :=
  decide (c.toNat ∈ [0x9, 0xA, 0xB, 0xC, 0xD, 0x20, 0x85, 0xA0, 0x1680, 0x2028, 0x2029, 0x202F,
    0x205F, 0x3000]) ||
  decide (0x2000 ≤ c.toNat ∧ c.toNat ≤ 0x200A)

def isBlank (ws : Char → Bool) (s : String) : Bool := s.toList.all ws

def trim (ws : Char → Bool) (s : String) : String :=
  String.ofList ((s.toList.dropWhile ws).rdropWhile ws)

theorem isPrefixOf?_eq_some (l t r : List Char) :
    l.isPrefixOf? t = some r ↔ t = l ++ r := by
  induction l generalizing t with
  | nil => cases t <;> simp [List.isPrefixOf?, eq_comm]
  | cons a l ih =>
    cases t with
    | nil => simp [List.isPrefixOf?]
    | cons b t =>
      simp only [List.isPrefixOf?, List.cons_append, List.cons.injEq]
      by_cases h : a = b
      · subst h
        simp [ih]
      · simp [h, Ne.symm h]

theorem stripPrefix_eq_some {pre s t : String} :
    stripPrefix pre s = some t ↔ s = pre ++ t := by
  simp only [stripPrefix, Option.map_eq_some_iff, isPrefixOf?_eq_some]
  constructor
  · rintro ⟨r, h, rfl⟩
    apply String.toList_inj.mp
    simpa using h
  · rintro rfl
    exact ⟨t.toList, by simp, String.ofList_toList⟩

@[simp] theorem stripPrefix_append (pre t : String) : stripPrefix pre (pre ++ t) = some t :=
  stripPrefix_eq_some.mpr rfl

@[simp] theorem removePrefix_append (pre t : String) : removePrefix pre (pre ++ t) = t := by
  simp [removePrefix]

theorem startsWith_iff {pre s : String} : startsWith pre s = true ↔ ∃ t, s = pre ++ t := by
  rw [startsWith, List.isPrefixOf_iff_prefix]
  constructor
  · rintro ⟨r, h⟩
    exact ⟨String.ofList r, String.toList_inj.mp (by simpa using h.symm)⟩
  · rintro ⟨t, rfl⟩
    exact ⟨t.toList, by simp⟩

theorem stripPrefix_eq_none {pre s : String} :
    stripPrefix pre s = none ↔ startsWith pre s = false := by
  rw [Option.eq_none_iff_forall_ne_some, ← Bool.not_eq_true, startsWith_iff]
  simp [stripPrefix_eq_some]

theorem removePrefix_of_not_startsWith {pre s : String} (h : startsWith pre s = false) :
    removePrefix pre s = s := by
  simp [removePrefix, stripPrefix_eq_none.mpr h]

theorem removePrefix_eq_self {pre s : String} {c : Char} (hc : c ∈ pre.toList)
    (hs : c ∉ s.toList) : removePrefix pre s = s := by
  apply removePrefix_of_not_startsWith
  rw [← Bool.not_eq_true, startsWith_iff]
  rintro ⟨t, rfl⟩
  exact hs (by simp [hc])

theorem before_eq_self {c : Char} {s : String} (h : c ∉ s.toList) : before c s = s := by
  have : s.toList.takeWhile (· ≠ c) = s.toList :=
    List.takeWhile_eq_self_iff.mpr fun d hd => by simpa using ne_of_mem_of_not_mem hd h
  rw [before, this, String.ofList_toList]

theorem rsplitOnce_append {c : Char} {s t : String} (h : c ∉ t.toList) :
    rsplitOnce c (s ++ String.singleton c ++ t) = some (s, t) := by
  have htake : (s.toList ++ c :: t.toList).rtakeWhile (· ≠ c) = t.toList := by
    rw [List.rtakeWhile, List.reverse_append, List.reverse_cons, List.append_assoc,
      List.takeWhile_append_of_pos (fun d hd => by
        simpa using ne_of_mem_of_not_mem (List.mem_reverse.mp hd) h)]
    simp
  have hdrop : (s.toList ++ c :: t.toList).rdropWhile (· ≠ c) = s.toList ++ [c] := by
    rw [List.rdropWhile, List.reverse_append, List.reverse_cons, List.append_assoc,
      List.dropWhile_append_of_pos (fun d hd => by
        simpa using ne_of_mem_of_not_mem (List.mem_reverse.mp hd) h)]
    simp
  rw [rsplitOnce, if_pos (by simp)]
  simp only [String.toList_append, String.toList_singleton, List.append_assoc,
    List.singleton_append, htake, hdrop, List.dropLast_concat, String.ofList_toList]

theorem trim_eq_self {ws : Char → Bool} {s : String} (h : ∀ c ∈ s.toList, ws c = false) :
    trim ws s = s := by
  have h1 : s.toList.dropWhile ws = s.toList := by
    rw [List.dropWhile_eq_self_iff]
    intro hl
    simp [h _ (List.getElem_mem hl)]
  have h2 : s.toList.rdropWhile ws = s.toList := by
    rw [List.rdropWhile_eq_self_iff]
    intro hl
    simp [h _ (List.getLast_mem hl)]
  simp [trim, h1, h2]

theorem trim_eq_self_iff {ws : Char → Bool} {s : String} : trim ws s = s ↔
    (∀ c, s.toList.head? = some c → ws c = false) ∧
      ∀ c, s.toList.getLast? = some c → ws c = false := by
  have hlist : trim ws s = s ↔ (s.toList.dropWhile ws).rdropWhile ws = s.toList := by
    rw [trim, ← String.toList_inj, String.toList_ofList]
  have hhead : s.toList.dropWhile ws = s.toList ↔
      ∀ c, s.toList.head? = some c → ws c = false := by
    cases s.toList <;> simp [List.dropWhile_eq_self_iff]
  have hlast : s.toList.rdropWhile ws = s.toList ↔
      ∀ c, s.toList.getLast? = some c → ws c = false := by
    rw [List.rdropWhile_eq_self_iff]
    rcases List.eq_nil_or_concat s.toList with h | ⟨l, c, h⟩ <;> simp [h]
  rw [hlist, ← hhead, ← hlast]
  constructor
  · intro h
    have hsuffix := List.dropWhile_suffix (l := s.toList) ws
    have hle := List.IsPrefix.length_le (List.rdropWhile_prefix ws (s.toList.dropWhile ws))
    rw [h] at hle
    have hdrop := hsuffix.eq_of_length (le_antisymm hsuffix.length_le hle)
    exact ⟨hdrop, by rwa [hdrop] at h⟩
  · rintro ⟨hdrop, hrdrop⟩
    rw [hdrop, hrdrop]

theorem trim_trim (ws : Char → Bool) (s : String) : trim ws (trim ws s) = trim ws s := by
  rw [trim_eq_self_iff, trim, String.toList_ofList]
  constructor
  · intro c hc
    obtain ⟨rest, hrest⟩ := List.rdropWhile_prefix ws (s.toList.dropWhile ws)
    have hhead : (s.toList.dropWhile ws).head? = some c := by
      rw [← hrest, List.head?_append, hc, Option.some_or]
    have hnot := List.head?_dropWhile_not ws s.toList
    rw [hhead] at hnot
    simpa using hnot
  · intro c hc
    have hne : (s.toList.dropWhile ws).rdropWhile ws ≠ [] := by
      intro hnil
      rw [hnil] at hc
      cases hc
    have hlast := List.rdropWhile_last_not ws (s.toList.dropWhile ws) hne
    rw [List.getLast?_eq_getLast_of_ne_nil hne, Option.some.injEq] at hc
    rw [← hc]
    exact Bool.eq_false_iff.mpr hlast

theorem trim_append {ws : Char → Bool} {pre s : String} (hpre : ∀ c ∈ pre.toList, ws c = false)
    (hs : trim ws s = s) : trim ws (pre ++ s) = pre ++ s := by
  obtain ⟨hhead, hlast⟩ := trim_eq_self_iff.mp hs
  rw [trim_eq_self_iff, String.toList_append, List.head?_append, List.getLast?_append]
  constructor
  · intro c hc
    rcases Option.or_eq_some_iff.mp hc with hc | ⟨-, hc⟩
    · exact hpre c (List.mem_of_head? hc)
    · exact hhead c hc
  · intro c hc
    rcases Option.or_eq_some_iff.mp hc with hc | ⟨-, hc⟩
    · exact hlast c hc
    · exact hpre c (List.mem_of_getLast? hc)

end Dipecs.Library.Text
