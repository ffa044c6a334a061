import Dipecs.Library.Text

/-! Rows of delimited text: the scanner, and the quoting that it undoes. -/

namespace Dipecs.Cli.NextApp

open Dipecs.Library

def field (current : List Char) : String :=
  Text.trim Text.isWhiteSpace (String.ofList current)

/-- The loop over the characters, which sees one character ahead. -/
def scanRow (delimiter : Char) (fields : List String) (current : List Char) :
    Bool → List Char → List String
  | _, [] => fields ++ [field current]
  | true, '"' :: '"' :: chars => scanRow delimiter fields (current ++ ['"']) true chars
  | inQuotes, '"' :: chars => scanRow delimiter fields current (!inQuotes) chars
  | inQuotes, ch :: chars =>
    if ch = delimiter ∧ inQuotes = false then
      scanRow delimiter (fields ++ [field current]) [] inQuotes chars
    else scanRow delimiter fields (current ++ [ch]) inQuotes chars

def splitDelimited (line : String) (delimiter : Char) : List String :=
  scanRow delimiter [] [] false line.toList

/-- A field as it is written: wrapped in quotes if it has to be, or if it is asked for. -/
def quote (delimiter : Char) (wrap : Bool) (text : String) : List Char :=
  if wrap ∨ delimiter ∈ text.toList ∨ '"' ∈ text.toList then
    '"' :: (text.toList.flatMap fun c => if c = '"' then ['"', '"'] else [c]) ++ ['"']
  else text.toList

def quotedRow (delimiter : Char) (fields : List (String × Bool)) : String :=
  String.ofList ([delimiter].intercalate (fields.map fun f => quote delimiter f.2 f.1))

structure Trimmed (text : String) : Prop where
  head : ∀ c ∈ text.toList.head?, Text.isWhiteSpace c = false
  last : ∀ c ∈ text.toList.getLast?, Text.isWhiteSpace c = false

instance (text : String) : Decidable (Trimmed text) :=
  decidable_of_iff ((text.toList.head?.all (!Text.isWhiteSpace ·)) = true ∧
      (text.toList.getLast?.all (!Text.isWhiteSpace ·)) = true)
    ⟨fun h => ⟨by simpa [Option.all_eq_true] using h.1, by simpa [Option.all_eq_true] using h.2⟩,
      fun h => ⟨by simpa [Option.all_eq_true] using h.head,
        by simpa [Option.all_eq_true] using h.last⟩⟩

theorem Trimmed.field {text : String} (h : Trimmed text) : field text.toList = text := by
  have hdrop : text.toList.dropWhile Text.isWhiteSpace = text.toList := by
    rw [List.dropWhile_eq_self_iff]
    intro hl
    simpa using h.head _ (List.head?_eq_getElem? ▸ List.getElem?_eq_getElem hl)
  have hrdrop : text.toList.rdropWhile Text.isWhiteSpace = text.toList := by
    rw [List.rdropWhile_eq_self_iff]
    intro hl
    simpa using h.last _ (List.getLast?_eq_some_getLast hl)
  rw [NextApp.field, Text.trim, String.ofList_toList, hdrop, hrdrop, String.ofList_toList]

section scan
variable {delimiter : Char} (fields : List String)

theorem scanRow_keep {c : Char} (hquote : c ≠ '"') {inQuotes : Bool}
    (h : ¬(c = delimiter ∧ inQuotes = false)) (current chars : List Char) :
    scanRow delimiter fields current inQuotes (c :: chars) =
      scanRow delimiter fields (current ++ [c]) inQuotes chars := by
  rw [scanRow.eq_4 _ _ _ _ _ _ hquote fun _ _ hc _ => hquote hc, if_neg h]

theorem scanRow_quote (inQuotes : Bool) {chars : List Char} (h : chars.head? ≠ some '"')
    (current : List Char) :
    scanRow delimiter fields current inQuotes ('"' :: chars) =
      scanRow delimiter fields current (!inQuotes) chars :=
  scanRow.eq_3 _ _ _ _ _ fun _ _ hchars => h (hchars ▸ rfl)

theorem scanRow_open (current chars : List Char) :
    scanRow delimiter fields current false ('"' :: chars) =
      scanRow delimiter fields current true chars :=
  scanRow.eq_3 _ _ _ _ _ fun _ hfalse _ => Bool.false_ne_true hfalse

theorem scanRow_plain {text : List Char} (hdelimiter : delimiter ∉ text) (hquote : '"' ∉ text)
    (current rest : List Char) :
    scanRow delimiter fields current false (text ++ rest) =
      scanRow delimiter fields (current ++ text) false rest := by
  induction text generalizing current with
  | nil => rw [List.nil_append, List.append_nil]
  | cons c text ih =>
    rw [List.mem_cons, not_or] at hdelimiter hquote
    rw [List.cons_append, scanRow_keep fields (Ne.symm hquote.1) (fun h => hdelimiter.1 h.1.symm),
      ih hdelimiter.2 hquote.2, List.append_assoc, List.singleton_append]

theorem scanRow_doubled (text current : List Char) {rest : List Char}
    (hrest : rest.head? ≠ some '"') :
    scanRow delimiter fields current true
        (text.flatMap (fun c => if c = '"' then ['"', '"'] else [c]) ++ '"' :: rest) =
      scanRow delimiter fields (current ++ text) false rest := by
  induction text generalizing current with
  | nil =>
    rw [List.flatMap_nil, List.nil_append, List.append_nil]
    exact scanRow_quote fields true hrest current
  | cons c text ih =>
    rw [List.flatMap_cons, List.append_assoc, List.append_cons current c text]
    by_cases hc : c = '"'
    · subst hc
      rw [if_pos rfl, List.cons_append, List.cons_append, List.nil_append, scanRow.eq_2, ih]
    · rw [if_neg hc, List.singleton_append, scanRow_keep fields hc (by simp), ih]

theorem scanRow_field (text : String) (wrap : Bool) {rest : List Char}
    (hrest : rest.head? ≠ some '"') :
    scanRow delimiter fields [] false (quote delimiter wrap text ++ rest) =
      scanRow delimiter fields text.toList false rest := by
  unfold quote
  split
  · rw [List.cons_append, List.cons_append, List.append_assoc, List.singleton_append, scanRow_open,
      scanRow_doubled fields _ _ hrest, List.nil_append]
  · rename_i hplain
    simp only [not_or] at hplain
    rw [scanRow_plain fields hplain.2.1 hplain.2.2, List.nil_append]

theorem scanRow_row (hdelimiter : delimiter ≠ '"') {row : List (String × Bool)} (hne : row ≠ [])
    (htrimmed : ∀ f ∈ row, Trimmed f.1) :
    scanRow delimiter fields [] false
        ([delimiter].intercalate (row.map fun f => quote delimiter f.2 f.1)) =
      fields ++ row.map Prod.fst := by
  induction row generalizing fields with
  | nil => exact absurd rfl hne
  | cons f row ih =>
    obtain ⟨hf, hrow⟩ := List.forall_mem_cons.mp htrimmed
    cases row with
    | nil =>
      have hread : scanRow delimiter fields [] false (quote delimiter f.2 f.1 ++ []) =
          scanRow delimiter fields f.1.toList false [] := scanRow_field fields f.1 f.2 (by simp)
      rw [List.append_nil, scanRow.eq_1, hf.field] at hread
      simpa using hread
    | cons g row =>
      let written := [delimiter].intercalate ((g :: row).map fun f => quote delimiter f.2 f.1)
      have hjoin : [delimiter].intercalate
          ((f :: g :: row).map fun f => quote delimiter f.2 f.1) =
            quote delimiter f.2 f.1 ++ delimiter :: written := by
        simp [written, List.intercalate_cons_cons]
      have hrest : (delimiter :: written).head? ≠ some '"' := by simpa using hdelimiter
      rw [hjoin, scanRow_field fields f.1 f.2 hrest,
        scanRow.eq_4 _ _ _ _ _ _ hdelimiter (fun _ _ hc _ => hdelimiter hc),
        if_pos ⟨rfl, rfl⟩, hf.field, ih _ (List.cons_ne_nil _ _) hrow]
      simp

end scan

/-- Splitting undoes quoting, for every row and every choice of needless quotes. -/
theorem splitDelimited_quotedRow {delimiter : Char} (hdelimiter : delimiter ≠ '"')
    {fields : List (String × Bool)} (hne : fields ≠ []) (htrimmed : ∀ f ∈ fields, Trimmed f.1) :
    splitDelimited (quotedRow delimiter fields) delimiter = fields.map Prod.fst := by
  rw [splitDelimited, quotedRow, String.toList_ofList, scanRow_row [] hdelimiter hne htrimmed,
    List.nil_append]

theorem splitDelimited_quotedRow_sample :
    let row := [("say \"hi\", then go", false), ("", false), ("", true), ("mail", true)]
    quotedRow ',' row = "\"say \"\"hi\"\", then go\",,\"\",\"mail\"" ∧
      splitDelimited (quotedRow ',' row) ',' = row.map Prod.fst :=
  ⟨by decide +kernel, splitDelimited_quotedRow (by decide) (by decide) (by decide +kernel)⟩

end Dipecs.Cli.NextApp
