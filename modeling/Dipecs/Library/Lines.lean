import Mathlib.Data.List.DropRight

/-! Text that arrives in pieces, and the lines that are complete in it. -/

namespace Dipecs.Library

def completePart (cs : List Char) : List Char := cs.rdropWhile (· ≠ '\n')

def partialPart (cs : List Char) : List Char := cs.rtakeWhile (· ≠ '\n')

def nonEmptyLines (cs : List Char) : List (List Char) := (cs.splitOn '\n').filter (· ≠ [])

def Terminated (cs : List Char) : Prop := cs = [] ∨ ∃ ds, cs = ds ++ ['\n']

@[simp] theorem terminated_nil : Terminated [] := .inl rfl

theorem terminated_line (cs : List Char) : Terminated (cs ++ ['\n']) := .inr ⟨cs, rfl⟩

theorem Terminated.append {cs ds : List Char} (hc : Terminated cs) (hd : Terminated ds) :
    Terminated (cs ++ ds) := by
  rcases hd with rfl | ⟨es, rfl⟩
  · simpa using hc
  · exact .inr ⟨cs ++ es, by simp⟩

@[simp] theorem completePart_append_partialPart (cs : List Char) :
    completePart cs ++ partialPart cs = cs := by
  simp [completePart, partialPart, List.rdropWhile, List.rtakeWhile, ← List.reverse_append]

theorem not_mem_partialPart (cs : List Char) : '\n' ∉ partialPart cs := by
  intro h
  have := List.mem_rtakeWhile_imp h
  simp at this

theorem terminated_completePart (cs : List Char) : Terminated (completePart cs) := by
  by_cases h : completePart cs = []
  · exact .inl h
  · right
    have hlast : (completePart cs).getLast h = '\n' := by
      by_contra hne
      exact List.rdropWhile_last_not (fun c => decide (c ≠ '\n')) cs h (decide_eq_true hne)
    exact ⟨(completePart cs).dropLast, by rw [← hlast, List.dropLast_append_getLast]⟩

theorem completePart_append {cs ds : List Char} (hc : Terminated cs) (hd : '\n' ∉ ds) :
    completePart (cs ++ ds) = cs := by
  induction ds using List.reverseRecOn with
  | nil =>
    rw [List.append_nil]
    rcases hc with rfl | ⟨es, rfl⟩
    · rfl
    · exact List.rdropWhile_concat_neg _ _ _ (by simp)
  | append_singleton ds d ih =>
    rw [List.mem_append, not_or, List.mem_singleton] at hd
    rw [← List.append_assoc, completePart,
      List.rdropWhile_concat_pos _ _ _ (by simpa using Ne.symm hd.2)]
    exact ih hd.1

theorem completePart_terminated_append {cs : List Char} (hc : Terminated cs) (ds : List Char) :
    completePart (cs ++ ds) = cs ++ completePart ds := by
  conv_lhs => rw [← completePart_append_partialPart ds, ← List.append_assoc]
  exact completePart_append (hc.append (terminated_completePart ds)) (not_mem_partialPart ds)

theorem completePart_terminated {cs : List Char} (h : Terminated cs) : completePart cs = cs := by
  simpa using completePart_append h (List.not_mem_nil (a := '\n'))

theorem partialPart_terminated {cs : List Char} (h : Terminated cs) : partialPart cs = [] := by
  have := completePart_append_partialPart cs
  rw [completePart_terminated h] at this
  simpa using this

theorem splitOn_append (cs ds : List Char) :
    ((cs ++ ['\n']) ++ ds).splitOn '\n' = cs.splitOn '\n' ++ ds.splitOn '\n' := by
  rw [List.append_assoc]
  exact List.splitOn_append_cons_self cs ds

theorem nonEmptyLines_append {cs : List Char} (h : Terminated cs) (ds : List Char) :
    nonEmptyLines (cs ++ ds) = nonEmptyLines cs ++ nonEmptyLines ds := by
  rcases h with rfl | ⟨es, rfl⟩
  · simp [nonEmptyLines]
  · have hline := splitOn_append es []
    rw [List.append_nil] at hline
    simp only [nonEmptyLines, splitOn_append, hline, List.filter_append]
    simp

theorem mem_splitOn_append {cs ds line : List Char} (h : Terminated cs)
    (hline : line ∈ ds.splitOn '\n') : line ∈ (cs ++ ds).splitOn '\n' := by
  rcases h with rfl | ⟨es, rfl⟩
  · simpa using hline
  · rw [splitOn_append]
    exact List.mem_append_right _ hline

theorem nonEmptyLines_line {cs : List Char} (h : '\n' ∉ cs) (hne : cs ≠ []) :
    nonEmptyLines (cs ++ ['\n']) = [cs] := by
  have hline := splitOn_append cs []
  rw [List.append_nil] at hline
  rw [nonEmptyLines, hline, List.splitOn_eq_singleton h]
  simp [hne]

end Dipecs.Library
