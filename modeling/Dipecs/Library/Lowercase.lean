import Mathlib.Data.List.Basic

/-! Lowercase text: a table for single characters, and the sigma that looks around itself for
the end of a word. -/

namespace Dipecs.Library

/-- What the Unicode character database says of case.  A space is neither letter nor mark. -/
structure CaseTable where
  lower : Char → List Char
  cased : Char → Bool
  caseIgnorable : Char → Bool
  lower_space : lower ' ' = [' ']
  cased_space : cased ' ' = false
  caseIgnorable_space : caseIgnorable ' ' = false

namespace CaseTable

variable (t : CaseTable)

def caseIgnorableThenCased (cs : List Char) : Bool :=
  match cs.dropWhile t.caseIgnorable with
  | [] => false
  | c :: _ => t.cased c

/-- A capital sigma is final after a cased letter unless one follows. -/
def lowerAt (before : List Char) (c : Char) (after : List Char) : List Char :=
  if c = 'Σ' then
    if t.caseIgnorableThenCased before && !t.caseIgnorableThenCased after then ['ς'] else ['σ']
  else t.lower c

def lowerFrom (before : List Char) : List Char → List Char
  | [] => []
  | c :: after => t.lowerAt before c after ++ lowerFrom (c :: before) after

def toLowercase (s : String) : String := String.ofList (t.lowerFrom [] s.toList)

theorem caseIgnorableThenCased_space (cs : List Char) :
    t.caseIgnorableThenCased (cs ++ [' ']) = t.caseIgnorableThenCased cs := by
  induction cs with
  | nil => simp [caseIgnorableThenCased, t.caseIgnorable_space, t.cased_space]
  | cons c cs ih =>
    unfold caseIgnorableThenCased at ih ⊢
    rw [List.cons_append, List.dropWhile_cons, List.dropWhile_cons]
    by_cases hc : t.caseIgnorable c = true
    · rw [if_pos hc, if_pos hc, ih]
    · rw [if_neg hc, if_neg hc]

theorem lowerFrom_space (before cs : List Char) :
    t.lowerFrom before (cs ++ [' ']) = t.lowerFrom before cs ++ [' '] := by
  induction cs generalizing before with
  | nil => simp [lowerFrom, lowerAt, t.lower_space]
  | cons c cs ih =>
    rw [List.cons_append, lowerFrom, lowerFrom, ih, lowerAt, caseIgnorableThenCased_space,
      ← lowerAt, List.append_assoc]

theorem toLowercase_space (s : String) : t.toLowercase (s ++ " ") = t.toLowercase s ++ " " := by
  have hspace : (" " : String).toList = [' '] := rfl
  rw [← String.toList_inj, toLowercase, String.toList_ofList, String.toList_append,
    String.toList_append, hspace, lowerFrom_space, toLowercase, String.toList_ofList]

end CaseTable

end Dipecs.Library
