import Mathlib.Algebra.Group.Int.Defs
import Mathlib.Algebra.Group.Nat.Defs
import Mathlib.Data.List.Basic

/-! Decimal numbers in text: what a fixed-width integer reads, with the sign it allows, and
text that is one field between delimiters. -/

namespace Dipecs.Library.Decimal

def readDigits (cs : List Char) : Option Nat :=
  if cs ≠ [] ∧ cs.all Char.isDigit then some (Nat.ofDigitChars 10 cs 0) else none

def readUnsigned (bits : Nat) : List Char → Option Nat
  | '+' :: cs => (readDigits cs).filter (· < 2 ^ bits)
  | cs => (readDigits cs).filter (· < 2 ^ bits)

def readSigned (bits : Nat) : List Char → Option Int
  | '-' :: cs => ((readDigits cs).filter (· ≤ 2 ^ (bits - 1))).map fun n => -(n : Int)
  | '+' :: cs => ((readDigits cs).filter (· < 2 ^ (bits - 1))).map Int.ofNat
  | cs => ((readDigits cs).filter (· < 2 ^ (bits - 1))).map Int.ofNat

def splitOnce (c : Char) (cs : List Char) : Option (List Char × List Char) :=
  if c ∈ cs then some (cs.takeWhile (· ≠ c), (cs.dropWhile (· ≠ c)).tail) else none

theorem splitOnce_append {c : Char} {cs : List Char} (h : c ∉ cs) (ds : List Char) :
    splitOnce c (cs ++ c :: ds) = some (cs, ds) := by
  have hall : ∀ d ∈ cs, decide (d ≠ c) = true := fun d hd => by
    simpa using ne_of_mem_of_not_mem hd h
  rw [splitOnce, if_pos (by simp), List.takeWhile_append_of_pos hall,
    List.dropWhile_append_of_pos hall]
  simp

theorem splitOnce_eq_none {c : Char} {cs : List Char} (h : c ∉ cs) : splitOnce c cs = none :=
  if_neg h

structure Digits where
  chars : List Char
  ne_nil : chars ≠ []
  isDigit : chars.all Char.isDigit = true

namespace Digits
variable (d : Digits)

def value : Nat := Nat.ofDigitChars 10 d.chars 0

theorem notMem {c : Char} (h : c.isDigit = false) : c ∉ d.chars := fun hc => by
  rw [List.all_eq_true.mp d.isDigit c hc] at h
  cases h

theorem readDigits_chars : readDigits d.chars = some d.value := if_pos ⟨d.ne_nil, d.isDigit⟩

theorem head_ne {c : Char} (h : c.isDigit = false) (cs : List Char) : d.chars ≠ c :: cs :=
  fun heq => d.notMem h (heq ▸ List.mem_cons_self)

theorem readUnsigned_chars (bits : Nat) :
    readUnsigned bits d.chars = if d.value < 2 ^ bits then some d.value else none := by
  unfold readUnsigned
  split
  · exact absurd ‹_› (d.head_ne (by decide) _)
  · rw [d.readDigits_chars, Option.filter_some]
    simp

theorem readSigned_chars (bits : Nat) :
    readSigned bits d.chars = if d.value < 2 ^ (bits - 1) then some (d.value : Int) else none := by
  unfold readSigned
  split
  · exact absurd ‹_› (d.head_ne (by decide) _)
  · exact absurd ‹_› (d.head_ne (by decide) _)
  · rw [d.readDigits_chars, Option.filter_some]
    split <;> simp_all

end Digits

end Dipecs.Library.Decimal
