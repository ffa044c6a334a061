import Mathlib.Data.List.Basic

/-! Back-off after repeated failures: what is to be remembered of a history of attempts,
and until when a policy shuts out further ones. -/

namespace Dipecs.Library.Backoff

inductive Event
  | failure (time : Int)
  | success
  deriving DecidableEq

structure Record where
  failures : Nat
  lastFailure : Int
  deriving DecidableEq

def Record.observe (r : Record) : Event → Record
  | .failure time => ⟨r.failures + 1, time⟩
  | .success => ⟨0, r.lastFailure⟩

def recordOf (events : List Event) : Record := events.foldl Record.observe ⟨0, 0⟩

@[simp] theorem recordOf_nil : recordOf [] = ⟨0, 0⟩ := rfl

theorem recordOf_append (events more : List Event) :
    recordOf (events ++ more) = more.foldl Record.observe (recordOf events) :=
  List.foldl_append

theorem recordOf_replicate_failure (n : Nat) (time : Int) :
    recordOf (List.replicate (n + 1) (.failure time)) = ⟨n + 1, time⟩ := by
  induction n with
  | zero => rfl
  | succ n ih =>
    rw [List.replicate_succ', recordOf_append, ih]
    rfl

structure Policy where
  threshold : Nat
  wait : Int

variable (p : Policy)

/-- Until when attempts are shut out, where zero is never. -/
def Policy.deadline (r : Record) : Int :=
  if p.threshold ≤ r.failures then r.lastFailure + p.wait else 0

def Policy.Shut (r : Record) (now : Int) : Prop :=
  p.threshold ≤ r.failures ∧ now < r.lastFailure + p.wait

instance (r : Record) (now : Int) : Decidable (p.Shut r now) :=
  inferInstanceAs (Decidable (_ ∧ _))

variable {p}

theorem Policy.Shut.lt_deadline {r : Record} {now : Int} (h : p.Shut r now) :
    now < p.deadline r := by
  rw [deadline, if_pos h.1]
  exact h.2

theorem Policy.deadline_failure (r : Record) (time : Int) :
    p.deadline (r.observe (.failure time)) =
      if p.threshold ≤ r.failures + 1 then time + p.wait else 0 := rfl

theorem Policy.deadline_success (h : 0 < p.threshold) (r : Record) :
    p.deadline (r.observe .success) = 0 :=
  if_neg (Nat.not_le.mpr h)

theorem Policy.deadline_of_lt {r : Record} (h : r.failures < p.threshold) : p.deadline r = 0 :=
  if_neg (Nat.not_le.mpr h)

end Dipecs.Library.Backoff
