/-! A bounded queue between one sender and one receiver: sending waits while the queue is
full and fails once the receiver is gone; receiving waits while the queue is empty and ends
once the sender is gone and the queue drained. -/

namespace Dipecs.Library

/-- What an operation that may have to wait says when it is polled. -/
inductive Poll (α : Type)
  | ready (value : α)
  | pending
  deriving DecidableEq

structure Channel (α : Type) where
  capacity : Nat
  queue : List α
  senderDropped : Bool
  receiverDropped : Bool

namespace Channel

variable {α : Type}

def new (capacity : Nat) : Channel α := ⟨capacity, [], false, false⟩

def dropSender (c : Channel α) : Channel α := { c with senderDropped := true }

def dropReceiver (c : Channel α) : Channel α := { c with receiverDropped := true }

/-- `none` where the receiver is gone. -/
def send (c : Channel α) (x : α) : Poll (Option (Channel α)) :=
  if c.receiverDropped then .ready none
  else if c.queue.length < c.capacity then .ready (some { c with queue := c.queue ++ [x] })
  else .pending

/-- `none` where the sender is gone and nothing is left. -/
def recv (c : Channel α) : Poll (Option (α × Channel α)) :=
  match c.queue with
  | x :: rest => .ready (some (x, { c with queue := rest }))
  | [] => if c.senderDropped then .ready none else .pending

variable {c c' : Channel α} {x : α}

theorem send_eq_some (h : c.send x = .ready (some c')) :
    c.receiverDropped = false ∧ c.queue.length < c.capacity ∧
      c' = { c with queue := c.queue ++ [x] } := by
  unfold send at h
  split at h
  · cases h
  · rename_i hreceiver
    split at h
    · rename_i hroom
      cases h
      exact ⟨by simpa using hreceiver, hroom, rfl⟩
    · cases h

theorem send_eq_none_iff : c.send x = .ready none ↔ c.receiverDropped = true := by
  unfold send
  split
  · simpa using ‹c.receiverDropped = true›
  · split <;> simpa using ‹¬c.receiverDropped = true›

theorem send_eq_pending_iff : c.send x = .pending ↔
    c.receiverDropped = false ∧ c.capacity ≤ c.queue.length := by
  unfold send
  split
  · simp [*]
  · split <;> simp_all

theorem recv_eq_some (h : c.recv = .ready (some (x, c'))) :
    c.queue = x :: c'.queue ∧ c' = { c with queue := c'.queue } := by
  unfold recv at h
  split at h
  · rename_i y rest hqueue
    cases h
    exact ⟨hqueue, rfl⟩
  · split at h <;> cases h

theorem recv_eq_none_iff : c.recv = .ready none ↔ c.queue = [] ∧ c.senderDropped = true := by
  unfold recv
  split
  · simp [*]
  · split <;> simp_all

theorem recv_eq_pending_iff : c.recv = .pending ↔ c.queue = [] ∧ c.senderDropped = false := by
  unfold recv
  split
  · simp [*]
  · split <;> simp_all

end Channel

end Dipecs.Library
