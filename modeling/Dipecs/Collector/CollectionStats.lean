import Dipecs.Spec.Event
import Mathlib.Data.UInt

/-! Counts of raw events by kind, without their content. -/

namespace Dipecs.Collector

open Dipecs.Spec

inductive RawEventKind
  | appTransition | binderTransaction | procStateChange | fileSystemAccess
  | notificationPosted | notificationInteraction | screenState | systemState
  deriving DecidableEq

structure RawEventStats where
  appTransition : UInt64
  binderTransaction : UInt64
  procStateChange : UInt64
  fileSystemAccess : UInt64
  notificationPosted : UInt64
  notificationInteraction : UInt64
  screenState : UInt64
  systemState : UInt64
  deriving DecidableEq

namespace RawEventStats

def default : RawEventStats := ⟨0, 0, 0, 0, 0, 0, 0, 0⟩

def record (s : RawEventStats) : RawEvent → RawEventStats
  | .appTransition _ => { s with appTransition := s.appTransition + 1 }
  | .binderTransaction _ => { s with binderTransaction := s.binderTransaction + 1 }
  | .procStateChange _ => { s with procStateChange := s.procStateChange + 1 }
  | .fileSystemAccess _ => { s with fileSystemAccess := s.fileSystemAccess + 1 }
  | .notificationPosted _ => { s with notificationPosted := s.notificationPosted + 1 }
  | .notificationInteraction _ =>
    { s with notificationInteraction := s.notificationInteraction + 1 }
  | .screenState _ => { s with screenState := s.screenState + 1 }
  | .systemState _ => { s with systemState := s.systemState + 1 }

def count (s : RawEventStats) : RawEventKind → UInt64
  | .appTransition => s.appTransition
  | .binderTransaction => s.binderTransaction
  | .procStateChange => s.procStateChange
  | .fileSystemAccess => s.fileSystemAccess
  | .notificationPosted => s.notificationPosted
  | .notificationInteraction => s.notificationInteraction
  | .screenState => s.screenState
  | .systemState => s.systemState

def summaryFields (s : RawEventStats) : List (String × UInt64) :=
  [("app_transition", s.appTransition), ("binder_transaction", s.binderTransaction),
   ("proc_state_change", s.procStateChange), ("file_system_access", s.fileSystemAccess),
   ("notification_posted", s.notificationPosted),
   ("notification_interaction", s.notificationInteraction),
   ("screen_state", s.screenState), ("system_state", s.systemState)]

def total (s : RawEventStats) : UInt64 := (s.summaryFields.map Prod.snd).sum

@[simp] theorem default_total : default.total = 0 := by decide

theorem record_total (s : RawEventStats) (e : RawEvent) : (s.record e).total = s.total + 1 := by
  cases e <;> simp only [record, total, summaryFields, List.map_cons, List.map_nil, List.sum_cons,
    List.sum_nil] <;> ac_rfl

end RawEventStats

end Dipecs.Collector
