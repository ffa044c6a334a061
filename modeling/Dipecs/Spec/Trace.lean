import Dipecs.Spec.Intent

/-! Golden traces: the inputs of a window with what each layer is expected to make of them. -/

namespace Dipecs.Spec

structure ExecutedAction where
  actionType : String
  target : Option String
  executedAtMs : Int
  success : Bool
  errorReason : Option String
  deriving DecidableEq

/-- A source tier that is missing reads as `publicApi` where the trace is replayed. -/
structure GoldenTrace (F : Type) where
  traceId : String
  windowStartMs : Int
  windowEndMs : Int
  rawEvents : List RawEvent
  expectedSanitized : List SanitizedEvent
  expectedIntents : IntentBatch F
  expectedActions : List ExecutedAction
  sourceTiers : List SourceTier

structure ReplayResult where
  traceId : String
  sanitizationMatch : Bool
  sanitizationDivergences : List Nat
  policyMatch : Bool
  policyDivergences : List String
  executionMatch : Bool
  executionDivergences : List Nat
  deriving DecidableEq

def ReplayResult.allMatch (r : ReplayResult) : Bool :=
  r.sanitizationMatch && r.policyMatch && r.executionMatch

end Dipecs.Spec
