import Dipecs.Cli.Replay

/-! The two readers of one row format, the replay's ingest loop and the ingress of the
daemon, side by side: their verdicts on a line. -/

namespace Dipecs.Cli

open Dipecs.Spec Dipecs.Collector Dipecs.Library

/-- What a reader makes of a line, as far as the pipeline behind it can tell. -/
inductive IngestVerdict
  | blank
  | noRawEvent
  | error
  | accepted (rawEvent : RawEvent) (sourceTier : SourceTier) (capturedAtMs : Int)
  deriving DecidableEq

namespace IngestVerdict

def ofRecord : Except AndroidJsonlError AndroidJsonlRecord → IngestVerdict
  | .error _ => .error
  | .ok .emptyLine => .blank
  | .ok .noRawEvent => .noRawEvent
  | .ok (.envelope e) => .accepted e.rawEvent e.sourceTier e.capturedAtMs

def ofParsed : Replay.Parsed → IngestVerdict
  | .blank => .blank
  | .invalid _ => .error
  | .noRawEvent => .noRawEvent
  | .envelope e =>
    match RustCollectorIngress.accept e with
    | .error _ => .error
    | .ok ingested => .accepted ingested.rawEvent ingested.sourceTier e.capturedAtMs

end IngestVerdict

/-- A line apart from its times: a row is its JSON value with its raw event. -/
inductive IngestRow
  | blank
  | noRawEvent
  | error
  | row (value : Json) (rawEvent : RawEvent)

namespace IngestRow

def ofField (serde : Serde) (value : Json) : Option Json → IngestRow
  | none => .noRawEvent
  | some field =>
    if field.isNull then .noRawEvent
    else match serde.rawEvent field with
      | .error _ => .error
      | .ok rawEvent => .row value rawEvent

def ofText (serde : Serde) (text : String) : IngestRow :=
  if Text.isBlank Text.isWhiteSpace text then .blank
  else match serde.fromStr text with
    | .error _ => .error
    | .ok value => ofField serde value (value.get "rawEvent")

def verdict (capturedAtMs : Json → RawEvent → Int) : IngestRow → IngestVerdict
  | .blank => .blank
  | .noRawEvent => .noRawEvent
  | .error => .error
  | .row value rawEvent => .accepted rawEvent .publicApi (capturedAtMs value rawEvent)

theorem verdict_eq_iff {f g : Json → RawEvent → Int} (r : IngestRow) :
    r.verdict f = r.verdict g ↔
      ∀ value rawEvent, r = .row value rawEvent → f value rawEvent = g value rawEvent := by
  cases r <;> simp [verdict]

end IngestRow

namespace Replay

def timestampMs (value : Json) : Option Int := (value.get "timestampMs").bind Json.asI64

theorem parseLine_verdict (serde : Serde) (text : String) :
    IngestVerdict.ofParsed (parseLine serde text) =
      (IngestRow.ofText serde text).verdict fun value _ => (timestampMs value).getD 0 := by
  unfold parseLine IngestRow.ofText
  split
  · rfl
  · cases serde.fromStr text with
    | error message => rfl
    | ok value =>
      cases hfield : value.get "rawEvent" with
      | none => simp [IngestRow.ofField, hfield, Json.isNull, IngestVerdict.ofParsed,
          IngestRow.verdict]
      | some field =>
        cases hnull : field.isNull with
        | true =>
          simp only [hfield, Option.getD_some, hnull, if_true, IngestRow.ofField]
          rfl
        | false =>
          cases hevent : serde.rawEvent field <;>
            simp only [hfield, Option.getD_some, hnull, hevent, Bool.false_eq_true, if_false,
              IngestRow.ofField] <;> rfl

theorem parseRecord_verdict (serde : Serde) (text : String) :
    IngestVerdict.ofRecord (AndroidJsonlIngress.parseRecord serde text.toList) =
      (IngestRow.ofText serde text).verdict AndroidJsonlIngress.collectorTimestampMs := by
  unfold AndroidJsonlIngress.parseRecord IngestRow.ofText Text.isBlank
  split
  · rfl
  · rw [String.ofList_toList]
    cases serde.fromStr text with
    | error message => rfl
    | ok value =>
      cases hfield : value.get "rawEvent" with
      | none =>
        simp only [AndroidJsonlIngress.rawEventJson, hfield, Option.filter_none, IngestRow.ofField]
        rfl
      | some field =>
        cases hnull : field.isNull with
        | true =>
          simp only [AndroidJsonlIngress.rawEventJson, hfield, Option.filter_some, hnull,
            Bool.not_true, Bool.false_eq_true, if_false, if_true, IngestRow.ofField]
          rfl
        | false =>
          cases hevent : serde.rawEvent field <;>
            simp only [AndroidJsonlIngress.rawEventJson, hfield, Option.filter_some, hnull,
              Bool.not_false, Bool.false_eq_true, if_false, if_true, hevent,
              IngestRow.ofField] <;> rfl

theorem collectorTimestampMs_eq (value : Json) (rawEvent : RawEvent) :
    AndroidJsonlIngress.collectorTimestampMs value rawEvent =
      (timestampMs value).getD (AndroidJsonlIngress.eventTimestampMs rawEvent) := rfl

/-- The readers date a row alike if it has a 64-bit `timestampMs`, or its raw event is of the
time zero. -/
theorem parseLine_agrees_iff (serde : Serde) (text : String) :
    IngestVerdict.ofParsed (parseLine serde text) =
        IngestVerdict.ofRecord (AndroidJsonlIngress.parseRecord serde text.toList) ↔
      ∀ value rawEvent, IngestRow.ofText serde text = .row value rawEvent →
        (timestampMs value).isSome ∨ AndroidJsonlIngress.eventTimestampMs rawEvent = 0 := by
  rw [parseLine_verdict, parseRecord_verdict, IngestRow.verdict_eq_iff]
  refine forall₃_congr fun value rawEvent _ => ?_
  rw [collectorTimestampMs_eq]
  cases timestampMs value <;> simp [eq_comm]

namespace UndatedSample

/-- A row that leaves its date to the raw event. -/
def text : String :=
  "\x7b\"rawEvent\":\x7b\"ScreenState\":\x7b\"timestamp_ms\":1234," ++
    "\"state\":\"Interactive\"\x7d\x7d\x7d"

def value : Json :=
  .obj [("rawEvent", .obj [("ScreenState", .obj [("state", .str "Interactive"),
    ("timestamp_ms", .posInt 1234)])])]

def serde : Serde where
  fromStr line := if line = text then .ok value else .error "expected value at line 1 column 1"
  rawEvent
    | .obj [("ScreenState", .obj [("state", .str "Interactive"),
        ("timestamp_ms", .posInt timestamp)])] =>
      .ok (.screenState ⟨timestamp.toNat, .interactive⟩)
    | _ => .error "unknown variant"

end UndatedSample

theorem parseLine_disagrees_undated :
    IngestVerdict.ofParsed (parseLine UndatedSample.serde UndatedSample.text) ≠
      IngestVerdict.ofRecord
        (AndroidJsonlIngress.parseRecord UndatedSample.serde UndatedSample.text.toList) := by
  rw [parseLine_verdict, parseRecord_verdict]
  decide

end Replay

end Dipecs.Cli
