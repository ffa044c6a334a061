import Dipecs.Library.Json
import Dipecs.Library.Lines
import Dipecs.Library.Text
import Dipecs.Library.Utf8
import Dipecs.Spec.Event

/-! The Android JSONL ingress: one collector event a line, and the tailer that polls the
growing file for lines. -/

namespace Dipecs.Collector

open Dipecs.Spec Dipecs.Library

/-- `serde_json`: the parser of values, and the derived decoder of raw events. -/
structure Serde where
  fromStr : String → Except String Json
  rawEvent : Json → Except String RawEvent

def isBlank (s : String) : Bool := Text.isBlank Text.isWhiteSpace s

inductive AndroidJsonlError
  | io
  | json (message : String)
  deriving DecidableEq

inductive AndroidJsonlRecord
  | emptyLine
  | noRawEvent
  | envelope (e : CollectorEnvelope)
  deriving DecidableEq

def AndroidJsonlRecord.intoEnvelope : AndroidJsonlRecord → Option CollectorEnvelope
  | .envelope e => some e
  | .emptyLine | .noRawEvent => none

namespace AndroidJsonlIngress

def rawEventJson (value : Json) : Option Json := (value.get "rawEvent").filter (!·.isNull)

def collectorSource (value : Json) : String :=
  (((value.get "source").bind Json.asStr).filter (!isBlank ·)).getD "apps.android-collector"

def collectorEventId (value : Json) : Option String :=
  ((value.get "eventId").bind Json.asStr).filter (!isBlank ·)

def eventTimestampMs : RawEvent → Int
  | .appTransition e => e.timestampMs
  | .binderTransaction e => e.timestampMs
  | .procStateChange e => e.timestampMs
  | .fileSystemAccess e => e.timestampMs
  | .notificationPosted e => e.timestampMs
  | .notificationInteraction e => e.timestampMs
  | .screenState e => e.timestampMs
  | .systemState e => e.timestampMs

def collectorTimestampMs (value : Json) (rawEvent : RawEvent) : Int :=
  ((value.get "timestampMs").bind Json.asI64).getD (eventTimestampMs rawEvent)

def envelopeOf (value : Json) (rawEvent : RawEvent) : CollectorEnvelope where
  schemaVersion := "dipecs.collector.v1"
  source := collectorSource value
  sourceTier := .publicApi
  deviceTraceId := collectorEventId value
  capturedAtMs := collectorTimestampMs value rawEvent
  receivedAtMs := none
  rawEvent := rawEvent

def parseRecord (serde : Serde) (line : List Char) :
    Except AndroidJsonlError AndroidJsonlRecord :=
  if line.all Text.isWhiteSpace then .ok .emptyLine
  else match serde.fromStr (String.ofList line) with
    | .error message => .error (.json message)
    | .ok value =>
      match rawEventJson value with
      | none => .ok .noRawEvent
      | some rawEventValue =>
        match serde.rawEvent rawEventValue with
        | .error message => .error (.json message)
        | .ok rawEvent => .ok (.envelope (envelopeOf value rawEvent))

def parseLine (serde : Serde) (line : List Char) :
    Except AndroidJsonlError (Option CollectorEnvelope) :=
  (parseRecord serde line).map AndroidJsonlRecord.intoEnvelope

end AndroidJsonlIngress

structure AndroidJsonlTailer where
  offset : Nat
  partialLine : List Char
  deriving DecidableEq

namespace AndroidJsonlTailer

def new : AndroidJsonlTailer := ⟨0, []⟩

def resetForRecreatedFile : AndroidJsonlTailer := ⟨0, []⟩

/-- Reading to a string fails as a whole when the bytes are not well-formed. -/
def readChunkAtOffset (file : List UInt8) (offset : Nat) : Option (List Char) :=
  Utf8.decode (file.drop offset)

def shouldRewindAfterChunkRead (t : AndroidJsonlTailer) (oldOffset : Nat) (chunk : List Char) :
    Bool :=
  if oldOffset == 0 || t.partialLine != [] then false
  else match chunk.find? fun c => !Text.isWhiteSpace c with
    | some c => c != '\x7b'
    | none => false

def readNewChunk (file : Option (List UInt8)) (t : AndroidJsonlTailer) :
    AndroidJsonlTailer × Except AndroidJsonlError (Option (List Char)) :=
  match file with
  | none => (t, .ok none)
  | some bytes =>
    let t := if bytes.length < t.offset then resetForRecreatedFile else t
    match readChunkAtOffset bytes t.offset with
    | none => (t, .error .io)
    | some chunk =>
      let read : AndroidJsonlTailer := { t with offset := t.offset + (bytes.drop t.offset).length }
      if read.shouldRewindAfterChunkRead t.offset chunk then
        match readChunkAtOffset bytes 0 with
        | none => (resetForRecreatedFile, .error .io)
        | some chunk => (⟨bytes.length, []⟩, .ok (if chunk = [] then none else some chunk))
      else (read, .ok (if chunk = [] then none else some chunk))

def trimEndCr (line : List Char) : List Char := line.rdropWhile (· = '\r')

def takeCompleteLines (t : AndroidJsonlTailer) (chunk : List Char) :
    AndroidJsonlTailer × List (List Char) :=
  let pending := t.partialLine ++ chunk
  ({ t with partialLine := partialPart pending },
    (nonEmptyLines (completePart pending)).map trimEndCr)

/-- The first line that is refused ends the loop and takes the others with it. -/
def parseCompleteLines (serde : Serde) :
    List (List Char) → Except AndroidJsonlError (List CollectorEnvelope)
  | [] => .ok []
  | line :: lines =>
    match AndroidJsonlIngress.parseLine serde (trimEndCr line) with
    | .error e => .error e
    | .ok envelope =>
      match parseCompleteLines serde lines with
      | .error e => .error e
      | .ok envelopes => .ok (envelope.toList ++ envelopes)

def poll (serde : Serde) (file : Option (List UInt8)) (t : AndroidJsonlTailer) :
    AndroidJsonlTailer × Except AndroidJsonlError (List CollectorEnvelope) :=
  match readNewChunk file t with
  | (t, .error e) => (t, .error e)
  | (t, .ok none) => (t, .ok [])
  | (t, .ok (some chunk)) =>
    let (t, lines) := takeCompleteLines t chunk
    (t, parseCompleteLines serde lines)

end AndroidJsonlTailer

end Dipecs.Collector
