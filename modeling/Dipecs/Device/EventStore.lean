import Dipecs.Library.Utf8

/-! The device's trace file: rows are appended whole, and the file can be cleared. -/

namespace Dipecs.Device

open Dipecs.Library

/-- The trace file; it exists once something has been appended. -/
abbrev TraceFile := Option (List UInt8)

namespace EventStore

/-- `row` is the event's JSON as `sanitizeForTrace` leaves it. -/
def append (file : TraceFile) (row : List Char) : TraceFile :=
  some (file.getD [] ++ Utf8.encode (row ++ ['\n']))

def clear (file : TraceFile) : TraceFile := file.map fun _ => []

end EventStore

end Dipecs.Device
