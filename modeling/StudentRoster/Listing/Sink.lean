import StudentRoster.Listing

/-!
# Bounded sinks

A listing can be written to a place that holds only so many bytes. A line that does not fit is cut
where the room ends, and nothing is written after it. `size_written_write_le` says that a sink never
holds more than its capacity.
-/

set_option autoImplicit false

namespace StudentRoster

-- The equality of bytes is that of core, whatever else is in scope.
attribute [local instance (high)] ByteArray.instDecidableEq

/-- A place for bytes, of limited capacity or none. -/
structure Sink where
  capacity : Option Nat
  written : ByteArray
  deriving DecidableEq

namespace Sink

/-- The sink that holds nothing yet. -/
def empty (capacity : Option Nat) : Sink := ⟨capacity, ByteArray.empty⟩

/-- Writes as many of the bytes as fit, and fails when not all of them do. -/
def write (sink : Sink) (bytes : ByteArray) : Sink × Except FileError Unit :=
  match sink.capacity with
  | none => ({ sink with written := sink.written ++ bytes }, .ok ())
  | some capacity =>
    let room := capacity - sink.written.size
    ({ sink with written := sink.written ++ bytes.extract 0 room },
      if bytes.size ≤ room then .ok () else .error .sinkFull)

/-- Writes the lines of students until one does not fit. -/
def writeStudents (sink : Sink) : List Student → Sink × Except FileError Unit
  | [] => (sink, .ok ())
  | student :: rest =>
    match sink.write (Listing.printLine student).toUTF8 with
    | (sink, .ok ()) => sink.writeStudents rest
    | (sink, .error e) => (sink, .error e)

/-- No write fills a bounded sink beyond its capacity. -/
theorem size_written_write_le {sink : Sink} {bytes : ByteArray} {capacity : Nat}
    (hcapacity : sink.capacity = some capacity) (h : sink.written.size ≤ capacity) :
    (sink.write bytes).1.written.size ≤ capacity := by
  simp only [write, hcapacity, ByteArray.size_append, ByteArray.size_extract]
  omega

end Sink

end StudentRoster
