import Realtime.Message

/-!
# Frames

A frame is a run of records, each ended by a record separator. Every record is
read on its own, so a malformed one is reported and skipped, and the messages
around it are kept.
-/

namespace Realtime

namespace Frame

/-! ## One record -/

/-- What is wrong with a region of a frame. -/
inductive Tag where
  /-- No header in use starts the record. -/
  | unexpectedToken
  /-- The frame ends before its last record does. -/
  | unexpectedEnd
  /-- The header does not take this many arguments. -/
  | argumentCount
  deriving DecidableEq, Repr

/-- The wording of a tag. -/
def Tag.message : Tag → String
  | .unexpectedToken => "unexpected token"
  | .unexpectedEnd => "unexpected end of input"
  | .argumentCount => "invalid number of arguments"

/-- The message of a record, which is given without its separator. -/
def readRecord (record : Bytes) : Except Tag Message :=
  match Header.ofFields? (Pieces.fields Wire.unitSeparator record) with
  | none => .error .unexpectedToken
  | some (s, arguments) =>
    if s.admits arguments.length then .ok ⟨s.header, arguments⟩ else .error .argumentCount

/-! ## A whole frame -/

/-- A malformed region of a frame. -/
structure Fault where
  offset : Nat
  length : Nat
  tag : Tag
  deriving DecidableEq, Repr

/-- The wording of a fault. -/
def Fault.message (f : Fault) : String :=
  s!"{f.tag.message} at offset {f.offset} (length {f.length})"

/-- What a frame holds: its well-formed messages and its malformed regions,
each in order. -/
structure Reading where
  messages : List Message := []
  faults : List Fault := []
  deriving DecidableEq, Repr

/-- One record before the rest of a frame. The region of an empty record is
its separator; that of any other record leaves the separator out. -/
def Reading.cons (offset : Nat) (record : Bytes) (rest : Reading) : Reading :=
  match readRecord record with
  | .ok m => { rest with messages := m :: rest.messages }
  | .error tag =>
    { rest with faults := ⟨offset, max 1 record.length, tag⟩ :: rest.faults }

/-- Reads records of which the first starts at `offset`, and then a rest that
no separator ends. -/
def readRecords (offset : Nat) (tail : Bytes) : List Bytes → Reading
  | [] => if tail = [] then {} else { faults := [⟨offset, tail.length, .unexpectedEnd⟩] }
  | record :: others =>
    (readRecords (offset + record.length + 1) tail others).cons offset record

/-- Reads a frame. -/
def read (frame : Bytes) : Reading :=
  let (records, tail) := Pieces.records Wire.recordSeparator frame
  readRecords 0 tail records

end Frame

end Realtime
