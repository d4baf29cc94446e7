import Realtime.Header
import Realtime.Pieces

/-!
# Messages

A message is a header followed by arguments, which are byte strings. On the
wire a unit separator stands before every field but the first, and a record
separator ends the message. In readable form the two separators are shown as
`|` and `+`.
-/

namespace Realtime

namespace Wire

/-- Stands between the fields of a message. -/
def unitSeparator : UInt8 := 0x1F

/-- Ends every message. -/
def recordSeparator : UInt8 := 0x1E

end Wire

/-! ## Readable form -/

namespace Readable

/-- `|`, which stands for the unit separator. -/
def bar : UInt8 := 0x7C

/-- `+`, which stands for the record separator. -/
def plus : UInt8 := 0x2B

/-- The byte of the wire that a readable byte stands for. -/
def toWire (b : UInt8) : UInt8 :=
  if b = bar then Wire.unitSeparator
  else if b = plus then Wire.recordSeparator
  else b

/-- The readable byte that stands for a byte of the wire. -/
def ofWire (b : UInt8) : UInt8 :=
  if b = Wire.unitSeparator then bar
  else if b = Wire.recordSeparator then plus
  else b

/-- The wire bytes of a text in readable form. -/
def encode (text : String) : Bytes :=
  (Utf8.encode text).map toWire

/-- The readable form of wire bytes. Bytes that are no text show as replacement
characters. -/
def decode (bytes : Bytes) : String :=
  Utf8.lossy (bytes.map ofWire)

end Readable

/-! ## Messages -/

/-- A header and its arguments. -/
structure Message where
  header : Header
  arguments : List Bytes := []
  deriving DecidableEq, Repr

namespace Message

/-- A message that acknowledges nothing. -/
def plain (topic : Topic) (action : Action) (arguments : List Bytes := []) : Message :=
  ⟨⟨topic, action, false⟩, arguments⟩

/-- An acknowledgement. -/
def ack (topic : Topic) (action : Action) (arguments : List Bytes := []) : Message :=
  ⟨⟨topic, action, true⟩, arguments⟩

/-- The fields of the message, its header first. -/
def fields (m : Message) : List Bytes :=
  m.header.fields.map Utf8.encode ++ m.arguments

/-- The bytes of the message, the separator at the end included. -/
def encode (m : Message) : Bytes :=
  Pieces.join Wire.unitSeparator m.fields ++ [Wire.recordSeparator]

/-- The message in readable form. -/
def text (m : Message) : String :=
  Readable.decode m.encode

/-- A heartbeat of the server. -/
def isPing (m : Message) : Bool :=
  m.header.topic = .connection && m.header.action = .ping

end Message

/-- The bytes of a header alone, with no separator at the end. -/
def Header.encode (h : Header) : Bytes :=
  Pieces.join Wire.unitSeparator (h.fields.map Utf8.encode)

end Realtime
