import Realtime.Payload

/-!
# Values of a certain shape

A reader of payloads often knows what it expects: an integer of some width, a
list, a record. A shape says which values fit, and gives those that do in the
form of that shape; integers that fit where a floating point number is expected
become one.
-/

namespace Realtime

/-- What a reader expects. -/
inductive Shape where
  | any
  /-- An integer from `least` to `greatest`. -/
  | integer (least greatest : Int)
  | real
  | bool
  | string
  /-- Null, or a value of the shape. -/
  | optional (inner : Shape)
  /-- An array of values of the shape. -/
  | list (inner : Shape)
  /-- An object whose members have the shape. -/
  | table (inner : Shape)
  /-- A record with two coordinates `x` and `y`, each a signed 32-bit word. -/
  | position

namespace Shape

/-- A signed 64-bit word. -/
def int64 : Shape :=
  .integer (-9223372036854775808) 9223372036854775807

/-- A 64-bit word without a sign. -/
def uint64 : Shape :=
  .integer 0 18446744073709551615

/-- A byte. -/
def uint8 : Shape :=
  .integer 0 255

/-- An integer within bounds. -/
def readInteger (least greatest : Int) : Json.Value → Option Json.Value
  | .number n => do
    let value ← n.whole?
    if least ≤ value ∧ value ≤ greatest then some (.number n) else none
  | _ => none

/-- A floating point number, or the one nearest to an integer. -/
def readReal : Json.Value → Option Json.Value
  | .number (.real x) => some (.number (.real x))
  | .number (.whole n) => (Binary64.ofInt n.val).map fun x => .number (.real x)
  | _ => none

/-- The bounds of a coordinate. -/
def readCoordinate : Json.Value → Option Json.Value :=
  readInteger (-2147483648) 2147483647

/-- The coordinates of a position, which is a record or a pair. A record may have
other members too. -/
def coordinates? : Json.Value → Option (Json.Value × Json.Value)
  | .array [x, y] => some (x, y)
  | .object members =>
    match Entries.find? "x" members, Entries.find? "y" members with
    | some x, some y => some (x, y)
    | _, _ => none
  | _ => none

/-- A position as a record. -/
def readPosition (v : Json.Value) : Option Json.Value := do
  let (x, y) ← coordinates? v
  return .object [("x", ← readCoordinate x), ("y", ← readCoordinate y)]

/-- A member whose value is read by `inner`. -/
def readMember (inner : Json.Value → Option Json.Value) (member : String × Json.Value) :
    Option (String × Json.Value) :=
  (inner member.2).map (member.1, ·)

/-- The value in the form of the shape, if it fits. -/
def read : Shape → Json.Value → Option Json.Value
  | .any, v => some v
  | .integer least greatest, v => readInteger least greatest v
  | .real, v => readReal v
  | .bool, .bool b => some (.bool b)
  | .string, .string s => some (.string s)
  | .optional _, .null => some .null
  | .optional inner, v => inner.read v
  | .list inner, .array items => (items.mapM inner.read).map .array
  | .table inner, .object members =>
    (members.mapM (readMember inner.read)).map .object
  | .position, v => readPosition v
  | _, _ => none

end Shape

namespace Payload

/-- The value of a payload that is expected to have a shape. -/
def decodeAs (shape : Shape) (bytes : Bytes) : Except Fault Json.Value :=
  match decode bytes with
  | .error fault => .error fault
  | .ok v =>
    match shape.read v with
    | some fitting => .ok fitting
    | none => .error (.json .mismatch)

end Payload

end Realtime
