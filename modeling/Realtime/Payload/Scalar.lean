import Realtime.Binary64.Decimal
import Realtime.Payload

/-!
# Values of the host language as payloads

What a program emits is a number, a text, or a text that may be missing. Each
has a JSON value, but for integers that no word holds; numbers that are not
finite have none of their own and are null.
-/

namespace Realtime

/-- A value that a program may emit. -/
inductive Scalar where
  | real (x : Decimal.Real)
  | integer (n : Int)
  | text (s : Option String)
  deriving DecidableEq, Repr

namespace Scalar

/-- The value as JSON. -/
def toJson : Scalar → Except Json.Fault Json.Value
  | .real (.finite x) => .ok (.number (.real x))
  | .real (.infinite _) => .ok .null
  | .real .notANumber => .ok .null
  | .integer n =>
    match Json.Value.ofInt? n with
    | some v => .ok v
    | none => .error .malformed
  | .text (some s) => .ok (.string s)
  | .text none => .ok .null

/-- The value as a payload. -/
def encode (s : Scalar) : Except Json.Fault Bytes :=
  s.toJson.map Payload.encode

end Scalar

end Realtime
