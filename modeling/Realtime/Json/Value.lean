import Realtime.Binary64
import Realtime.NameMap

/-!
# JSON values

A number is an integer when it is written as one and fits a machine word, and
a binary floating point number otherwise. An object lists its members in
ascending order of their names; the last of two members with one name counts.
-/

namespace Realtime.Json

/-- An integer that fits a 64-bit word, with or without a sign. -/
structure Whole where
  val : Int
  lower : -9223372036854775808 ≤ val := by decide
  upper : val < 18446744073709551616 := by decide
  deriving DecidableEq, Repr

namespace Whole

/-- The word for an integer, if there is one. -/
def ofInt? (n : Int) : Option Whole :=
  if h : -9223372036854775808 ≤ n ∧ n < 18446744073709551616 then some ⟨n, h.1, h.2⟩ else none

theorem ofInt?_val (w : Whole) : ofInt? w.val = some w := by
  simp [ofInt?, w.lower, w.upper]

end Whole

/-- A number as JSON tells numbers apart. -/
inductive Number where
  | whole (n : Whole)
  | real (x : Binary64)
  deriving DecidableEq, Repr

/-- A JSON value. -/
inductive Value where
  | null
  | bool (b : Bool)
  | number (n : Number)
  | string (s : String)
  | array (items : List Value)
  | object (members : List (String × Value))

/-- Why a JSON text is refused. -/
inductive Fault where
  /-- The text is no JSON. -/
  | malformed
  /-- The text ends inside a value. -/
  | unfinished
  /-- The text is JSON of another kind than asked for. -/
  | mismatch
  deriving DecidableEq, Repr

/-- The integer of a number that is one. -/
def Number.whole? : Number → Option Int
  | .whole n => some n.val
  | .real _ => none

/-- The integer as a value, if it fits. -/
def Value.ofInt? (n : Int) : Option Value :=
  (Whole.ofInt? n).map fun w => .number (.whole w)

end Realtime.Json
