import Realtime.Binary64

/-!
# Reading decimals

Integers and floating point numbers as people write them: a sign, digits, a
point, an exponent. A number that the format cannot hold is read as infinite.
-/

namespace Realtime.Decimal

/-- The value of a digit. -/
def digit? (c : Char) : Option Nat :=
  if '0' ≤ c ∧ c ≤ '9' then some (c.toNat - '0'.toNat) else none

/-- The number that digits write. Other characters are refused. -/
def digits? (cs : List Char) : Option Nat :=
  cs.foldl (fun sum c => do return (← sum) * 10 + (← digit? c)) (some 0)

/-- Splits off a sign. -/
def sign (cs : List Char) : Bool × List Char :=
  match cs with
  | '-' :: rest => (true, rest)
  | '+' :: rest => (false, rest)
  | _ => (false, cs)

/-- An integer. -/
def int? (text : String) : Option Int :=
  match sign text.toList with
  | (_, []) => none
  | (negative, cs) =>
    (digits? cs).map fun n => if negative then -(n : Int) else n

/-- A number that may not be finite. -/
inductive Real where
  | finite (x : Binary64)
  | infinite (negative : Bool)
  | notANumber
  deriving DecidableEq, Repr

/-- The exponent that follows a mark, or none. -/
def exponent? (cs : List Char) : Option Int :=
  match cs with
  | [] => some 0
  | mark :: rest => if mark = 'e' ∨ mark = 'E' then int? (String.ofList rest) else none

/-- A number with an optional point and exponent. -/
def unsigned? (negative : Bool) (cs : List Char) : Option Real :=
  let whole := cs.takeWhile Char.isDigit
  let afterWhole := cs.dropWhile Char.isDigit
  let (fraction, rest) :=
    match afterWhole with
    | '.' :: more => (more.takeWhile Char.isDigit, more.dropWhile Char.isDigit)
    | other => ([], other)
  if whole = [] ∧ fraction = [] then none
  else do
    let exponent ← exponent? rest
    let significand ← digits? (whole ++ fraction)
    match Binary64.Magnitude.ofDecimal significand (exponent - fraction.length) with
    | some size => return .finite ⟨negative, size⟩
    | none => return .infinite negative

/-- A floating point number, or one of the names of those that are not finite. -/
def real? (text : String) : Option Real :=
  let (negative, cs) := sign text.toList
  let name := (String.ofList cs).toLower
  if name = "inf" ∨ name = "infinity" then some (.infinite negative)
  else if name = "nan" then some .notANumber
  else unsigned? negative cs

end Realtime.Decimal
