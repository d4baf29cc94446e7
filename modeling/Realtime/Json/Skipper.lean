import Realtime.Json.Reader

/-!
# Passing over JSON

Members that a reader does not know are passed over. Less is asked of them than
of a value that is kept: numbers may have any size, code units of half a
character may stand alone, and nothing limits the depth. A number that goes
wrong is malformed even where the text ends.
-/

namespace Realtime.Json

/-! ## Strings -/

/-- Where a reader stands inside a string that it passes over. -/
inductive SkipSpot where
  /-- Between characters. -/
  | plain
  /-- After a backslash. -/
  | escaped
  /-- Inside the four digits of a code unit. -/
  | unit (digits : Bytes)
  deriving DecidableEq, Repr

/-- One byte inside the string that does not end it. -/
def skipStringStep (spot : SkipSpot) (b : UInt8) : Except Fault SkipSpot :=
  match spot with
  | .plain =>
    if b = backslash then .ok .escaped else if b < 0x20 then .error .malformed else .ok .plain
  | .escaped =>
    if b = letterU then .ok (.unit [])
    else if (unescape? b).isSome then .ok .plain
    else .error .malformed
  | .unit digits =>
    if digits.length < 3 then .ok (.unit (digits ++ [b]))
    else if (hexNumber? (digits ++ [b])).isSome then .ok .plain
    else .error .malformed

/-- What follows the quote that ends the string. -/
def skipString (spot : SkipSpot) : Bytes → Except Fault Bytes
  | [] => .error .unfinished
  | b :: rest =>
    if spot = .plain ∧ b = quote then .ok rest
    else
      match skipStringStep spot b with
      | .error fault => .error fault
      | .ok next => skipString next rest

/-! ## Numbers -/

/-- Passes over an exponent after its mark. -/
def skipExponent (bytes : Bytes) : Except Fault Bytes :=
  let unsigned :=
    match bytes with
    | [] => []
    | b :: rest => if b = plus ∨ b = minus then rest else b :: rest
  match digitRun unsigned with
  | ([], _) => .error .malformed
  | (_, left) => .ok left

/-- Passes over an exponent, if there is one. -/
def skipOptionalExponent (bytes : Bytes) : Except Fault Bytes :=
  match bytes with
  | [] => .ok []
  | b :: rest => if isExponentMark b then skipExponent rest else .ok (b :: rest)

/-- Passes over a number whose sign is already read. -/
def skipNumber (bytes : Bytes) : Except Fault Bytes :=
  match digitRun bytes with
  | ([], _) => .error .malformed
  | (first :: others, left) =>
    if first = 0x30 ∧ others ≠ [] then .error .malformed
    else
      match left with
      | [] => .ok []
      | b :: rest =>
        if b = point then
          match digitRun rest with
          | ([], _) => .error .malformed
          | (_, after) => skipOptionalExponent after
        else skipOptionalExponent (b :: rest)

/-! ## Values -/

/-- Passes over a member. -/
def skipMember (skip : Bytes → Except Fault Bytes) (bytes : Bytes) : Except Fault Bytes :=
  match skipBlanks bytes with
  | [] => .error .unfinished
  | b :: rest =>
    if b = quote then
      match skipString .plain rest with
      | .error fault => .error fault
      | .ok afterName =>
        match memberColon afterName with
        | .error fault => .error fault
        | .ok afterColon => skip afterColon
    else .error .malformed

/-- Passes over a value that holds arrays and objects at most `depth` deep. -/
def skipValueTo (depth : Nat) (bytes : Bytes) : Except Fault Bytes :=
  match skipBlanks bytes with
  | [] => .error .unfinished
  | b :: rest =>
    if b = 0x6E then expect restOfNull rest
    else if b = 0x74 then expect restOfTrue rest
    else if b = 0x66 then expect restOfFalse rest
    else if b = minus then skipNumber rest
    else if isDigit b then skipNumber (b :: rest)
    else if b = quote then skipString .plain rest
    else
      match depth with
      | 0 => .error .malformed
      | inner + 1 =>
        if b = openBracket then
          (parts closeBracket (fun _ left => (skipValueTo inner left).map ((), ·)) () rest).map
            Prod.snd
        else if b = openBrace then
          (parts closeBrace
            (fun _ left => (skipMember (skipValueTo inner) left).map ((), ·)) () rest).map
            Prod.snd
        else .error .malformed

/-- Passes over a value. Each bracket takes a byte, so their number bounds the
depth. -/
def skipValue (bytes : Bytes) : Except Fault Bytes :=
  skipValueTo bytes.length bytes

/-! ## Values of a certain kind -/

/-- Why a value is refused that starts with these bytes and is of another kind
than asked for. A constant, number or string is first read to its end, and is
of another kind only if it is well-formed. -/
def otherKind (bytes : Bytes) : Fault :=
  match bytes with
  | [] => .malformed
  | b :: rest =>
    if b = 0x6E then afterReading (expect restOfNull rest)
    else if b = 0x74 then afterReading (expect restOfTrue rest)
    else if b = 0x66 then afterReading (expect restOfFalse rest)
    else if b = minus then afterReading (unsignedNumber true rest)
    else if isDigit b then afterReading (unsignedNumber false (b :: rest))
    else if b = quote then afterReading (string rest)
    else if b = openBracket ∨ b = openBrace then .mismatch
    else .malformed
where
  /-- The fault of a reading, or that its kind was not asked for. -/
  afterReading {α : Type} (reading : Except Fault α) : Fault :=
    match reading with
    | .error fault => fault
    | .ok _ => .mismatch

/-- A natural number below `limit`. -/
def boundedNat (limit : Nat) (bytes : Bytes) : Scan Nat :=
  match skipBlanks bytes with
  | [] => .error .unfinished
  | b :: rest =>
    if isDigit b then
      match unsignedNumber false (b :: rest) with
      | .error fault => .error fault
      | .ok (.whole n, left) =>
        if n.val < limit then .ok (n.val.toNat, left) else .error .mismatch
      | .ok (.real _, _) => .error .mismatch
    else .error (otherKind (b :: rest))

/-- A string. -/
def text (bytes : Bytes) : Scan String :=
  match skipBlanks bytes with
  | [] => .error .unfinished
  | b :: rest => if b = quote then string rest else .error (otherKind (b :: rest))

/-- Nothing, spelled as the constant. -/
def nothing (bytes : Bytes) : Scan Unit :=
  match skipBlanks bytes with
  | [] => .error .unfinished
  | b :: rest =>
    if b = 0x6E then (expect restOfNull rest).map ((), ·) else .error (otherKind (b :: rest))

end Realtime.Json
