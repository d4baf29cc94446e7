import Realtime.Json.Value
import Realtime.Text.Utf8

/-!
# The words of a JSON text

Blanks, names of constants, strings and numbers. Each reader takes the bytes
that are left and gives what it read with the bytes after it. A text that ends
too early is told apart from one that goes wrong, so every reader stops at the
first byte that settles which of the two it is.
-/

namespace Realtime.Json

/-- A reading: a result and the bytes after it. -/
abbrev Scan (α : Type) :=
  Except Fault (α × Bytes)

/-! ## Single bytes -/

/-- `"` -/
def quote : UInt8 := 0x22

/-- `\` -/
def backslash : UInt8 := 0x5C

/-- `,` -/
def comma : UInt8 := 0x2C

/-- `:` -/
def colon : UInt8 := 0x3A

/-- `-` -/
def minus : UInt8 := 0x2D

/-- `+` -/
def plus : UInt8 := 0x2B

/-- `.` -/
def point : UInt8 := 0x2E

/-- `[` -/
def openBracket : UInt8 := 0x5B

/-- `]` -/
def closeBracket : UInt8 := 0x5D

/-- The brace that opens an object. -/
def openBrace : UInt8 := 0x7B

/-- The brace that closes an object. -/
def closeBrace : UInt8 := 0x7D

/-- `u` -/
def letterU : UInt8 := 0x75

/-- Space, tab, line feed and carriage return. -/
def isBlank (b : UInt8) : Bool :=
  b = 0x20 || b = 0x09 || b = 0x0A || b = 0x0D

/-- `0` to `9`. -/
def isDigit (b : UInt8) : Bool :=
  0x30 ≤ b && b ≤ 0x39

/-- `e` or `E`. -/
def isExponentMark (b : UInt8) : Bool :=
  b = 0x65 || b = 0x45

/-- What is left after blanks. -/
def skipBlanks (bytes : Bytes) : Bytes :=
  bytes.dropWhile isBlank

/-! ## Constants -/

/-- Reads the rest of a constant, of which the first letter is already read. -/
def expect : Bytes → Bytes → Except Fault Bytes
  | [], rest => .ok rest
  | _ :: _, [] => .error .unfinished
  | own :: others, b :: rest => if b = own then expect others rest else .error .malformed

/-- `ull` -/
def restOfNull : Bytes := [0x75, 0x6C, 0x6C]

/-- `rue` -/
def restOfTrue : Bytes := [0x72, 0x75, 0x65]

/-- `alse` -/
def restOfFalse : Bytes := [0x61, 0x6C, 0x73, 0x65]

/-! ## Strings -/

/-- The value of a hexadecimal digit, in either case. -/
def hexValue? (b : UInt8) : Option Nat :=
  if 0x30 ≤ b ∧ b ≤ 0x39 then some (b.toNat - 0x30)
  else if 0x61 ≤ b ∧ b ≤ 0x66 then some (b.toNat - 0x57)
  else if 0x41 ≤ b ∧ b ≤ 0x46 then some (b.toNat - 0x37)
  else none

/-- The value of hexadecimal digits. -/
def hexNumber? (digits : Bytes) : Option Nat :=
  digits.foldl (fun sum b => do return (← sum) * 16 + (← hexValue? b)) (some 0)

/-- The byte that a letter after a backslash stands for. -/
def unescape? (letter : UInt8) : Option UInt8 :=
  if letter = quote then some quote
  else if letter = backslash then some backslash
  else if letter = 0x2F then some 0x2F
  else if letter = 0x62 then some 0x08
  else if letter = 0x66 then some 0x0C
  else if letter = 0x6E then some 0x0A
  else if letter = 0x72 then some 0x0D
  else if letter = 0x74 then some 0x09
  else none

/-- The first of two code units for one character. -/
def isHighSurrogate (n : Nat) : Bool :=
  0xD800 ≤ n && n ≤ 0xDBFF

/-- The second of two code units for one character. -/
def isLowSurrogate (n : Nat) : Bool :=
  0xDC00 ≤ n && n ≤ 0xDFFF

/-- The bytes of the character with the given number. -/
def codePoint (n : Nat) : Bytes :=
  String.utf8EncodeChar (Char.ofNat n)

/-- Where a reader stands inside a string. -/
inductive Spot where
  /-- Between characters. -/
  | plain
  /-- After a backslash. -/
  | escaped
  /-- Inside the four digits of a code unit; `high` is the unit before it, if
  the two are to be one character. -/
  | unit (high : Option Nat) (digits : Bytes)
  /-- After the first of two code units. -/
  | half (high : Nat)
  /-- After the backslash of the second code unit. -/
  | halfEscaped (high : Nat)
  deriving DecidableEq, Repr

/-- A code unit with all its digits: where the reader stands after it, and the
bytes that it adds. The units for half a character have to come in pairs. -/
def finishUnit (high : Option Nat) (digits : Bytes) : Except Fault (Spot × Bytes) :=
  match hexNumber? digits with
  | none => .error .malformed
  | some n =>
    match high with
    | none =>
      if isLowSurrogate n then .error .malformed
      else if isHighSurrogate n then .ok (.half n, [])
      else .ok (.plain, codePoint n)
    | some h =>
      if isLowSurrogate n then
        .ok (.plain, codePoint ((h - 0xD800) * 0x400 + (n - 0xDC00) + 0x10000))
      else .error .malformed

/-- One byte inside a string that does not end it. -/
def stringStep (spot : Spot) (b : UInt8) : Except Fault (Spot × Bytes) :=
  match spot with
  | .plain =>
    if b = backslash then .ok (.escaped, [])
    else if b < 0x20 then .error .malformed
    else .ok (.plain, [b])
  | .escaped =>
    if b = letterU then .ok (.unit none [], [])
    else
      match unescape? b with
      | some byte => .ok (.plain, [byte])
      | none => .error .malformed
  | .unit high digits =>
    if digits.length < 3 then .ok (.unit high (digits ++ [b]), [])
    else finishUnit high (digits ++ [b])
  | .half high => if b = backslash then .ok (.halfEscaped high, []) else .error .malformed
  | .halfEscaped high =>
    if b = letterU then .ok (.unit (some high) [], []) else .error .malformed

/-- The bytes of a string up to the quote that ends it. -/
def stringBody (spot : Spot) : Bytes → Scan Bytes
  | [] => .error .unfinished
  | b :: rest =>
    if spot = .plain ∧ b = quote then .ok ([], rest)
    else
      match stringStep spot b with
      | .error fault => .error fault
      | .ok (next, added) =>
        match stringBody next rest with
        | .error fault => .error fault
        | .ok (body, left) => .ok (added ++ body, left)

/-- A string whose opening quote is already read. Whether its bytes are text is
asked last. -/
def string (bytes : Bytes) : Scan String :=
  match stringBody .plain bytes with
  | .error fault => .error fault
  | .ok (body, left) =>
    match Utf8.decode body with
    | .ok s => .ok (s, left)
    | .error _ => .error .malformed

/-! ## Numbers -/

/-- The digits at the front, and what follows them. -/
def digitRun (bytes : Bytes) : Bytes × Bytes :=
  (bytes.takeWhile isDigit, bytes.dropWhile isDigit)

/-- One more than the largest 64-bit word. -/
def wordLimit : Nat :=
  UInt64.size

/-- Appends digits to a number as long as it stays a word. Gives the number and
how many digits were appended; those after the first that does not fit are
left out too. -/
def appendDigits (n : Nat) : Bytes → Nat × Nat
  | [] => (n, 0)
  | b :: rest =>
    let longer := n * 10 + (b.toNat - 0x30)
    if longer < wordLimit then
      let (all, count) := appendDigits longer rest
      (all, count + 1)
    else (n, 0)

/-- A number with a point or an exponent, or too long for a word. -/
def real (negative : Bool) (significand : Nat) (exponent : Int) : Except Fault Number :=
  match (Binary64.Magnitude.ofNat significand).bind (·.scale exponent) with
  | some size => .ok (.real ⟨negative, size⟩)
  | none => .error .malformed

/-- A number without point and exponent. Zero with a sign, and what is too small
for a signed word, are not integers. -/
def integer (negative : Bool) (significand : Nat) : Except Fault Number :=
  if negative then
    if 0 < significand then
      match Whole.ofInt? (-significand) with
      | some n => .ok (.whole n)
      | none => real true significand 0
    else real true 0 0
  else
    match Whole.ofInt? significand with
    | some n => .ok (.whole n)
    | none => .error .malformed

/-- The exponent after its mark, added to the exponent so far. -/
def exponentPart (negative : Bool) (significand : Nat) (exponent : Int) (bytes : Bytes) :
    Scan Number :=
  let (down, unsigned) :=
    match bytes with
    | [] => (false, [])
    | b :: rest =>
      if b = plus then (false, rest) else if b = minus then (true, rest) else (false, bytes)
  match unsigned, digitRun unsigned with
  | [], _ => .error .unfinished
  | _ :: _, ([], _) => .error .malformed
  | _ :: _, (digits, left) =>
    let size : Int := digits.foldl (fun sum b => sum * 10 + (b.toNat - 0x30)) 0
    (real negative significand (if down then exponent - size else exponent + size)).map (·, left)

/-- What may follow the digits before the point. `dropped` of them are missing
from the significand. -/
def fractionPart (negative : Bool) (significand dropped : Nat) (bytes : Bytes) : Scan Number :=
  match bytes with
  | [] => finish bytes
  | b :: rest =>
    if b = point then
      match rest, digitRun rest with
      | [], _ => .error .unfinished
      | _ :: _, ([], _) => .error .malformed
      | _ :: _, (digits, left) =>
        let (longer, count) := appendDigits significand digits
        let exponent : Int := dropped - count
        match left with
        | [] => (real negative longer exponent).map (·, left)
        | mark :: after =>
          if isExponentMark mark then exponentPart negative longer exponent after
          else (real negative longer exponent).map (·, left)
    else if isExponentMark b then exponentPart negative significand dropped rest
    else finish bytes
where
  /-- A number that ends with the digits before the point. -/
  finish (left : Bytes) : Scan Number :=
    if dropped = 0 then (integer negative significand).map (·, left)
    else (real negative significand dropped).map (·, left)

/-- A number whose sign is already read. A zero stands alone before the point. -/
def unsignedNumber (negative : Bool) (bytes : Bytes) : Scan Number :=
  match bytes, digitRun bytes with
  | [], _ => .error .unfinished
  | _ :: _, ([], _) => .error .malformed
  | _ :: _, (first :: others, left) =>
    if first = 0x30 ∧ others ≠ [] then .error .malformed
    else
      let (significand, count) := appendDigits 0 (first :: others)
      fractionPart negative significand (others.length + 1 - count) left

end Realtime.Json
