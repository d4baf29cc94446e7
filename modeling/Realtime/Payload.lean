import Realtime.Error
import Realtime.Json.Printer
import Realtime.Json.Reader

/-!
# Typed payloads

The data of an event says in its first byte what it is: a string, a number,
one of the constants, or an object. Strings follow as they are, numbers and
objects as JSON, and constants need no more. Arrays count as objects.
-/

namespace Realtime

namespace Payload

/-! ## Kinds -/

/-- What a payload announces. -/
inductive Kind where
  | string
  | number
  | true
  | false
  | null
  | undefined
  | object
  deriving DecidableEq, Repr

/-- The letter of a kind. -/
def Kind.letter : Kind → UInt8
  | .string => 0x53
  | .number => 0x4E
  | .true => 0x54
  | .false => 0x46
  | .null => 0x4C
  | .undefined => 0x55
  | .object => 0x4F

/-- Every kind. -/
def Kind.all : List Kind :=
  [.string, .number, .true, .false, .null, .undefined, .object]

/-- The kind of a letter. -/
def Kind.ofLetter? (letter : UInt8) : Option Kind :=
  Kind.all.find? fun kind => kind.letter = letter

theorem Kind.ofLetter?_letter (kind : Kind) : Kind.ofLetter? kind.letter = some kind := by
  cases kind <;> decide

/-- The kind of a value. No value is `undefined`. -/
def Kind.of : Json.Value → Kind
  | .null => .null
  | .bool Bool.true => .true
  | .bool Bool.false => .false
  | .number _ => .number
  | .string _ => .string
  | .array _ => .object
  | .object _ => .object

/-! ## Encoding -/

/-- What follows the letter of a value. -/
def body : Json.Value → Bytes
  | .null => []
  | .bool _ => []
  | .string s => Utf8.encode s
  | .number n => (Json.Value.number n).encode
  | .array items => (Json.Value.array items).encode
  | .object members => (Json.Value.object members).encode

/-- The payload of a value. -/
def encode (v : Json.Value) : Bytes :=
  (Kind.of v).letter :: body v

/-! ## Decoding -/

/-- Why a payload is refused. -/
inductive Fault where
  | empty
  | unknownKind (letter : UInt8)
  | notText (fault : Utf8.Fault)
  | json (fault : Json.Fault)
  deriving DecidableEq, Repr

/-- A byte as the character of that number, in quotes. Control characters and
the two blanks that cannot be seen are spelled out. -/
def quotedByte (b : UInt8) : String :=
  let shown : List Char :=
    if b = 0x00 then ['\\', '0']
    else if b = 0x09 then ['\\', 't']
    else if b = 0x0A then ['\\', 'n']
    else if b = 0x0D then ['\\', 'r']
    else if b = 0x27 then ['\\', '\'']
    else if b = 0x5C then ['\\', '\\']
    else if b < 0x20 ∨ (0x7F ≤ b ∧ b ≤ 0xA0) ∨ b = 0xAD then
      '\\' :: 'u' :: '\x7b' :: (Nat.toDigits 16 b.toNat ++ ['\x7d'])
    else [Char.ofNat b.toNat]
  String.ofList ('\'' :: (shown ++ ['\'']))

/-- The value that a payload of the given kind carries. Nothing is asked of what
follows the letter of a constant, and a number or an object may be any JSON. -/
def decodeBody (rest : Bytes) : Kind → Except Fault Json.Value
  | .string =>
    match Utf8.decode rest with
    | .ok s => .ok (.string s)
    | .error fault => .error (.notText fault)
  | .number => (Json.decode rest).mapError .json
  | .object => (Json.decode rest).mapError .json
  | .true => .ok (.bool Bool.true)
  | .false => .ok (.bool Bool.false)
  | .null => .ok .null
  | .undefined => .ok .null

/-- The value of a payload. `undefined` has no value of its own and reads as
null. -/
def decode : Bytes → Except Fault Json.Value
  | [] => .error .empty
  | letter :: rest =>
    match Kind.ofLetter? letter with
    | none => .error (.unknownKind letter)
    | some kind => decodeBody rest kind

/-- The fault as an error of the library. -/
def Fault.toError : Fault → Error
  | .empty => .invalidPayload "empty payload"
  | .unknownKind letter => .invalidPayload s!"unknown type prefix {quotedByte letter}"
  | .notText fault => .invalidPayload fault.message
  | .json fault => .json fault

end Payload

end Realtime
