import Realtime.Binary64.Shortest
import Realtime.Json.Value
import Realtime.Text.Utf8

/-!
# Printing JSON

The text of a value has no blanks. In a string only quotes, backslashes and
control characters are escaped, with a letter where there is one.
-/

namespace Realtime.Json

/-! ## Strings -/

/-- A hexadecimal digit, in lower case. -/
def hexDigit (n : Nat) : Char :=
  if n < 10 then Char.ofNat (48 + n) else Char.ofNat (87 + n)

/-- The letter that stands for a character after a backslash. -/
def escapeLetter? (c : Char) : Option Char :=
  if c = '"' then some '"'
  else if c = '\\' then some '\\'
  else if c = '\x08' then some 'b'
  else if c = '\t' then some 't'
  else if c = '\n' then some 'n'
  else if c = '\x0c' then some 'f'
  else if c = '\r' then some 'r'
  else none

/-- A character inside quotes. -/
def printChar (c : Char) : List Char :=
  match escapeLetter? c with
  | some letter => ['\\', letter]
  | none =>
    if c.toNat < 0x20 then
      ['\\', 'u', '0', '0', hexDigit (c.toNat / 16), hexDigit (c.toNat % 16)]
    else [c]

/-- A string in quotes. -/
def printString (s : String) : List Char :=
  '"' :: (s.toList.flatMap printChar ++ ['"'])

/-! ## Values -/

/-- An integer in decimal. -/
def printInt (n : Int) : List Char :=
  if n < 0 then '-' :: Nat.toDigits 10 n.natAbs else Nat.toDigits 10 n.natAbs

/-- A number. -/
def Number.print : Number → List Char
  | .whole n => printInt n.val
  | .real x => x.text

mutual

/-- The characters of a value. -/
def Value.print : Value → List Char
  | .null => ['n', 'u', 'l', 'l']
  | .bool true => ['t', 'r', 'u', 'e']
  | .bool false => ['f', 'a', 'l', 's', 'e']
  | .number n => n.print
  | .string s => printString s
  | .array items => '[' :: (printItems items ++ [']'])
  | .object members => '\x7b' :: (printMembers members ++ ['\x7d'])

/-- Items with a comma between them. -/
def printItems : List Value → List Char
  | [] => []
  | [item] => item.print
  | item :: next :: others => item.print ++ ',' :: printItems (next :: others)

/-- Members with a comma between them. -/
def printMembers : List (String × Value) → List Char
  | [] => []
  | [(name, value)] => printString name ++ ':' :: value.print
  | (name, value) :: next :: others =>
    printString name ++ ':' :: (value.print ++ ',' :: printMembers (next :: others))

end

/-- The text of a value. -/
def Value.text (v : Value) : String :=
  String.ofList v.print

/-- The bytes of the text of a value. -/
def Value.encode (v : Value) : Bytes :=
  Utf8.encode v.text

end Realtime.Json
