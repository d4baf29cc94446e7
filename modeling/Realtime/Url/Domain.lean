import Realtime.Text.Utf8
import Realtime.Url.Address
import Realtime.Url.Label

/-!
# Domain names

A domain name is text in which bytes may be written as `%` and two hexadecimal
digits. What is left after undoing that is mapped to the characters of host names
and read label by label.
-/

namespace Realtime.Url

/-! ## Percent encoding -/

/-- Whether a byte is a hexadecimal digit. -/
def isHexByte (b : UInt8) : Bool :=
  isHexDigit (Char.ofNat b.toNat)

/-- The byte that two hexadecimal digits write. -/
def byteOfHex (high low : UInt8) : UInt8 :=
  UInt8.ofNat
    (hexDigitValue (Char.ofNat high.toNat) * 16 + hexDigitValue (Char.ofNat low.toNat))

/-- Undoes percent encoding. A `%` without two digits stays. -/
def percentDecode : Bytes → Bytes
  | [] => []
  | b :: rest =>
    match rest with
    | high :: low :: after =>
      if b = 0x25 ∧ isHexByte high ∧ isHexByte low then byteOfHex high low :: percentDecode after
      else b :: percentDecode (high :: low :: after)
    | short => b :: short

/-! ## Host names -/

/-- A character that no domain name may hold. -/
def isForbidden (c : Char) : Bool :=
  c.toNat ≤ 0x20 || c.toNat = 0x7F || "%#/:<>?@[\\]^|".toList.contains c

/-- Whether the directions of the labels fit together. Only a name with text from
right to left asks for that. -/
def directionsFit (labels : List (List Char)) : Bool :=
  let turns := labels.any (·.any fun c => (Text.Direction.of c).turnsText)
  !turns || labels.all Label.directionFits

/-- The host name for the bytes of a domain name, if there is one. -/
def hostName? (bytes : Bytes) : Option (List Char) := do
  let text ← (Utf8.decode bytes).toOption
  let name := Text.compose (← mapText text.toList)
  guard (!name.any isForbidden)
  let labels ← (Pieces.fields '.' name).mapM Label.read?
  guard (directionsFit labels)
  return Pieces.join '.' labels

end Realtime.Url
