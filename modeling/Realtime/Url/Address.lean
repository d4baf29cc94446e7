import Realtime.Pieces
import Realtime.Url.Fault

/-!
# Numeric hosts

A host may be an address in numbers. Of four-part addresses the parts may be
written in decimal, octal or hexadecimal, and the last part fills all the bytes
that are left. Addresses in brackets have eight groups of hexadecimal digits;
one run of groups may be left out, and the last two groups may be written as
four decimal bytes.

Only whether a text is an address is asked here, not which.
-/

namespace Realtime.Url

/-! ## Addresses of four parts -/

/-- `0` to `7`. -/
def isOctalDigit (c : Char) : Bool :=
  '0' ≤ c && c ≤ '7'

/-- The value of a hexadecimal digit, in either case. -/
def hexDigitValue (c : Char) : Nat :=
  if c.isDigit then c.toNat - '0'.toNat
  else if 'a' ≤ c then c.toNat - 'a'.toNat + 10
  else c.toNat - 'A'.toNat + 10

/-- `0` to `9`, `a` to `f`, `A` to `F`. -/
def isHexDigit (c : Char) : Bool :=
  c.isDigit || ('a' ≤ c && c ≤ 'f') || ('A' ≤ c && c ≤ 'F')

/-- The number that digits write to a base. -/
def numberOf (base : Nat) (digits : List Char) : Nat :=
  digits.foldl (fun sum c => sum * base + hexDigitValue c) 0

/-- A part of an address: hexadecimal after `0x`, octal after a zero, decimal
otherwise. No digits after `0x` mean zero. -/
def partNumber? (part : List Char) : Option Nat :=
  match part with
  | [] => none
  | ['0'] => some 0
  | '0' :: 'x' :: digits => if digits.all isHexDigit then some (numberOf 16 digits) else none
  | '0' :: 'X' :: digits => if digits.all isHexDigit then some (numberOf 16 digits) else none
  | '0' :: digits => if digits.all isOctalDigit then some (numberOf 8 digits) else none
  | digits => if digits.all Char.isDigit then some (numberOf 10 digits) else none

/-- The parts of a dotted text, of which a last empty one does not count. -/
def dottedParts (text : List Char) : List (List Char) :=
  let parts := Pieces.fields '.' text
  if parts.getLast? = some [] then parts.dropLast else parts

/-- Whether a domain has to be read as an address: its last part is a number,
or consists of digits. -/
def endsInNumber (domain : List Char) : Bool :=
  let parts := Pieces.fields '.' domain
  let last :=
    match parts.reverse with
    | [] => []
    | [] :: [] => []
    | [] :: before :: _ => before
    | final :: _ => final
  (last ≠ [] && last.all Char.isDigit) || (partNumber? last).isSome

/-- Whether numbers are the parts of an address. All but the last are bytes, and
the last fills the four bytes up. -/
def partsFit (numbers : List Nat) : Bool :=
  match numbers.reverse with
  | [] => false
  | last :: before =>
    before.length ≤ 3 && before.all (· ≤ 255) && decide (last < Nat.pow 256 (4 - before.length))

/-- Whether a text is an address of up to four parts. -/
def isIpv4 (text : List Char) : Bool :=
  match (dottedParts text).mapM partNumber? with
  | none => false
  | some numbers => partsFit numbers

/-! ## Addresses of eight groups -/

/-- One to four hexadecimal digits. -/
def isGroup (piece : List Char) : Bool :=
  piece ≠ [] && decide (piece.length ≤ 4) && piece.all isHexDigit

/-- A decimal byte without leading zeros. -/
def isDecimalByte (piece : List Char) : Bool :=
  piece ≠ [] && piece.all Char.isDigit && (piece.length = 1 || piece.head? ≠ some '0') &&
    decide (numberOf 10 piece ≤ 255)

/-- Four decimal bytes. -/
def isDottedBytes (piece : List Char) : Bool :=
  let bytes := Pieces.fields '.' piece
  bytes.length = 4 && bytes.all isDecimalByte

/-- Whether the pieces between colons complete an address of which `groups`
groups are read. `gap` says whether the run that is left out has been seen; it
counts as one group at least. A single colon at the end is a gap cut short. -/
def groupsFit (groups : Nat) (gap : Bool) : List (List Char) → Bool
  | [] => gap || groups = 8
  | [last] =>
    if last = [] then gap || groups = 8
    else if isGroup last then groups < 8 && (gap || groups = 7)
    else isDottedBytes last && groups ≤ 6 && (gap || groups = 6)
  | piece :: next :: others =>
    if piece = [] then groups < 8 && !gap && groupsFit (groups + 1) true (next :: others)
    else
      isGroup piece && groups < 8 && !(next = [] && others = []) &&
        groupsFit (groups + 1) gap (next :: others)

/-- Whether a text is an address of eight groups. A gap at the front needs both
its colons. -/
def isIpv6 (text : List Char) : Bool :=
  match Pieces.fields ':' text with
  | [] :: [] :: others => others ≠ [] && groupsFit 1 true others
  | [] :: _ => false
  | pieces => decide (2 ≤ text.length) && groupsFit 0 false pieces

end Realtime.Url
