/-!
# Punycode

A label of a host name is looked up in ASCII. Its other characters are told by
numbers: each says how far to count from the last character that was put in,
going through all places of the text and then on to the next character. The
digits of a number are letters and figures to the base 36; where a number ends
depends on how large the last ones were.
-/

namespace Realtime.Url.Punycode

/-! ## Numbers -/

/-- The value of a digit: letters in either case, then figures. -/
def digit? (c : Char) : Option Nat :=
  if c.isLower then some (c.toNat - 'a'.toNat)
  else if c.isUpper then some (c.toNat - 'A'.toNat)
  else if c.isDigit then some (c.toNat - '0'.toNat + 26)
  else none

/-- A digit below this one, at a place of the number, is the last. -/
def threshold (bias place : Nat) : Nat :=
  if place ≤ bias then 1 else if bias + 26 ≤ place then 26 else place - bias

/-- All numbers of the decoder stay below this. -/
def limit : Nat := UInt32.size

/-- Reads one number and adds it to a sum. -/
def readNumber (bias place weight sum : Nat) : List Char → Option (Nat × List Char)
  | [] => none
  | c :: rest =>
    match digit? c with
    | none => none
    | some digit =>
      let longer := sum + digit * weight
      let heavier := weight * (36 - threshold bias place)
      if limit ≤ longer then none
      else if digit < threshold bias place then some (longer, rest)
      else if limit ≤ heavier then none
      else readNumber bias (place + 36) heavier longer rest

theorem readNumber_shorter {bias place weight sum next : Nat} {text rest : List Char}
    (read : readNumber bias place weight sum text = some (next, rest)) :
    rest.length < text.length := by
  induction text generalizing place weight sum with
  | nil => simp [readNumber] at read
  | cons c others shorter =>
    simp only [readNumber] at read
    split at read
    · simp at read
    · split at read
      · simp at read
      · split at read
        · simp only [Option.some.injEq, Prod.mk.injEq] at read
          simp [← read.2]
        · split at read
          · simp at read
          · have := shorter read
            simp only [List.length_cons]
            omega

/-! ## Adapting -/

/-- Divides until the rest is small, and counts the places. -/
def scaleDown (delta places : Nat) : Nat × Nat :=
  if 455 < delta then scaleDown (delta / 35) (places + 36) else (delta, places)
termination_by delta
decreasing_by exact Nat.div_lt_self (by omega) (by omega)

/-- The bias after a number, in a text that has come to this length. -/
def adapt (delta length : Nat) (isFirst : Bool) : Nat :=
  let halved := if isFirst then delta / 700 else delta / 2
  let (small, places) := scaleDown (halved + halved / length) 0
  places + 36 * small / (small + 38)

/-! ## Decoding -/

/-- Puts in the characters that numbers tell. -/
def insertAll (bias point place : Nat) (text code : List Char) : Option (List Char) :=
  match code with
  | [] => some text
  | c :: rest =>
    match _read : readNumber bias 36 1 place (c :: rest) with
    | none => none
    | some (next, others) =>
      let length := text.length + 1
      let reached := point + next / length
      if reached.isValidChar then
        insertAll (adapt (next - place) length (place = 0)) reached (next % length + 1)
          (text.insertIdx (next % length) (Char.ofNat reached)) others
      else none
termination_by code.length
decreasing_by exact readNumber_shorter (by assumption)

/-- The text that a code tells. What stands before the last `-` is taken over;
a `-` in front of everything is no such mark. -/
def decode (code : List Char) : Option (List Char) :=
  let numbers := (code.reverse.takeWhile (· ≠ '-')).reverse
  let taken := code.take (code.length - numbers.length - 1)
  if taken = [] then insertAll 72 0x80 0 [] code else insertAll 72 0x80 0 taken numbers

end Realtime.Url.Punycode
